import LinkShortener.Fault

/-!
The keys of the key-value server with their texts. The lifetime that a key was last set with is
remembered beyond the key, so that a key made anew by counting has it again; lifetimes end
nothing here.
-/

namespace LinkShortener.KeyValue

/-- The keys, each with its text, and the lifetimes in seconds of those that were set. -/
structure Keyspace where
  texts : List (String × String)
  lifetimes : List (String × Option Int)
  deriving DecidableEq, Repr

namespace Keyspace

def empty : Keyspace := ⟨[], []⟩

def get? (k : Keyspace) (key : String) : Option String := k.texts.lookup key

/-- Pairs with one put in, in the place of any other of its key. -/
def put {α : Type} (pairs : List (String × α)) (key : String) (value : α) : List (String × α) :=
  pairs.filter (·.1 != key) ++ [(key, value)]

def set (k : Keyspace) (key text : String) (seconds : Option Int) : Keyspace :=
  ⟨put k.texts key text, put k.lifetimes key seconds⟩

def delete (k : Keyspace) (key : String) : Keyspace :=
  { k with texts := k.texts.filter (·.1 != key) }

/-- How often a key is there, which is once or not at all. -/
def count (k : Keyspace) (key : String) : Nat := if (k.get? key).isSome then 1 else 0

/-- Whether a number is a signed word of 64 bits with a successor. -/
def hasNext (n : Int) : Bool := -9223372036854775808 ≤ n && n < 9223372036854775807

/-- The number that a text is the canonical decimal of, if it has a successor. -/
def counter? (text : String) : Option Int :=
  match text.toInt? with
  | some n => if toString n == text && hasNext n then some n else none
  | none => none

/-- How the server tells that a key cannot be counted on. -/
def uncountable : Fault := .outage .keyValue "value is not an integer or out of range"

/-- The number after the one under a key, a missing key counting as zero, and the keys with
that number. -/
def increment (k : Keyspace) (key : String) : Except Fault (Int × Keyspace) :=
  match counter? ((k.get? key).getD "0") with
  | some n => .ok (n + 1, { k with texts := put k.texts key (toString (n + 1)) })
  | none => .error uncountable

/-- The server without keys; lifetimes stay remembered. -/
def flush (k : Keyspace) : Keyspace := { k with texts := [] }

/-- Every key with its text and lifetime. -/
def toList (k : Keyspace) : List (String × String × Option Int) :=
  k.texts.map fun (key, text) => (key, text, (k.lifetimes.lookup key).join)

end Keyspace

end LinkShortener.KeyValue
