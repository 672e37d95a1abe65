import LinkShortener.Json.Reader
import LinkShortener.Moment.Parser
import LinkShortener.Numeral.Grammar
import LinkShortener.Record.Flaw

/-!
Reading the fields of records. Texts are taken only from texts; whole numbers also from truth
values, from numbers without fraction and from lenient texts; points of civil time from texts
and numbers. Names count exactly, unknown members are passed over, and of equal names the last
one counts.
-/

namespace LinkShortener.Record

open Json (Value)

/-- Reads one kind of field: what a value stands for, or what is wrong with it. -/
abbrev Reader (α : Type) := Value → Except Defect α

def text : Reader String
  | .text s => .ok s
  | _ => .error .notText

/-- A whole number from a floating-point one. -/
def ofReal (x : Numeral.Binary64) : Except Defect Int :=
  match x with
  | .finite .. =>
    match x.whole? with
    | none => .error .intFraction
    | some n =>
      if -9223372036854775808 < n ∧ n < 9223372036854775808 then .ok n else .error .intSize
  | _ => .error .notFinite

def ofText (s : String) : Except Defect Int :=
  match Numeral.readLenient s with
  | .number n => .ok n
  | .flawed => .error .intText
  | .tooLong => .error .intSize

def int : Reader Int
  | .int n => .ok n
  | .bool b => .ok (if b then 1 else 0)
  | .text s => ofText s
  | .real d => ofReal (.ofDecimal d)
  | .nan => .error .notFinite
  | .infinite _ => .error .notFinite
  | _ => .error .notInt

/-- What is wrong with an unreadable point of civil time. -/
def momentDefect : Moment.Unreadable → Defect
  | .form => .momentText
  | .range => .momentRange

def moment : Reader Moment
  | .text s => (Moment.read s).mapError momentDefect
  | .int n =>
    if Moment.fitsWord n then (Moment.ofNumber (Moment.ofCount? n)).mapError momentDefect
    else .error .notMoment
  | .real d => (Moment.ofNumber (Moment.ofReal? (.ofDecimal d))).mapError momentDefect
  | .nan => .error .momentRange
  | .infinite _ => .error .momentRange
  | _ => .error .notMoment

/-- A value that comes from the program and not from a text: a whole number that does not fit in
sixty-four bits counts as the nearest real number, if there is one. -/
def handedOver : Value → Value
  | .object ms => .object (ms.map fun (name, v) => (name, widened v))
  | v => v
where
  /-- The real number that stands for a whole one, where it is needed. -/
  widened : Value → Value
    | .int n =>
      let d : Numeral.Decimal := ⟨n < 0, n.natAbs, 0⟩
      match Moment.fitsWord n, Numeral.Binary64.ofDecimal d with
      | false, .finite .. => .real d
      | _, _ => .int n
    | v => v

/-- One of finitely many texts. -/
def choice {α : Type} (options : List (String × α)) : Reader α
  | .text s => (options.lookup s).elim (.error .choice) .ok
  | _ => .error .choice

/-- A value with its place. -/
def located {α : Type} (place : List String) (read : Reader α) (v : Value) : Checked α :=
  (read v).mapError fun d => [⟨place, d⟩]

/-- A field that must be there. -/
def required {α : Type} (members : List (String × Value)) (name : String) (read : Reader α) :
    Checked α :=
  match Value.member? members name with
  | some v => located [name] read v
  | none => .flaw [name] .missing

/-- A field with a default. -/
def optional {α : Type} (members : List (String × Value)) (name : String) (read : Reader α)
    (default : α) : Checked α :=
  match Value.member? members name with
  | some v => located [name] read v
  | none => .ok default

/-- The members of an object, one for each name: the last value under it, at the place of the
first. -/
def distinct (members : List (String × Value)) : List (String × Value) :=
  (members.map (·.1)).eraseDups.filterMap fun n => (Value.member? members n).map (n, ·)

/-- A map from texts to whole numbers, empty when it is absent. -/
def counts (members : List (String × Value)) (name : String) : Checked (List (String × Int)) :=
  match Value.member? members name with
  | none => .ok []
  | some (.object entries) =>
    Checked.all (fun (k, v) => (located [name, k] int v).map (k, ·)) (distinct entries)
  | some _ => .flaw [name] .notMap

def members : Value → Checked (List (String × Value))
  | .object ms => .ok ms
  | _ => .flaw [] .notObject

/-- Reads a document in UTF-8. -/
def document (bytes : List UInt8) : Checked Value :=
  match Json.readBytes? .record bytes with
  | some v => .ok v
  | none => .flaw [] .notJson

end LinkShortener.Record
