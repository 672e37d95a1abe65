import LinkShortener.KeyValue.Keyspace
import LinkShortener.Link.Copies
import LinkShortener.Token
import Std.Data.String.ToInt

/-!
What the operations of the key-value server do to what is read from it: each changes the text of
its own key and of no other. A counter is read as the number that its text is the canonical
decimal of, a missing key as zero, and counting on adds one to that number.
-/

namespace LinkShortener.KeyValue.Keyspace

/-! ### Texts and lifetimes -/

theorem lookup_filter_ne {α : Type} (pairs : List (String × α)) (key k : String) :
    (pairs.filter (·.1 != key)).lookup k = if k = key then none else pairs.lookup k := by
  induction pairs with
  | nil => simp
  | cons pair rest ih =>
      obtain ⟨name, value⟩ := pair
      by_cases same : name = key
      · subst same
        by_cases asked : k = name
        · simp [asked] at ih ⊢
          exact ih
        · have other : (k == name) = false := by simpa using asked
          simp [ih, asked, List.lookup_cons, other]
      · have kept : (name != key) = true := by simpa using same
        rw [List.filter_cons_of_pos (by simpa using same)]
        simp only [List.lookup_cons, ih]
        by_cases asked : k = name
        · subst asked
          simp [same]
        · have other : (k == name) = false := by simpa using asked
          simp [other]

/-- What was put under a key is found there, and nothing else changes. -/
theorem lookup_put {α : Type} (pairs : List (String × α)) (key k : String) (value : α) :
    (put pairs key value).lookup k = if k = key then some value else pairs.lookup k := by
  rw [put, List.lookup_append, lookup_filter_ne]
  by_cases same : k = key
  · simp [same]
  · have other : (k == key) = false := by simpa using same
    simp [same, other, List.lookup_cons]

theorem get?_set (k : Keyspace) (key text name : String) (seconds : Option Int) :
    (k.set key text seconds).get? name = if name = key then some text else k.get? name :=
  lookup_put _ _ _ _

theorem lifetimes_set (k : Keyspace) (key text name : String) (seconds : Option Int) :
    (k.set key text seconds).lifetimes.lookup name =
      if name = key then some seconds else k.lifetimes.lookup name :=
  lookup_put _ _ _ _

theorem get?_delete (k : Keyspace) (key name : String) :
    (k.delete key).get? name = if name = key then none else k.get? name :=
  lookup_filter_ne _ _ _

/-! ### Counting -/

/-- The number that a text is the canonical decimal of. -/
def number? (text : String) : Option Int :=
  match text.toInt? with
  | some n => if toString n == text then some n else none
  | none => none

/-- The number under a key that is counted on, a missing key counting as zero. -/
def tally? (k : Keyspace) (key : String) : Option Int := number? ((k.get? key).getD "0")

@[simp] theorem number?_repr (n : Int) : number? n.repr = some n := by
  simp [number?]

theorem number?_toString (n : Int) : number? (toString n) = some n := number?_repr n

/-- What can be counted on is a number with a successor. -/
theorem counter?_eq_some {text : String} {n : Int} :
    counter? text = some n ↔ number? text = some n ∧ hasNext n = true := by
  unfold counter? number?
  cases text.toInt? with
  | none => simp
  | some m =>
      by_cases canonical : toString m = text
      · by_cases next : hasNext m = true
        · simp only [canonical, next, beq_self_eq_true, Bool.and_self, if_true,
            Option.some.injEq]
          exact ⟨fun same => ⟨same, same ▸ next⟩, And.left⟩
        · simp only [canonical, next, beq_self_eq_true, Bool.and_false, if_true,
            Option.some.injEq, Bool.false_eq_true, if_false, reduceCtorEq, false_iff]
          rintro ⟨rfl, holds⟩
          exact next holds
      · simp only [beq_eq_false_iff_ne.mpr canonical, Bool.false_and, Bool.false_eq_true,
          if_false, reduceCtorEq, false_and]

/-- Counting on adds one to the number under the key and changes nothing else. -/
theorem increment_eq_ok {k k' : Keyspace} {key : String} {n : Int} :
    k.increment key = .ok (n, k') ↔
      k.tally? key = some (n - 1) ∧ hasNext (n - 1) = true ∧
        k' = { k with texts := put k.texts key (toString n) } := by
  unfold increment tally?
  cases counted : counter? ((k.get? key).getD "0") with
  | none =>
      simp only [reduceCtorEq, false_iff]
      rintro ⟨read, next, -⟩
      rw [counter?_eq_some.mpr ⟨read, next⟩] at counted
      cases counted
  | some m =>
      obtain ⟨read, next⟩ := counter?_eq_some.mp counted
      simp only [Except.ok.injEq, Prod.mk.injEq, read, Option.some.injEq]
      constructor
      · rintro ⟨rfl, rfl⟩
        simp [next]
      · rintro ⟨rfl, -, rfl⟩
        simp

theorem get?_put (k : Keyspace) (key text name : String) :
    ({ k with texts := put k.texts key text } : Keyspace).get? name =
      if name = key then some text else k.get? name :=
  lookup_put _ _ _ _

theorem tally?_of_get? {k : Keyspace} {key : String} {n : Int}
    (found : k.get? key = some (toString n)) : k.tally? key = some n := by
  simp only [tally?, found, Option.getD_some, number?_toString]

end LinkShortener.KeyValue.Keyspace

namespace LinkShortener.Copies

/-- The counter is kept apart from the copies: its key does not begin with their mark. -/
def Apart (settings : Settings.KeyValue) : Prop :=
  ¬ settings.copyMark.toList <+: settings.counterKey.toList

instance (settings : Settings.KeyValue) : Decidable (Apart settings) := by
  unfold Apart; infer_instance

/-- Tokens of the same key are the same. -/
theorem key_injective {settings : Settings.KeyValue} {t t' : String}
    (same : key settings t = key settings t') : t = t' := by
  have spelled := congrArg String.toList same
  simp only [key, String.toList_append, List.append_cancel_left_eq] at spelled
  exact String.toList_inj.mp spelled

/-- No token has the key of the counter, where the two kinds of keys are apart. -/
theorem Apart.key_ne {settings : Settings.KeyValue} (apart : Apart settings) (t : String) :
    key settings t ≠ settings.counterKey := by
  intro same
  refine apart ⟨t.toList, ?_⟩
  rw [← same]
  simp [key]

/-- No token has the key of the counter for that of its copy. Only tokens are ever copied. -/
def CounterSpared (settings : Settings.KeyValue) : Prop :=
  ∀ id t, Token.ofId id = .ok t → key settings t ≠ settings.counterKey

/-- A counter that is apart is spared by the copies. -/
theorem CounterSpared.of_apart {settings : Settings.KeyValue} (apart : Apart settings) :
    CounterSpared settings :=
  fun _ t _ => apart.key_ne t

end LinkShortener.Copies
