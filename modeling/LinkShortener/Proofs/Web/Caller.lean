import LinkShortener.Web.Request
import Mathlib.Data.List.TakeWhile

/-!
Whose address a request is taken to come from. Three candidates are told of it: the first hop that
proxies report, the address that a single proxy reports, and the peer. A header is that of the
first of its name, in whatever case the name is written, and blanks around what it tells do not
count. The first candidate that is not blank is the address of the caller, but for one case: an
address that a single proxy reports and that consists of blanks only is taken all the same, and so
hides the peer.

Main statement: the address follows the order of the candidates exactly if no blank report hides
the peer (`address_follows_unless_hidden`).
-/

namespace LinkShortener.Text

/-- Whether a text has no characters but blanks. -/
def isUntold (text : String) : Bool := text.toList.all isBlank

/-- A text is a core with blanks before and after it, and the core itself neither begins nor ends
with a blank. -/
structure Strips (text core : List Char) : Prop where
  around : ∃ before after, text = before ++ core ++ after ∧
    (∀ c ∈ before, isBlank c = true) ∧ ∀ c ∈ after, isBlank c = true
  begins : ∀ c ∈ core.head?, isBlank c = false
  ends : ∀ c ∈ core.getLast?, isBlank c = false

theorem not_of_mem_head?_dropWhile {outer : Char → Bool} {text : List Char} :
    ∀ c ∈ (text.dropWhile outer).head?, outer c = false := by
  intro c mem
  have stops := List.head?_dropWhile_not outer text
  rw [Option.mem_def.mp mem] at stops
  simpa using stops

/-- Trimming strips a text. -/
theorem strips_trimChars (text : List Char) : Strips text (trimChars text) := by
  generalize tail : text.dropWhile isBlank = rest
  have core : trimChars text = (rest.reverse.dropWhile isBlank).reverse := by
    rw [trimChars, trimBy, tail]
  have whole : rest = trimChars text ++ (rest.reverse.takeWhile isBlank).reverse := by
    rw [core, ← List.reverse_append, List.takeWhile_append_dropWhile, List.reverse_reverse]
  refine ⟨⟨text.takeWhile isBlank, (rest.reverse.takeWhile isBlank).reverse, ?_, ?_, ?_⟩, ?_, ?_⟩
  · rw [List.append_assoc, ← whole, ← tail, List.takeWhile_append_dropWhile]
  · exact fun c mem => List.mem_takeWhile_imp mem
  · exact fun c mem => List.mem_takeWhile_imp (List.mem_reverse.mp mem)
  · intro c mem
    refine not_of_mem_head?_dropWhile c (?_ : c ∈ (text.dropWhile isBlank).head?)
    rw [tail, whole]
    cases cut : trimChars text with
    | nil =>
        rw [cut] at mem
        cases mem
    | cons d more =>
        rw [cut] at mem
        exact mem
  · rw [core, List.getLast?_reverse]
    exact not_of_mem_head?_dropWhile

namespace Strips

variable {text core : List Char}

/-- Nothing but blanks is stripped to nothing, and nothing else is. -/
theorem all_blank_iff (strips : Strips text core) : text.all isBlank = true ↔ core = [] := by
  obtain ⟨⟨before, after, rfl, leads, trails⟩, begins, -⟩ := strips
  constructor
  · intro blank
    cases core with
    | nil => rfl
    | cons c more =>
        have inside : isBlank c = true := List.all_eq_true.mp blank c (by simp)
        rw [begins c rfl] at inside
        cases inside
  · rintro rfl
    simp only [List.append_nil, List.all_append, Bool.and_eq_true, List.all_eq_true]
    exact ⟨leads, trails⟩

/-- A text can be stripped in one way only. -/
theorem unique (strips : Strips text core) : core = trimChars text := by
  cases core with
  | nil =>
      have blank := strips.all_blank_iff.mpr rfl
      exact ((strips_trimChars text).all_blank_iff.mp blank).symm
  | cons c more =>
      obtain ⟨⟨before, after, rfl, leads, trails⟩, begins, ends⟩ := strips
      -- Dropping blanks from either side stops at the core, whose ends are none.
      have front : (before ++ (c :: more) ++ after).dropWhile isBlank = (c :: more) ++ after := by
        rw [List.append_assoc, List.dropWhile_append_of_pos leads, List.cons_append,
          List.dropWhile_cons_of_neg (by rw [begins c rfl]; decide)]
      have back : ∃ last, (c :: more).reverse = last :: (c :: more).reverse.tail ∧
          isBlank last = false := by
        cases turned : (c :: more).reverse with
        | nil => exact absurd turned (by simp)
        | cons last others =>
            refine ⟨last, rfl, ends last ?_⟩
            rw [← List.head?_reverse, turned]
            rfl
      obtain ⟨last, turned, inside⟩ := back
      rw [trimChars, trimBy, front, List.reverse_append,
        List.dropWhile_append_of_pos fun c mem => trails c (List.mem_reverse.mp mem), turned,
        List.dropWhile_cons_of_neg (by rw [inside]; decide), ← turned, List.reverse_reverse]

/-- What was stripped is blank only if it is empty. -/
theorem blank_core_iff (strips : Strips text core) : core.all isBlank = true ↔ core = [] := by
  have self : Strips core core :=
    ⟨⟨[], [], by simp, by simp, by simp⟩, strips.begins, strips.ends⟩
  exact self.all_blank_iff

end Strips

end LinkShortener.Text

namespace LinkShortener.Web

open Text (isUntold Strips)

namespace Request

/-- The request has no header of a name. -/
def Lacks (r : Request) (name : String) : Prop := ∀ h ∈ r.headers, h.1.toLower ≠ name.toLower

/-- The first header of a name, in whatever case it is written, has this value. -/
def Tells (r : Request) (name value : String) : Prop :=
  ∃ before written after, r.headers = before ++ (written, value) :: after ∧
    written.toLower = name.toLower ∧ ∀ h ∈ before, h.1.toLower ≠ name.toLower

/-- A part of the first header of a name, without the blanks around it, is this; it is empty if
there is no such header. -/
def Offers (r : Request) (name : String) (part : List Char → List Char) (offer : String) : Prop :=
  r.Lacks name ∧ offer = "" ∨ ∃ value, r.Tells name value ∧ Strips (part value.toList) offer.toList

/-- An address follows the order of some candidates: the first that is not blank is the address,
and the address is empty only if all of them are blank. -/
def Obeys (candidates : List String) (address : String) : Prop :=
  (∀ c, candidates.find? (!isUntold ·) = some c → address = c) ∧
    (address = "" → ∀ c ∈ candidates, isUntold c = true)

def ReportsBlank (r : Request) : Prop :=
  ∃ value, r.Tells "X-Real-IP" value ∧ value ≠ "" ∧ isUntold value = true

variable {r : Request}

/-- No header is found exactly if the request lacks it. -/
theorem header?_eq_none_iff {name : String} : r.header? name.toLower = none ↔ r.Lacks name := by
  simp only [header?, Option.map_eq_none_iff, List.find?_eq_none, beq_iff_eq, Lacks, ne_eq]

theorem header?_eq_some_iff {name value : String} :
    r.header? name.toLower = some value ↔ r.Tells name value := by
  simp only [header?, Option.map_eq_some_iff, List.find?_eq_some_iff_append, Tells, beq_iff_eq,
    Prod.exists, Bool.not_eq_true', beq_eq_false_iff_ne, ne_eq]
  constructor
  · rintro ⟨written, _, ⟨same, before, after, split, others⟩, rfl⟩
    exact ⟨before, written, after, split, same, others⟩
  · rintro ⟨before, written, after, split, same, others⟩
    exact ⟨written, value, ⟨same, before, after, split, others⟩, rfl⟩

/-- The part of a header that counts. -/
def offer (r : Request) (name : String) (part : List Char → List Char) : String :=
  (r.header? name.toLower).elim "" fun value =>
    String.ofList (Text.trimChars (part value.toList))

/-- A header offers one text only. -/
theorem offers_iff {name offered : String} {part : List Char → List Char} :
    r.Offers name part offered ↔ offered = r.offer name part := by
  unfold Offers offer
  cases found : r.header? name.toLower with
  | none =>
      have told (value : String) : ¬ r.Tells name value := fun tells => by
        rw [header?_eq_some_iff.mpr tells] at found
        cases found
      simp only [header?_eq_none_iff.mp found, told, true_and, false_and, exists_false, or_false,
        Option.elim_none]
  | some value =>
      have tells (other : String) : r.Tells name other ↔ value = other := by
        rw [← header?_eq_some_iff, found, Option.some.injEq]
      have lacks : ¬ r.Lacks name := fun lacks => by
        rw [header?_eq_none_iff.mpr lacks] at found
        cases found
      simp only [lacks, tells, false_and, false_or, exists_eq_left', Option.elim_some]
      constructor
      · exact fun strips => String.toList_inj.mp (strips.unique.trans String.toList_ofList.symm)
      · rintro rfl
        rw [String.toList_ofList]
        exact Text.strips_trimChars _

/-- What a header offers is blank only if it is empty. -/
theorem isUntold_offer_iff {name : String} {part : List Char → List Char} :
    isUntold (r.offer name part) = true ↔ r.offer name part = "" := by
  rcases offers_iff.mpr rfl with ⟨-, none⟩ | ⟨value, -, strips⟩
  · rw [none]
    decide
  · rw [isUntold, strips.blank_core_iff, String.toList_eq_nil_iff]

/-- The first hop is what the header of hops offers, if it offers something. -/
theorem firstHop?_cases (r : Request) :
    (r.firstHop? = none ∧ r.offer "X-Forwarded-For" (Text.upTo ',') = "") ∨
      (r.firstHop? = some (r.offer "X-Forwarded-For" (Text.upTo ',')) ∧
        r.offer "X-Forwarded-For" (Text.upTo ',') ≠ "") := by
  have name : "X-Forwarded-For".toLower = "x-forwarded-for" := by decide +kernel
  simp only [firstHop?, offer, name]
  cases r.header? "x-forwarded-for" with
  | none => exact .inl ⟨rfl, rfl⟩
  | some hops =>
      by_cases empty : String.ofList (Text.trimChars (Text.upTo ',' hops.toList)) = ""
      · exact .inl ⟨if_pos (String.isEmpty_iff.mpr empty), empty⟩
      · exact .inr ⟨if_neg (mt String.isEmpty_iff.mp empty), empty⟩

/-- What a single proxy reports counts unless it is nothing or the empty text. -/
theorem realAddress?_cases (r : Request) :
    (r.realAddress? = none ∧ r.offer "X-Real-IP" id = "" ∧ ¬ r.ReportsBlank) ∨
      (r.realAddress? = some (r.offer "X-Real-IP" id) ∧
        (r.ReportsBlank ↔ r.offer "X-Real-IP" id = "")) := by
  have name : "X-Real-IP".toLower = "x-real-ip" := by decide +kernel
  simp only [realAddress?, offer, ReportsBlank, ← header?_eq_some_iff, name]
  cases r.header? "x-real-ip" with
  | none => exact .inl ⟨rfl, rfl, fun ⟨_, found, _⟩ => nomatch found⟩
  | some value =>
      by_cases empty : value = ""
      · subst empty
        exact .inl ⟨rfl, rfl, fun ⟨_, found, told, _⟩ => told (Option.some.inj found).symm⟩
      · right
        have strips := Text.strips_trimChars value.toList
        simp only [String.isEmpty_iff, empty, if_false, Option.elim_some, id, Text.trim,
          Option.some.injEq, exists_eq_left', isUntold, strips.all_blank_iff, ne_eq,
          not_false_eq_true, true_and, String.ofList_eq_empty_iff]

section Obeys

variable {hop real peer : String}

/-- A hop that is told is the address. -/
theorem obeys_hop (told : isUntold hop = false) : Obeys [hop, real, peer] hop := by
  refine ⟨fun c first => ?_, fun empty => ?_⟩
  · rw [List.find?_cons_of_pos (by rw [told]; rfl)] at first
    exact Option.some.inj first
  · rw [empty] at told
    cases told

/-- Without a hop a real address that is told is the address. -/
theorem obeys_real (told : isUntold real = false) : Obeys ["", real, peer] real := by
  refine ⟨fun c first => ?_, fun empty => ?_⟩
  · rw [List.find?_cons_of_neg (by decide), List.find?_cons_of_pos (by rw [told]; rfl)] at first
    exact Option.some.inj first
  · rw [empty] at told
    cases told

/-- Without either the peer is the address. -/
theorem obeys_peer : Obeys ["", "", peer] peer := by
  refine ⟨fun c first => ?_, fun empty => ?_⟩
  · rw [List.find?_cons_of_neg (by decide), List.find?_cons_of_neg (by decide)] at first
    exact List.mem_singleton.mp (List.mem_of_find?_eq_some first) |>.symm
  · rw [empty]
    decide

/-- Where none is told, the address may be empty exactly if the peer is blank. -/
theorem obeys_nothing_iff : Obeys ["", "", peer] "" ↔ isUntold peer = true := by
  constructor
  · exact fun obeys => obeys.2 rfl peer (by simp)
  · intro untold
    have blank : ∀ c ∈ ["", "", peer], isUntold c = true := by
      simp only [List.forall_mem_cons, untold, List.not_mem_nil, false_imp_iff, implies_true,
        and_true]
      decide
    refine ⟨fun c first => ?_, fun _ => blank⟩
    have told := List.find?_some first
    rw [blank c (List.mem_of_find?_eq_some first)] at told
    cases told

end Obeys

/-- The address follows the order of the candidates, unless a single proxy reports nothing but
blanks while there is no hop and the peer is known; then it is empty, although it should be the
peer. -/
theorem address_follows_unless_hidden (fresh : String) (r : Request) :
    ∃ hop real, r.Offers "X-Forwarded-For" (Text.upTo ',') hop ∧ r.Offers "X-Real-IP" id real ∧
      let peer := r.peer.getD ""
      let address := (Caller.ofRequest fresh r).address
      let hidden := hop = "" ∧ r.ReportsBlank ∧ isUntold peer = false
      (Obeys [hop, real, peer] address ↔ ¬ hidden) ∧ (hidden → address = "") := by
  refine ⟨_, _, offers_iff.mpr rfl, offers_iff.mpr rfl, ?_⟩
  simp only [Caller.ofRequest, address]
  rcases r.firstHop?_cases with ⟨none, noHop⟩ | ⟨some, hop⟩
  · simp only [none, noHop, true_and]
    rcases r.realAddress?_cases with ⟨none, noReport, notBlank⟩ | ⟨some, blank⟩
    · simp only [none, noReport, notBlank, false_and, not_false_eq_true, iff_true, false_imp_iff,
        and_true]
      exact obeys_peer
    · simp only [some, blank]
      by_cases empty : r.offer "X-Real-IP" id = ""
      · simp only [empty, true_and, implies_true, and_true, obeys_nothing_iff,
          Bool.not_eq_false]
      · simp only [empty, false_and, not_false_eq_true, iff_true, false_imp_iff, and_true]
        exact obeys_real (Bool.eq_false_iff.mpr (mt isUntold_offer_iff.mp empty))
  · simp only [some, hop, false_and, not_false_eq_true, iff_true, false_imp_iff, and_true]
    exact obeys_hop (Bool.eq_false_iff.mpr (mt isUntold_offer_iff.mp hop))

/-- A request whose single proxy reports a no-break space. -/
def blankReport : Request where
  method := "GET"
  path := "/b"
  query := none
  headers := [("X-Real-IP", "\u00a0")]
  peer := some "198.51.100.7"
  body := []

/-- A blank report hides the peer: the address is empty, although the peer is known and the headers
offer nothing. -/
theorem blank_report_hides_peer :
    (Caller.ofRequest "" blankReport).address = "" ∧
      ¬ ∃ hop real, blankReport.Offers "X-Forwarded-For" (Text.upTo ',') hop ∧
        blankReport.Offers "X-Real-IP" id real ∧
        Obeys [hop, real, "198.51.100.7"] (Caller.ofRequest "" blankReport).address := by
  have hidden : (Caller.ofRequest "" blankReport).address = "" := by decide +kernel
  refine ⟨hidden, ?_⟩
  rintro ⟨hop, real, hops, reports, obeys⟩
  have noHop : hop = "" := (offers_iff.mp hops).trans (by decide +kernel)
  have noReport : real = "" := (offers_iff.mp reports).trans (by decide +kernel)
  rw [hidden, noHop, noReport, obeys_nothing_iff] at obeys
  exact absurd obeys (by decide)

end Request

end LinkShortener.Web
