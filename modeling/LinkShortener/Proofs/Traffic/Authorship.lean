import LinkShortener.Proofs.Token
import LinkShortener.Proofs.Traffic.Deed

/-!
Who writes the counter. Restarts set it and the making of links counts it on. Every other request
writes to the copy of its token only, and only if that token is in the catalog, where every token
is that of an id. So the counter is theirs alone unless it lies under the key of such a token's
copy, whatever the mark of the copies is.

Main statement: `undisputed_of_spared`.
-/

namespace LinkShortener.Traffic

open Bench (World)
open Copies (CounterSpared)
open Directory (Phase Advances)
open Link (Table)

/-- A call that sets the counter, drops it or counts it on. -/
def WritesCounter (s : Settings.KeyValue) : Call → Prop
  | .keys (.set key _ _) | .keys (.delete key) | .keys (.increment key) => key = s.counterKey
  | _ => False

/-- Nothing but restarts and the making of links has written the counter. -/
def Undisputed (s : Settings.KeyValue) (past : List Event) : Prop :=
  ∀ e ∈ past, WritesCounter s e.call → e.request.Counts

/-- Every row has the token of its id. -/
def AllCoded (t : Table) : Prop := ∀ row ∈ t.rows, Token.ofId row.id = .ok row.token

/-- The token whose copy an operation is about to fill or drop is that of some id, and the link
that it is about to insert has the token of its id. -/
def Coded : Phase → Prop
  | .holding t _ | .owing t _ => ∃ id, Token.ofId id = .ok t
  | .numbered _ id t => Token.ofId id = .ok t
  | _ => True

variable {s : Settings.KeyValue} {w w' : World} {p q : Phase} {c : Call}
  {reply : Except Fault c.Reply} {deed? : Option Deed}

theorem AllCoded.of_find? {t : Table} (coded : AllCoded t) {token : String}
    (found : t.find? token ≠ none) : ∃ id, Token.ofId id = .ok token := by
  obtain ⟨link, present⟩ := Option.ne_none_iff_exists'.mp found
  obtain ⟨mem, named⟩ := Table.mem_of_find? present
  exact ⟨link.id, named ▸ coded link mem⟩

/-- Every row was there before, with its id and its token, or it is inserted by a task that has
its id. -/
theorem Does.row_cases (does : Does s w w' p deed? q) {row : Link} (mem : row ∈ w'.links.rows) :
    (∃ old ∈ w.links.rows, old.id = row.id ∧ old.token = row.token) ∨
      ∃ url, p = .numbered url row.id row.token := by
  cases does with
  | nothing p q untouched =>
      rw [untouched.links] at mem
      exact .inl ⟨row, mem, rfl, rfl⟩
  | fill _ _ _ links | drop _ _ _ links | number _ _ _ _ _ links | uncoded _ _ _ _ _ links
  | seed _ _ links =>
      rw [links] at mem
      exact .inl ⟨row, mem, rfl, rfl⟩
  | retarget token url time link links =>
      rw [links] at mem
      obtain ⟨old, memOld, rfl⟩ := Table.mem_retarget.mp mem
      exact .inl ⟨old, memOld, (Table.id_retargeted ..).symm, (Table.token_retargeted ..).symm⟩
  | delete token links =>
      rw [links] at mem
      exact .inl ⟨row, (Table.mem_delete.mp mem).1, rfl, rfl⟩
  | insert url id token inserted =>
      obtain ⟨-, -, rows⟩ := Table.insert_eq_ok.mp inserted
      rw [rows] at mem
      rcases List.mem_append.mp mem with old | new
      · exact .inl ⟨row, old, rfl, rfl⟩
      · cases List.mem_singleton.mp new
        exact .inr ⟨url, rfl⟩

section Turn

variable {regime : Regime} {o : Outline} {σ₀ σ : State} {n : Nat} {request : Request} {w : World}

/-- Every row was there before, with its id and its token, or it is inserted by a task that has
its id, also when the reply is lost. -/
theorem Outline.Turn.row_cases (turn : Turn s regime o σ₀ σ n request p c reply q w) {row : Link}
    (mem : row ∈ w.links.rows) :
    (∃ old ∈ σ.world.links.rows, old.id = row.id ∧ old.token = row.token) ∨
      ∃ url, p = .numbered url row.id row.token := by
  rcases turn.does with does | ⟨_, _, _, -, -, -, does⟩ <;> exact does.row_cases mem

/-- Only restarts and the making of links write the counter, unless it is the copy of a token that
is filled or dropped. -/
theorem counts_of_writes (spared : CounterSpared s) (coded : Coded p) (visits : request.Visits p)
    (advances : Advances s p c reply q) (writes : WritesCounter s c) : request.Counts := by
  cases advances with
  | noted _ _ incidental | unnoted _ _ incidental => cases incidental <;> exact writes.elim
  | fill t | unfilled t | unfillable t | drop t | undropped t | undroppable t =>
      obtain ⟨id, codes⟩ := coded
      exact absurd writes (spared id t codes)
  | number | uncoded | unnumbered =>
      rw [Request.visits_counting.mp visits]
      trivial
  | seed | unseeded =>
      rw [Request.visits_measured.mp visits]
      trivial
  | _ => exact writes.elim

/-- What a phase says of tokens is so after a call of the catalog or the counter. -/
theorem Coded.arrives (turn : Outline.Turn s regime o σ₀ σ n request p c reply q w)
    (rows : AllCoded σ.world.links) (coded : Coded p) : Coded q := by
  cases turn.advances with
  | noted | connect => exact coded
  | number url id t codes => exact codes
  | find t link =>
      obtain ⟨outage, -, made⟩ := turn.answered
      refine rows.of_find? fun absent => ?_
      cases absent.symm.trans (findLink_of_attempt made).1
  | retarget t url time link =>
      obtain ⟨outage, -, made⟩ := turn.answered
      obtain ⟨links, -, found⟩ := retargetLink_of_attempt turn.holds.calm made
      refine rows.of_find? fun absent => ?_
      rw [links, Table.find?_retarget, absent] at found
      cases found
  | delete t count present =>
      obtain ⟨outage, -, made⟩ := turn.answered
      obtain ⟨-, -, counted⟩ := deleteLink_of_attempt turn.holds.calm made
      refine rows.of_find? fun absent => present ?_
      rw [← counted, Table.count_eq_zero.mpr absent]
  | _ => trivial

end Turn

/-- The rows and the operations have tokens of ids, and the counter is written by restarts and the
making of links alone. -/
def coding (s : Settings.KeyValue) : Outline where
  shared w past := AllCoded w.links ∧ Undisputed s past
  stands p _ _ _ _ := Coded p

/-- The coding of the catalog is kept by every step, if the counter is spared. -/
theorem kept_coding (spared : CounterSpared s) (regime : Regime) (σ₀ : State) :
    Outline.Kept s regime (coding s) σ₀ where
  outlasts := ⟨fun _ holds => holds, fun holds => holds⟩
  enters {σ request} _ _ _ :=
    request.phase_of_first Coded (by cases request <;> trivial) fun _ => trivial
  shares {σ n request p c reply q w} turn := by
    obtain ⟨rows, undisputed⟩ := turn.holds.shared
    have coded : Coded p := turn.stands
    refine ⟨fun row mem => ?_, fun e mem => ?_⟩
    · rcases turn.row_cases mem with ⟨old, memOld, sameId, sameToken⟩ | ⟨url, rfl⟩
      · rw [← sameId, ← sameToken]
        exact rows old memOld
      · exact coded
    · rcases List.mem_cons.mp mem with rfl | mem
      · exact counts_of_writes spared coded turn.visits turn.advances
      · exact undisputed e mem
  arrives turn := Coded.arrives turn turn.holds.shared.1 turn.stands
  spares _ _ _ place := place.stands

/-- The counter is spared if its key has a character that neither the mark of the copies nor any
token has. -/
theorem spared_of_foreign
    (foreign : ∃ c ∈ s.counterKey.toList, c ∉ s.copyMark.toList ∧ c ∉ Token.alphabet) :
    CounterSpared s := by
  obtain ⟨c, mem, unmarked, foreign⟩ := foreign
  intro id token coded same
  obtain ⟨-, spelled⟩ := Token.ofId_eq_ok.mp coded
  rw [← same, Copies.key, String.toList_append, spelled, Token.toList_encode] at mem
  rcases List.mem_append.mp mem with mark | digit
  · exact unmarked mark
  · exact foreign (Token.mem_alphabet digit)

/-- The counter is written by restarts and the making of links alone, whatever else is done and
whatever fails, as long as it does not lie under the key of the copy of an id's token. -/
theorem undisputed_of_spared {regime : Regime} {σ : State} (spared : CounterSpared s)
    (calm : Calm w) (coded : AllCoded w.links) (reaches : Reaches s regime (State.start w) σ) :
    Undisputed s σ.past := by
  have start : Outline.Holds s (coding s) (State.start w) :=
    Outline.holds_start calm ⟨coded, fun e mem => nomatch mem⟩
  exact (Outline.holds_of_reaches (kept_coding spared regime _) start reaches).shared.2

end LinkShortener.Traffic
