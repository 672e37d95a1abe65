import LinkShortener.Proofs.KeyValue.Keyspace
import LinkShortener.Proofs.Link.Table
import LinkShortener.Proofs.Traffic.Basic

/-!
What the calls of the directory do to the catalog and the keys. A deed is a call with a reply
that can change one of them; every other call leaves both alone. A deed is done in one phase of
an operation only, and its effect is that of the table or the keyspace.

Main statements: every call that the protocol allows does what its deed says
(`does_of_attempt`), and what it cannot do: only changes of a token concern its link
(`Does.find?_kept`), and only deeds on its key concern a copy (`Does.copy_eq`).
-/

namespace LinkShortener.Traffic

open Bench (World)
open Directory (Phase Advances Incidental)
open Link (Table)

/-- A call that was answered and can have changed the catalog or the keys. -/
inductive Deed
  | set (key text : String) (seconds : Option Int)
  | drop (key : String)
  | count (key : String) (n : Int)
  | insert (id : Int) (url token : String)
  | retarget (token url : String) (time : Moment) (link : Link)
  | delete (token : String)
  deriving DecidableEq, Repr

/-- The deed of a call by its reply. A retargeting that finds no link and a deletion of nothing
are no deeds. -/
def Event.deed? : Event → Option Deed
  | ⟨_, _, .keys (.set key text seconds), .ok _⟩ => some (.set key text seconds)
  | ⟨_, _, .keys (.delete key), .ok _⟩ => some (.drop key)
  | ⟨_, _, .keys (.increment key), .ok n⟩ => some (.count key n)
  | ⟨_, _, .database (.insertLink id url token), .ok _⟩ => some (.insert id url token)
  | ⟨_, _, .database (.retargetLink token url time), .ok (some link)⟩ =>
      some (.retarget token url time link)
  | ⟨_, _, .database (.deleteLink token), .ok n⟩ => if n = 0 then none else some (.delete token)
  | _ => none

/-- What a deed does, phase by phase. -/
inductive Does (s : Settings.KeyValue) (w w' : World) : Phase → Option Deed → Phase → Prop
  | nothing (p q : Phase) (untouched : Untouched w w') : Does s w w' p none q
  | fill (token : String) (link : Link)
      (keys : w'.keys = w.keys.set (Copies.key s token) link.url (Copies.lifetime s))
      (links : w'.links = w.links) :
      Does s w w' (.holding token link)
        (some (.set (Copies.key s token) link.url (Copies.lifetime s))) (.told token link.url)
  | drop (token : String) (link? : Option Link)
      (keys : w'.keys = w.keys.delete (Copies.key s token)) (links : w'.links = w.links) :
      Does s w w' (.owing token link?) (some (.drop (Copies.key s token))) (.settled link?)
  | retarget (token url : String) (time : Moment) (link : Link)
      (links : w'.links = w.links.retarget token url time) (keys : w'.keys = w.keys)
      (found : w'.links.find? token = some link) :
      Does s w w' (.retargeting token url) (some (.retarget token url time link))
        (.owing token (some link))
  | delete (token : String) (links : w'.links = w.links.delete token)
      (keys : w'.keys = w.keys) (found : w.links.find? token ≠ none) :
      Does s w w' (.deleting token) (some (.delete token)) (.owing token none)
  | number (url : String) (id : Int) (token : String) (coded : Token.ofId id = .ok token)
      (counted : w.keys.increment s.counterKey = .ok (id, w'.keys))
      (links : w'.links = w.links) :
      Does s w w' (.counting url) (some (.count s.counterKey id)) (.numbered url id token)
  | uncoded (url : String) (id : Int) (fault : Fault) (uncoded : Token.ofId id = .error fault)
      (counted : w.keys.increment s.counterKey = .ok (id, w'.keys))
      (links : w'.links = w.links) :
      Does s w w' (.counting url) (some (.count s.counterKey id)) (.refused fault)
  | insert (url : String) (id : Int) (token : String)
      (inserted : w.links.insert (freshLink id url token) = .ok w'.links)
      (keys : w'.keys = w.keys) :
      Does s w w' (.numbered url id token) (some (.insert id url token)) (.inserted id token)
  | seed (last : Int) (keys : w'.keys = w.keys.set s.counterKey (toString last) none)
      (links : w'.links = w.links) :
      Does s w w' (.measured last) (some (.set s.counterKey (toString last) none)) .seeded

variable {s : Settings.KeyValue} {outage : Option Fault} {w w' : World} {p q : Phase} {c : Call}
  {reply : Except Fault c.Reply} {deed? : Option Deed}

/-- A call that the protocol allows does what its deed says. -/
theorem does_of_attempt (calm : Calm w) (advances : Advances s p c reply q)
    (made : attempt outage c w = (reply, w')) (task : Nat) (request : Request) :
    Does s w w' p (Event.deed? ⟨task, request, c, reply⟩) q := by
  cases advances with
  | noted p call incidental a =>
      cases incidental <;> exact .nothing _ _ (untouched_of_process made)
  | unnoted p call incidental fault =>
      cases incidental <;> exact .nothing _ _ (untouched_of_process made)
  | connect p => exact .nothing _ _ (untouched_of_connect calm made)
  | unconnected p fault => exact .nothing _ _ (untouched_of_connect calm made)
  | hit token url => exact .nothing _ _ (get_of_attempt calm made).2
  | miss token => exact .nothing _ _ (get_of_attempt calm made).2
  | find token link => exact .nothing _ _ (findLink_of_attempt made).2
  | absent token => exact .nothing _ _ (findLink_of_attempt made).2
  | measure last? => exact .nothing _ _ (lastId_of_attempt made).2
  | readBack id token link => exact .nothing _ _ (readBack_of_attempt made).2
  | fill token link =>
      obtain ⟨keys, links⟩ := set_of_attempt calm made
      exact .fill token link keys links
  | drop token link? n =>
      obtain ⟨keys, links⟩ := delete_of_attempt calm made
      exact .drop token link? keys links
  | retarget token url time link =>
      obtain ⟨links, keys, found⟩ := retargetLink_of_attempt calm made
      exact .retarget token url time link links keys found
  | nothingRetargeted token url time =>
      obtain ⟨links, keys, absent⟩ := retargetLink_of_attempt calm made
      refine .nothing _ _ ⟨?_, keys⟩
      rw [links]
      exact Table.retarget_of_absent (by rw [← links]; exact absent)
  | delete token n found =>
      obtain ⟨links, keys, counted⟩ := deleteLink_of_attempt calm made
      have deed : Event.deed? ⟨task, request, .database (.deleteLink token), .ok n⟩ =
          some (.delete token) := if_neg found
      rw [deed]
      refine .delete token links keys fun absent => found ?_
      rw [← counted, Table.count_eq_zero.mpr absent]
  | nothingDeleted token =>
      obtain ⟨links, keys, counted⟩ := deleteLink_of_attempt calm made
      refine .nothing _ _ ⟨?_, keys⟩
      rw [links]
      exact Table.delete_of_absent (Table.count_eq_zero.mp counted)
  | number url id token coded =>
      obtain ⟨counted, links⟩ := increment_of_attempt calm made
      exact .number url id token coded counted links
  | uncoded url id fault uncoded =>
      obtain ⟨counted, links⟩ := increment_of_attempt calm made
      exact .uncoded url id fault uncoded counted links
  | insert url id token =>
      obtain ⟨inserted, keys⟩ := insertLink_of_attempt calm made
      exact .insert url id token inserted keys
  | seed last =>
      obtain ⟨keys, links⟩ := set_of_attempt calm made
      exact .seed last keys links
  | unread | unretargeted | undeleted | uninserted | unreadBack | unmeasured =>
      exact .nothing _ _ (untouched_of_database_error calm made)
  | blind | unlooked | unfilled | unfillable | undropped | undroppable | unnumbered
  | unseeded => exact .nothing _ _ (untouched_of_keys_error calm made)

/-- A call does what its deed says, or its reply is lost and it does what another reply would
have told. -/
theorem Outline.Turn.does {regime : Regime} {o : Outline} {σ₀ σ : State} {n : Nat}
    {request : Request} {w : World} (turn : Turn s regime o σ₀ σ n request p c reply q w) :
    Does s σ.world w p (Event.deed? ⟨n, request, c, reply⟩) q ∨
      ∃ fault answer q', reply = .error fault ∧ regime.loses σ n c fault ∧
        strikes fault c = true ∧ Does s σ.world w p (Event.deed? ⟨n, request, c, answer⟩) q' := by
  have advances := turn.advances
  cases turn.comes with
  | attempted outage lets made =>
      exact .inl (does_of_attempt turn.holds.calm advances made n request)
  | lost fault loses strike made =>
      obtain ⟨q', goes⟩ := turn.answers _
      exact .inr ⟨fault, _, q', rfl, loses, strike,
        does_of_attempt turn.holds.calm goes made n request⟩

/-! ### Faults -/

/-- What calm machinery refuses by itself: a link that the table refuses, a link that is gone,
and a key that cannot be counted on. -/
inductive Refuses (w : World) : Call → Fault → Prop
  | insert (id : Int) (url token : String) (fault : Fault)
      (refused : w.links.insert (freshLink id url token) = .error fault) :
      Refuses w (.database (.insertLink id url token)) fault
  | readBack (id : Int) (text : String) (gone : w.links.findId? id = none) :
      Refuses w (.database (.readBack id)) (.outage .database text)
  | increment (key : String) (fault : Fault) (refused : w.keys.increment key = .error fault) :
      Refuses w (.keys (.increment key)) fault

/-- A call of an operation fails by the outage that strikes it or is refused. -/
theorem fault_of_attempt {fault : Fault} (calm : Calm w)
    (advances : Advances s p c (.error fault) q)
    (made : attempt outage c w = (.error fault, w')) :
    struck outage c = some fault ∨ Refuses w c fault := by
  rcases attempt_cases made with ⟨fault', strikes, same, -⟩ | ⟨-, performed⟩
  · cases same
    exact .inl strikes
  rw [perform_eq] at performed
  refine .inr ?_
  cases advances with
  | unnoted p call incidental => cases incidental <;> cases performed
  | unconnected | unread | unretargeted | undeleted | unmeasured =>
      simp only [World.answer, World.database, barring_of_calm calm] at performed
      cases performed
  | blind | unlooked | unfilled | unfillable | undropped | undroppable | unseeded =>
      simp only [World.answer, World.server, barring_of_calm calm] at performed
      cases performed
  | uninserted url id token =>
      simp only [World.answer, World.database, barring_of_calm calm] at performed
      split at performed
      · cases performed
      · rename_i refused
        cases performed
        exact .insert id url token _ refused
  | unreadBack id token =>
      simp only [World.answer, World.database] at performed
      split at performed
      · cases performed
      · rename_i gone
        cases performed
        exact .readBack id _ gone
  | unnumbered url =>
      simp only [World.answer, World.server, barring_of_calm calm] at performed
      split at performed
      · cases performed
      · rename_i refused
        cases performed
        exact .increment _ _ refused

/-- Incidental calls are answered. -/
theorem answered_of_incidental {call : ProcessCall} {fault : Fault}
    (incidental : Incidental call) :
    attempt outage (.process call) w ≠ (.error fault, w') := by
  intro made
  rcases attempt_cases made with ⟨_, strikes, -, -⟩ | ⟨-, performed⟩
  · cases (struck_eq_some.mp strikes).2
  · rw [perform_eq] at performed
    cases incidental <;> cases performed

/-- The server fails as such. -/
theorem outage_of_keys {call : KeysCall} {fault : Fault} (calm : Calm w)
    (advances : Advances s p (.keys call) (.error fault) q)
    (made : attempt outage (.keys call) w = (.error fault, w')) :
    fault.isKeyValueOutage = true := by
  rcases fault_of_attempt calm advances made with strikes | refuses
  · exact (struck_eq_some.mp strikes).2
  · cases refuses with
    | increment key _ refused =>
        unfold KeyValue.Keyspace.increment at refused
        split at refused <;> cases refused
        rfl

/-! ### What deeds concern -/

/-- A deed that changes the link of a token: an update or a deletion of it. -/
def Deed.Changes (token : String) : Deed → Prop
  | retarget t _ _ _ | delete t => t = token
  | _ => False

instance (token : String) : DecidablePred (Deed.Changes token)
  | .retarget t _ _ _ | .delete t => inferInstanceAs (Decidable (t = token))
  | .set _ _ _ | .drop _ | .count _ _ | .insert _ _ _ => .isFalse fun changes => changes

/-- A deed that sets or drops a key. -/
def Deed.Concerns (key : String) : Deed → Prop
  | set k _ _ | drop k => k = key
  | _ => False

instance (key : String) : DecidablePred (Deed.Concerns key)
  | .set k _ _ | .drop k => inferInstanceAs (Decidable (k = key))
  | .retarget _ _ _ _ | .delete _ | .count _ _ | .insert _ _ _ =>
      .isFalse fun concerns => concerns

/-- A call whose deed concerns a key sets or drops that key. -/
theorem call_of_concerns {n : Nat} {request : Request} {answer : Except Fault c.Reply} {deed : Deed}
    {key : String} (is : Event.deed? ⟨n, request, c, answer⟩ = some deed)
    (concerns : deed.Concerns key) :
    (∃ text seconds, c = .keys (.set key text seconds)) ∨ c = .keys (.delete key) := by
  unfold Event.deed? at is
  split at is
  case h_7 => cases is
  all_goals
    rename_i same
    cases same
  · cases is
    obtain rfl : _ = key := concerns
    exact .inl ⟨_, _, rfl⟩
  · cases is
    obtain rfl : _ = key := concerns
    exact .inr rfl
  · cases is
    exact concerns.elim
  · cases is
    exact concerns.elim
  · cases is
    exact concerns.elim
  · split at is <;> cases is
    exact concerns.elim

/-- An update or a deletion of the token was committed. -/
def Event.Commits (token : String) (e : Event) : Prop :=
  ∃ deed ∈ e.deed?, deed.Changes token

instance (token : String) (e : Event) : Decidable (e.Commits token) :=
  inferInstanceAs (Decidable (∃ deed ∈ e.deed?, deed.Changes token))

/-- The copy of the token was filled or dropped. -/
def Event.Touches (s : Settings.KeyValue) (token : String) (e : Event) : Prop :=
  ∃ deed ∈ e.deed?, deed.Concerns (Copies.key s token)

instance (s : Settings.KeyValue) (token : String) (e : Event) : Decidable (e.Touches s token) :=
  inferInstanceAs (Decidable (∃ deed ∈ e.deed?, deed.Concerns (Copies.key s token)))

/-- A copy that is left after another has expired was there before. -/
theorem copied_of_lapse {t token url : String}
    (cached : (lapse s t w).keys.get? (Copies.key s token) = some url) :
    w.keys.get? (Copies.key s token) = some url := by
  rw [lapse, KeyValue.Keyspace.get?_delete] at cached
  split at cached
  · cases cached
  · exact cached

/-- The address of a token by the catalog. -/
def Current (w : World) (token url : String) : Prop :=
  ∃ link, w.links.find? token = some link ∧ link.url = url

namespace Does

/-- Whatever does not change the link of a token leaves it in the catalog as it is. -/
theorem find?_kept (does : Does s w w' p deed? q) {token : String} {link : Link}
    (unchanged : ∀ deed, deed? = some deed → ¬ deed.Changes token)
    (found : w.links.find? token = some link) : w'.links.find? token = some link := by
  cases does with
  | nothing p q untouched => rw [untouched.links, found]
  | fill _ _ _ links | drop _ _ _ links | number _ _ _ _ _ links | uncoded _ _ _ _ _ links
  | seed _ _ links => rw [links, found]
  | retarget t url time l links =>
      have other : token ≠ t := fun same => unchanged _ rfl same.symm
      rw [links, Table.find?_retarget_of_ne other, found]
  | delete t links =>
      have other : token ≠ t := fun same => unchanged _ rfl same.symm
      rw [links, Table.find?_delete, if_neg other, found]
  | insert url id t inserted =>
      rw [Table.find?_insert inserted]
      split
      · rename_i same
        obtain ⟨-, apart, -⟩ := Table.insert_eq_ok.mp inserted
        obtain ⟨mem, named⟩ := Table.mem_of_find? found
        exact absurd (named.trans same) (apart link mem).2
      · exact found

/-- Whatever does not set or drop the key of a copy leaves the copy and its lifetime alone. -/
theorem copy_eq (does : Does s w w' p deed? q) (apart : Copies.Apart s) (token : String)
    (untouched : ∀ deed, deed? = some deed → ¬ deed.Concerns (Copies.key s token)) :
    w'.keys.get? (Copies.key s token) = w.keys.get? (Copies.key s token) ∧
      w'.keys.lifetimes.lookup (Copies.key s token) =
        w.keys.lifetimes.lookup (Copies.key s token) := by
  have counting {n : Int} {k : KeyValue.Keyspace}
      (counted : w.keys.increment s.counterKey = .ok (n, k)) :
      k.get? (Copies.key s token) = w.keys.get? (Copies.key s token) ∧
        k.lifetimes.lookup (Copies.key s token) =
          w.keys.lifetimes.lookup (Copies.key s token) := by
    obtain ⟨-, -, rfl⟩ := KeyValue.Keyspace.increment_eq_ok.mp counted
    exact ⟨by rw [KeyValue.Keyspace.get?_put, if_neg (apart.key_ne token)], rfl⟩
  cases does with
  | nothing p q idle => rw [idle.keys]; exact ⟨rfl, rfl⟩
  | retarget _ _ _ _ _ keys | delete _ _ keys | insert _ _ _ _ keys =>
      rw [keys]; exact ⟨rfl, rfl⟩
  | number _ _ _ _ counted | uncoded _ _ _ _ counted => exact counting counted
  | fill t link keys =>
      have other : Copies.key s token ≠ Copies.key s t := fun same => untouched _ rfl same.symm
      rw [keys, KeyValue.Keyspace.get?_set, KeyValue.Keyspace.lifetimes_set, if_neg other,
        if_neg other]
      exact ⟨rfl, rfl⟩
  | drop t link? keys =>
      have other : Copies.key s token ≠ Copies.key s t := fun same => untouched _ rfl same.symm
      rw [keys, KeyValue.Keyspace.get?_delete, if_neg other]
      exact ⟨rfl, rfl⟩
  | seed last keys =>
      have other : Copies.key s token ≠ s.counterKey := apart.key_ne token
      rw [keys, KeyValue.Keyspace.get?_set, KeyValue.Keyspace.lifetimes_set, if_neg other,
        if_neg other]
      exact ⟨rfl, rfl⟩

end Does

/-- What is current stays so, unless the token is changed. -/
theorem current_or_commits {e : Event} {token url : String} (does : Does s w w' p e.deed? q)
    (current : Current w token url) : Current w' token url ∨ e.Commits token := by
  by_cases commits : e.Commits token
  · exact .inr commits
  · obtain ⟨link, found, same⟩ := current
    refine .inl ⟨link, does.find?_kept (fun deed is changes => ?_) found, same⟩
    exact commits ⟨deed, is, changes⟩

end LinkShortener.Traffic
