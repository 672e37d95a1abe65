import LinkShortener.Proofs.Token
import LinkShortener.Web.Route

/-!
Where requests about a token go. A path of one segment is that of a token; the pages and the
health report are such paths too and come first when they are read.

Main statements: a token is updated and deleted by its path (`find_put`, `find_delete`) and
resolved by it unless a page stands there (`find_get`); the only tokens of ids with a page in
their place are four words (`mem_of_shadowed`).
-/

namespace LinkShortener.Web.Route

/-- A text that is a single segment of a path. -/
structure IsSegment (t : String) : Prop where
  nonempty : t.toList ≠ []
  unslashed : '/' ∉ t.toList

/-- The single segments that are read by another route, with or without a line end. -/
def Shadowed (t : String) : Prop :=
  ∃ name ∈ ["openapi.json", "docs", "redoc", "metrics", "health"], isPath name.toList t.toList

instance (t : String) : Decidable (Shadowed t) := by unfold Shadowed; infer_instance

variable {t : String} {path : List Char} {wanted : Route} {token : String}

/-- Of the routes with a method, the first one that takes a path is found. -/
theorem find_eq_found (method : String) (taken : wanted.token? path = some token)
    (first : (all.filter (·.method == method)).find? (fun r => (r.token? path).isSome) =
      some wanted) : find method path = .found wanted token := by
  have asked : (fun r : Route => ((r.token? path).map (r, ·)).any (·.1.method == method)) =
      fun r => r.method == method && (r.token? path).isSome := by
    funext r
    cases r.token? path <;> simp
  rw [List.find?_filter] at first
  simp only [Bool.decide_and, Bool.decide_eq_true] at first
  unfold find
  simp only [List.find?_filterMap, asked, first, Option.bind_some, taken, Option.map_some]

/-- What is found has the method and takes the path. -/
theorem of_find_eq_found {method : String} (found : find method path = .found wanted token) :
    wanted.method = method ∧ wanted.token? path = some token := by
  simp only [find] at found
  cases asked : (all.filterMap fun r => (r.token? path).map (r, ·)).find?
      (·.1.method == method) with
  | some taker =>
      rw [asked] at found
      cases found
      obtain ⟨r, -, takes⟩ := List.mem_filterMap.mp (List.mem_of_find?_eq_some asked)
      obtain ⟨token, taken, same⟩ := Option.map_eq_some_iff.mp takes
      cases same
      have named := List.find?_some asked
      exact ⟨beq_iff_eq.mp named, taken⟩
  | none =>
      simp only [asked] at found
      split at found
      · cases found
      · split at found <;> cases found

theorem of_find_page {method name : String} (found : find method path = .found (page name) token) :
    method = "GET" ∧ isPath name.toList path = true := by
  obtain ⟨named, taken⟩ := of_find_eq_found found
  refine ⟨named.symm, ?_⟩
  cases reads : isPath name.toList path with
  | true => rfl
  | false =>
      rw [token?, reads] at taken
      cases taken

/-- The routes with the method of reading, in their order. -/
theorem filter_get : all.filter (·.method == "GET") =
    [.page "/openapi.json", .page "/docs", .page "/docs/oauth2-redirect", .page "/redoc",
      .page "/metrics", .health, .statistics, .redirect] := by decide

theorem filter_put : all.filter (·.method == "PUT") = [.update] := by decide

theorem filter_delete : all.filter (·.method == "DELETE") = [.delete] := by decide

theorem splitOn_segment (segment : IsSegment t) :
    ('/' :: t.toList).splitOn '/' = [[], t.toList] := by
  have whole : t.toList.splitOnP (· == '/') = [t.toList] := List.splitOnP_eq_singleton
    fun c mem => beq_false_of_ne fun same => segment.unslashed (same ▸ mem)
  rw [List.splitOn, List.splitOnP_cons_eq_if_modifyHead, whole]
  rfl

theorem onlySegment?_segment (segment : IsSegment t) :
    onlySegment? ('/' :: t.toList) = some t := by
  unfold onlySegment?
  rw [splitOn_segment segment]
  simp [segment.nonempty]

theorem statisticsToken?_segment (segment : IsSegment t) :
    statisticsToken? ('/' :: t.toList) = none := by
  unfold statisticsToken?
  rw [splitOn_segment segment]

theorem isPath_cons (c : Char) (wanted path : List Char) :
    isPath (c :: wanted) (c :: path) = isPath wanted path := by
  simp [isPath]

/-- A page is not read in the place of a token that is not its name. -/
theorem token?_page (name : String) (other : isPath name.toList t.toList = false) :
    (page ("/" ++ name)).token? ('/' :: t.toList) = none := by
  have apart : isPath ("/" ++ name).toList ('/' :: t.toList) = false := by
    rw [String.toList_append, show "/".toList = ['/'] from rfl, List.singleton_append, isPath_cons,
      other]
  rw [token?, apart]
  rfl

/-- A page below another one is not read in the place of a token. -/
theorem unslashed_isPath {name : List Char} (segment : IsSegment t) (slashed : '/' ∈ name) :
    isPath name t.toList = false := by
  have apart : ∀ path : List Char, '/' ∈ path → (t.toList == path) = false := fun path mem =>
    beq_false_of_ne fun same => segment.unslashed (same ▸ mem)
  rw [isPath, apart name slashed, apart _ (List.mem_append_left _ slashed), Bool.or_self]

/-! ### Tokens by their paths -/

theorem find_put (segment : IsSegment t) :
    find "PUT" ('/' :: t.toList) = .found .update t := by
  have taken : update.token? ('/' :: t.toList) = some t := onlySegment?_segment segment
  refine find_eq_found "PUT" taken ?_
  rw [filter_put, List.find?_cons_of_pos (by rw [taken]; rfl)]

theorem find_delete (segment : IsSegment t) :
    find "DELETE" ('/' :: t.toList) = .found .delete t := by
  have taken : delete.token? ('/' :: t.toList) = some t := onlySegment?_segment segment
  refine find_eq_found "DELETE" taken ?_
  rw [filter_delete, List.find?_cons_of_pos (by rw [taken]; rfl)]

/-- A single segment that is not shadowed is redirected. -/
theorem find_get (segment : IsSegment t) (clear : ¬ Shadowed t) :
    find "GET" ('/' :: t.toList) = .found .redirect t := by
  have taken : redirect.token? ('/' :: t.toList) = some t := onlySegment?_segment segment
  have unread : ∀ name ∈ ["openapi.json", "docs", "redoc", "metrics", "health"],
      (page ("/" ++ name)).token? ('/' :: t.toList) = none := by
    intro name mem
    refine token?_page name (Bool.eq_false_iff.mpr fun reads => clear ⟨name, mem, reads⟩)
  have openapi : (page "/openapi.json").token? ('/' :: t.toList) = none :=
    unread "openapi.json" (by simp)
  have docs : (page "/docs").token? ('/' :: t.toList) = none := unread "docs" (by simp)
  have below : (page "/docs/oauth2-redirect").token? ('/' :: t.toList) = none :=
    token?_page "docs/oauth2-redirect" (unslashed_isPath segment (by decide))
  have redoc : (page "/redoc").token? ('/' :: t.toList) = none := unread "redoc" (by simp)
  have metrics : (page "/metrics").token? ('/' :: t.toList) = none := unread "metrics" (by simp)
  have health : Route.health.token? ('/' :: t.toList) = none := unread "health" (by simp)
  have statistics : Route.statistics.token? ('/' :: t.toList) = none :=
    statisticsToken?_segment segment
  refine find_eq_found "GET" taken ?_
  rw [filter_get]
  simp [openapi, docs, below, redoc, metrics, health, statistics, taken]

/-! ### Tokens of ids -/

/-- A token is a single segment. -/
theorem isSegment_encode (n : Nat) : IsSegment (Token.encode n) where
  nonempty := by
    rw [Token.toList_encode]
    exact Token.digits_ne_nil n
  unslashed mem := by
    rw [Token.toList_encode] at mem
    exact absurd (Token.mem_alphabet mem) (by decide)

/-- A token of an id that another route reads is one of four words. -/
theorem mem_of_shadowed {n : Nat} (shadowed : Shadowed (Token.encode n)) :
    Token.encode n ∈ ["docs", "redoc", "metrics", "health"] := by
  obtain ⟨name, mem, reads⟩ := shadowed
  rw [isPath, Token.toList_encode, Bool.or_eq_true, beq_iff_eq, beq_iff_eq] at reads
  rcases reads with spelled | spelled
  · have same : Token.encode n = name := String.toList_inj.mp (by rw [Token.toList_encode, spelled])
    rcases List.mem_cons.mp mem with rfl | mem
    · -- The dot is no digit.
      have dot : '.' ∈ Token.digits n := by
        rw [spelled]
        decide
      exact absurd (Token.mem_alphabet dot) (by decide)
    · rw [same]
      exact mem
  · have lineEnd : '\n' ∈ Token.digits n := by
      rw [spelled]
      exact List.mem_append_right _ (List.mem_singleton_self _)
    exact absurd (Token.mem_alphabet lineEnd) (by decide)

end LinkShortener.Web.Route
