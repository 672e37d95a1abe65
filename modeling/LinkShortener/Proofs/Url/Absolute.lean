import LinkShortener.Proofs.Json.RoundTrip
import LinkShortener.Url.Check
import LinkShortener.Web.Response
import Mathlib.Data.List.TakeDrop

/-!
What an accepted link looks like as it stands, which is how it is stored and sent to callers. The
parts that are checked are those of the text that the splitter has cleaned: control characters in
front are dropped there, and tabs and line ends everywhere. The latter are blanks, which no link may
hold; the former stay in front of the link.

Main statement: an accepted link without a control character in front is an absolute address of the
web, and so is the place that a redirect to it names; with one, neither is
(`absolute_unless_controlled`).
-/

namespace LinkShortener.Url

/-- The authority that a text starts with. -/
def leadingAuthority (text : List Char) : List Char := text.takeWhile fun c => !endsAuthority c

/-- An absolute address of the web: one of the schemes of links in any case, a colon and two
slashes, and an authority. -/
def IsAbsolute (text : List Char) : Prop :=
  ∃ scheme rest, text = scheme ++ ':' :: '/' :: '/' :: rest ∧
    scheme.map Char.toLower ∈ schemes ∧ leadingAuthority rest ≠ []

/-- A control character of ASCII. -/
def isControl (c : Char) : Bool := c.toNat < 32

/-- A text that starts with a control character. -/
def IsControlled (text : List Char) : Prop := text.head?.any isControl = true

instance (text : List Char) : Decidable (IsControlled text) :=
  inferInstanceAs (Decidable (_ = true))

/-! ### Splitting -/

/-- A scheme stands before the first colon. -/
theorem splitScheme_eq {text : List Char} (schemed : (splitScheme text).1 ≠ []) :
    ∃ name, (splitScheme text).1 = name.map Char.toLower ∧
      text = name ++ ':' :: (splitScheme text).2 := by
  unfold splitScheme at schemed ⊢
  split at schemed
  · rename_i name c rest found
    rw [List.span_eq_takeWhile_dropWhile, Prod.mk.injEq] at found
    obtain ⟨taken, dropped⟩ := found
    have colon : c = ':' := by
      have stops := List.head?_dropWhile_not (· != ':') text
      rw [dropped] at stops
      simpa using stops
    have whole := List.takeWhile_append_dropWhile (p := (· != ':')) (l := text)
    rw [taken, dropped, colon] at whole
    split at schemed
    · rename_i named
      simp only [named, if_true]
      exact ⟨name, rfl, whole.symm⟩
    · exact absurd rfl schemed
  · exact absurd rfl schemed

/-- An authority stands after two slashes. -/
theorem splitAuthority_eq {text : List Char} (authorised : (splitAuthority text).1 ≠ []) :
    ∃ rest, text = '/' :: '/' :: rest ∧ (splitAuthority text).1 = leadingAuthority rest := by
  unfold splitAuthority at authorised ⊢
  split at authorised
  · rename_i rest
    exact ⟨rest, rfl, by rw [List.span_eq_takeWhile_dropWhile]; rfl⟩
  · exact absurd rfl authorised

/-- The scheme and the authority are those of the cleaned text. -/
theorem parts_of_split {text : List Char} {parts : Parts} (done : split text = .ok parts) :
    parts.scheme = (splitScheme (clean text)).1 ∧
      parts.authority = (splitAuthority (splitScheme (clean text)).2).1 := by
  unfold split at done
  simp only [bind, Except.bind] at done
  split at done
  · cases done
  · split at done
    · cases done
    · cases done
      exact ⟨rfl, rfl⟩

/-- A text with the parts of a link is an absolute address once it is cleaned. -/
theorem absolute_clean {text : List Char} {parts : Parts} (done : split text = .ok parts)
    (schemed : parts.scheme ∈ schemes) (authorised : parts.authority ≠ []) :
    IsAbsolute (clean text) := by
  obtain ⟨scheme, authority⟩ := parts_of_split done
  rw [scheme] at schemed
  rw [authority] at authorised
  have nonempty : (splitScheme (clean text)).1 ≠ [] := by
    intro empty
    rw [empty] at schemed
    exact absurd schemed (by decide)
  obtain ⟨name, lowered, whole⟩ := splitScheme_eq nonempty
  obtain ⟨rest, slashed, leading⟩ := splitAuthority_eq authorised
  rw [slashed] at whole
  exact ⟨name, rest, whole, lowered ▸ schemed, leading ▸ authorised⟩

/-- What is known of the parts of an accepted link. -/
theorem split_of_check {url : String} (accepted : check url = .ok ()) :
    (∀ c ∈ url.toList, Text.isBlank c = false) ∧ ∃ parts, split url.toList = .ok parts ∧
      parts.scheme ∈ schemes ∧ parts.authority ≠ [] := by
  unfold check at accepted
  split at accepted
  · cases accepted
  · rename_i parts done
    split at accepted
    · cases accepted
    · rename_i named
      split at accepted
      · cases accepted
      · rename_i schemed
        split at accepted
        · cases accepted
        · rename_i sound
          simp only [Bool.or_eq_true, not_or, Bool.not_eq_true] at named sound
          refine ⟨by simpa using sound.1, parts, done, by simpa using schemed, ?_⟩
          simpa using named.2

/-! ### Cleaning -/

/-- Of a text without blanks only the controls in front are cleaned away. -/
theorem clean_of_unblank {text : List Char} (unblank : ∀ c ∈ text, Text.isBlank c = false) :
    clean text = text.dropWhile (·.toNat ≤ 32) := by
  refine List.filter_eq_self.mpr fun c mem => ?_
  have plain := unblank c ((List.dropWhile_sublist _).subset mem)
  have other (d : Char) (blank : Text.isBlank d = true) : c ≠ d := by
    rintro rfl
    rw [plain] at blank
    cases blank
  simp only [decide_eq_true_eq]
  exact ⟨other '\t' (by decide), other '\n' (by decide), other '\r' (by decide)⟩

theorem isControl_of_unblank {c : Char} (low : c.toNat ≤ 32) (unblank : Text.isBlank c = false) :
    isControl c = true := by
  have other : c.toNat ≠ 32 := by
    intro space
    simp [Text.isBlank, Text.isWhiteSpace, space] at unblank
  rw [isControl, decide_eq_true_eq]
  omega

/-- A text without blanks is the cleaned text after some controls. -/
theorem exists_controls {text : List Char} (unblank : ∀ c ∈ text, Text.isBlank c = false) :
    ∃ controls, text = controls ++ clean text ∧ ∀ c ∈ controls, isControl c = true := by
  refine ⟨text.takeWhile (·.toNat ≤ 32), ?_, fun c mem => ?_⟩
  · rw [clean_of_unblank unblank, List.takeWhile_append_dropWhile]
  · refine isControl_of_unblank ?_ (unblank c ((List.takeWhile_sublist _).subset mem))
    simpa using List.all_eq_true.mp List.all_takeWhile c mem

/-- A text without blanks that no control stands in front of is clean. -/
theorem clean_eq_self {text : List Char} (unblank : ∀ c ∈ text, Text.isBlank c = false)
    (plain : ¬ IsControlled text) : clean text = text := by
  rw [clean_of_unblank unblank]
  cases text with
  | nil => rfl
  | cons c rest =>
      have high : ¬ c.toNat ≤ 32 := fun low =>
        plain (isControl_of_unblank low (unblank c List.mem_cons_self))
      rw [List.dropWhile_cons_of_neg (by simpa using high)]

/-! ### Absolute addresses -/

/-- An absolute address starts with a letter. -/
theorem head_of_absolute {text : List Char} (absolute : IsAbsolute text) :
    ∃ c rest, text = c :: rest ∧ c.toLower = 'h' := by
  obtain ⟨scheme, rest, rfl, schemed, -⟩ := absolute
  cases scheme with
  | nil => exact absurd schemed (by decide)
  | cons c scheme =>
      refine ⟨c, _, rfl, ?_⟩
      simp only [schemes, List.map_cons, List.mem_cons, List.not_mem_nil, or_false] at schemed
      rcases schemed with same | same <;> exact (List.cons.inj same).1

/-- Only a capital letter has a small one. -/
theorem toLower_eq_or_isUpper (c : Char) : c.toLower = c ∨ c.isUpper = true := by
  by_cases between : c.val ≥ 'A'.val ∧ c.val ≤ 'Z'.val
  · exact .inr (decide_eq_true between)
  · exact .inl (dif_neg between)

theorem isAlphanum_of_isUpper {c : Char} (upper : c.isUpper = true) : c.isAlphanum = true :=
  Bool.or_eq_true_iff.mpr (.inl (Bool.or_eq_true_iff.mpr (.inl upper)))

/-- Control characters come before the letters. -/
theorem isAlphanum_of_isControl {c : Char} (control : isControl c = true) :
    c.isAlphanum = false := by
  have low : c.toNat < 32 := by simpa [isControl] using control
  have below (d : Char) (high : 32 ≤ d.toNat) : ¬ c.val ≥ d.val := fun le => by
    have size : d.toNat ≤ c.toNat := UInt32.le_iff_toNat_le.mp le
    omega
  have upper : c.isUpper = false :=
    decide_eq_false fun between => below 'A' (by decide) between.1
  have lower : c.isLower = false :=
    Bool.and_eq_false_iff.mpr (.inl (decide_eq_false (below 'a' (by decide))))
  have digit : c.isDigit = false :=
    Bool.and_eq_false_iff.mpr (.inl (decide_eq_false (below '0' (by decide))))
  exact Bool.or_eq_false_iff.mpr ⟨Bool.or_eq_false_iff.mpr ⟨upper, lower⟩, digit⟩

theorem toLower_of_control {c : Char} (control : isControl c = true) : c.toLower = c := by
  refine (toLower_eq_or_isUpper c).resolve_right fun upper => ?_
  have letter := isAlphanum_of_isUpper upper
  rw [isAlphanum_of_isControl control] at letter
  cases letter

/-- A controlled text is no absolute address. -/
theorem not_absolute_of_controlled {text : List Char} (controlled : IsControlled text) :
    ¬ IsAbsolute text := by
  intro absolute
  obtain ⟨c, rest, rfl, lowered⟩ := head_of_absolute absolute
  have control : isControl c = true := controlled
  rw [toLower_of_control control] at lowered
  rw [lowered] at control
  exact absurd control (by decide)

/-! ### Places -/

open Web.Response (place isPlaceChar)
open Text.Percent (encode charBytes triple)

theorem charBytes_ne_nil (c : Char) : charBytes c ≠ [] := by
  intro none
  have bytes := Json.mk_toList (String.singleton c).toUTF8
  rw [← charBytes, none] at bytes
  have size := congrArg ByteArray.size bytes
  rw [String.toUTF8, String.size_toByteArray, String.utf8ByteSize_singleton] at size
  have positive := c.utf8Size_pos
  change 0 = _ at size
  omega

/-- A character that is not kept is written with a percent sign in front. -/
theorem encode_cons_of_changed {kept : Char → Bool} {c : Char} (changed : kept c = false)
    (rest : List Char) : ∃ more, encode kept (c :: rest) = '%' :: more := by
  cases bytes : charBytes c with
  | nil => exact absurd bytes (charBytes_ne_nil c)
  | cons b more =>
      rw [encode, List.flatMap_cons, changed, if_neg Bool.false_ne_true, bytes, List.flatMap_cons]
      exact ⟨_, rfl⟩

theorem encode_cons_of_kept {kept : Char → Bool} {c : Char} (same : kept c = true)
    (rest : List Char) : encode kept (c :: rest) = c :: encode kept rest := by
  rw [encode, List.flatMap_cons, if_pos same]
  rfl

theorem encode_of_kept {kept : Char → Bool} {s : List Char} (same : ∀ c ∈ s, kept c = true)
    (rest : List Char) : encode kept (s ++ rest) = s ++ encode kept rest := by
  induction s with
  | nil => rfl
  | cons c s ih =>
      rw [List.forall_mem_cons] at same
      rw [List.cons_append, encode_cons_of_kept same.1, ih same.2, List.cons_append]

/-- An authority is still one when it is written for a header. -/
theorem leadingAuthority_encode {text : List Char} (authorised : leadingAuthority text ≠ []) :
    leadingAuthority (encode isPlaceChar text) ≠ [] := by
  cases text with
  | nil => exact absurd rfl authorised
  | cons c rest =>
      have inside : (!endsAuthority c) = true := Decidable.byContradiction fun outside =>
        authorised (List.takeWhile_cons_of_neg outside)
      cases kept : isPlaceChar c with
      | true =>
          rw [encode_cons_of_kept kept, leadingAuthority, List.takeWhile_cons, inside]
          exact List.cons_ne_nil _ _
      | false =>
          obtain ⟨more, spelled⟩ := encode_cons_of_changed kept rest
          rw [spelled]
          exact List.cons_ne_nil _ _

/-- The characters of a scheme stand in a header as they are. -/
theorem isPlaceChar_of_scheme {scheme : List Char} (schemed : scheme.map Char.toLower ∈ schemes) :
    ∀ c ∈ scheme, isPlaceChar c = true := by
  intro c mem
  have lowered : c.toLower ∈ scheme.map Char.toLower := List.mem_map_of_mem mem
  have letters : schemes.all (·.all isPlaceChar) = true := by decide
  have kept := List.all_eq_true.mp (List.all_eq_true.mp letters _ schemed) _ lowered
  rcases toLower_eq_or_isUpper c with same | upper
  · rwa [same] at kept
  · rw [isPlaceChar, isAlphanum_of_isUpper upper, Bool.true_or]

theorem isPlaceChar_of_isControl {c : Char} (control : isControl c = true) :
    isPlaceChar c = false := by
  rw [isPlaceChar, isAlphanum_of_isControl control, Bool.false_or]
  refine Bool.eq_false_iff.mpr fun found => ?_
  have mem := List.contains_iff_mem.mp found
  have high : "_.-~:/%#?=@[]!$&'()*+,;".toList.any isControl = false := by decide
  exact List.any_eq_false.mp high c mem control

/-- The place of an absolute address is absolute. -/
theorem absolute_place {url : String} (absolute : IsAbsolute url.toList) :
    IsAbsolute (place url).toList := by
  obtain ⟨scheme, rest, whole, schemed, authorised⟩ := absolute
  refine ⟨scheme, encode isPlaceChar rest, ?_, schemed, leadingAuthority_encode authorised⟩
  rw [place, String.toList_ofList, whole, encode_of_kept (isPlaceChar_of_scheme schemed)]
  rw [encode_cons_of_kept (by decide), encode_cons_of_kept (by decide),
    encode_cons_of_kept (by decide)]

/-- A control character is written with a percent sign, with which no address starts. -/
theorem not_absolute_place {url : String} (controlled : IsControlled url.toList) :
    ¬ IsAbsolute (place url).toList := by
  intro absolute
  obtain ⟨c, rest, spelled, lowered⟩ := head_of_absolute absolute
  rw [place, String.toList_ofList] at spelled
  cases text : url.toList with
  | nil =>
      rw [text] at controlled
      cases controlled
  | cons d tail =>
      rw [text] at controlled spelled
      have changed := isPlaceChar_of_isControl controlled
      obtain ⟨more, percent⟩ := encode_cons_of_changed changed tail
      rw [percent] at spelled
      cases spelled
      exact absurd lowered (by decide)

/-! ### Accepted links -/

/-- An accepted link holds no blank, and it is an absolute address of the web after some control
characters. If there are none of these, and only then, it is itself such an address, and so is the
place that a redirect to it names. -/
theorem absolute_unless_controlled {url : String} (accepted : check url = .ok ()) :
    (∀ c ∈ url.toList, Text.isBlank c = false) ∧
    (∃ controls rest, url.toList = controls ++ rest ∧ (∀ c ∈ controls, isControl c = true) ∧
      IsAbsolute rest) ∧
    (IsAbsolute url.toList ↔ ¬ IsControlled url.toList) ∧
    ∀ value, ("location", value) ∈ (Web.Response.redirect url).headers →
      (IsAbsolute value.toList ↔ ¬ IsControlled url.toList) := by
  obtain ⟨unblank, parts, done, schemed, authorised⟩ := split_of_check accepted
  have cleaned := absolute_clean done schemed authorised
  obtain ⟨controls, whole, low⟩ := exists_controls unblank
  have plain (clear : ¬ IsControlled url.toList) : IsAbsolute url.toList :=
    clean_eq_self unblank clear ▸ cleaned
  refine ⟨unblank, ⟨controls, _, whole, low, cleaned⟩, ⟨?_, plain⟩, fun value mem => ?_⟩
  · exact fun absolute controlled => not_absolute_of_controlled controlled absolute
  · cases List.mem_singleton.mp mem
    exact ⟨fun absolute controlled => not_absolute_place controlled absolute,
      fun clear => absolute_place (plain clear)⟩

/-- A link in capital letters is accepted and absolute, and the place names it as it is. -/
theorem capital_link_absolute : check "HTTP://a.example/" = .ok () ∧
    IsAbsolute "HTTP://a.example/".toList := by
  have accepted : check "HTTP://a.example/" = .ok () := rfl
  exact ⟨accepted, (absolute_unless_controlled accepted).2.2.1.mpr (by decide)⟩

/-- A link with a control character in front is accepted, but neither it nor the place that a
redirect to it names is an absolute address. -/
theorem controlled_link_accepted : check "\x01http://a.example/" = .ok () ∧
    ¬ IsAbsolute "\x01http://a.example/".toList ∧
    ¬ IsAbsolute (place "\x01http://a.example/").toList :=
  ⟨rfl, not_absolute_of_controlled rfl, not_absolute_place rfl⟩

end LinkShortener.Url
