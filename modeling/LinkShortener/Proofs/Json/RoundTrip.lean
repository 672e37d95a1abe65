import LinkShortener.Json.Reader
import LinkShortener.Json.Writer
import Mathlib.Algebra.Ring.Nat
import Mathlib.Tactic.SplitIfs

/-!
What is written is read back. Characters first: each is spelled in a way that the reader takes
for it, whatever follows. Texts of lexemes then: a written value is cut into lexemes of its own,
and these are assembled to the value in every place where a value may stand, as long as the
containers do not nest too deep. One lemma for each form of value says so (`reads_text`,
`reads_object`), and they compose.

Main statement: a value that is read in its place is the one that its written form stands for
(`read_write`), also in UTF-8 (`readBytes_write`).
-/

namespace LinkShortener.Text.Hex

theorem value_lowerDigit {v : Nat} (small : v < 16) : value? (lowerDigit v) = some v := by
  revert v
  decide

/-- The digits of a number continue a numeral that was begun. -/
theorem foldlM_lower (width n begun : Nat) :
    (lower width n).foldlM (fun n d => (value? d).map (16 * n + ·)) begun =
      some (16 ^ width * begun + n % 16 ^ width) := by
  induction width generalizing n with
  | zero => simp [lower, Nat.mod_one]
  | succ width ih =>
      rw [lower, List.foldlM_append, ih]
      simp only [Option.bind_eq_bind, Option.bind_some, List.foldlM_cons, List.foldlM_nil,
        value_lowerDigit (Nat.mod_lt n (by decide : 16 > 0)), Option.map_some, Option.pure_def,
        Option.some.injEq]
      rw [Nat.pow_succ', Nat.mod_mul, Nat.mul_add, Nat.mul_assoc]
      omega

/-- A number is read from its hexadecimal digits. -/
theorem toNat_lower {width n : Nat} (fits : n < 16 ^ (width + 1)) :
    toNat? (lower (width + 1) n) = some n := by
  have digits := foldlM_lower (width + 1) n 0
  cases written : lower (width + 1) n with
  | nil => exact absurd (congrArg List.length written) (by simp [length_lower])
  | cons c cs =>
      rw [written] at digits
      rw [toNat?, digits, Nat.mod_eq_of_lt fits]
      simp

end LinkShortener.Text.Hex

namespace LinkShortener.Text.Encoded

theorem isHigh_iff {n : Nat} : isHigh n = true ↔ 0xd800 ≤ n ∧ n < 0xdc00 := by
  simp only [isHigh, Bool.and_eq_true, decide_eq_true_eq]

theorem isLow_iff {n : Nat} : isLow n = true ↔ 0xdc00 ≤ n ∧ n < 0xe000 := by
  simp only [isLow, Bool.and_eq_true, decide_eq_true_eq]

end LinkShortener.Text.Encoded

namespace LinkShortener.Json

open Text.Encoded (isHigh isLow isHigh_iff isLow_iff)

/-! ### Characters -/

/-- These characters are read as one character, whatever follows. -/
def Spells (cs : List Char) (c : Char) : Prop :=
  ∃ ps, (∀ rest, pieces? (cs ++ rest) = (pieces? rest).map fun (more, tail) => (ps ++ more, tail)) ∧
    ∀ more, join? (ps ++ more) = (join? more).map (c :: ·)

theorem pieces_plain {c : Char} (quote : c ≠ '"') (slash : c ≠ '\\') (printable : 32 ≤ c.toNat)
    (rest : List Char) :
    pieces? (c :: rest) = (pieces? rest).map fun (more, tail) => (.char c :: more, tail) := by
  rw [pieces?.eq_def]
  simp only [if_neg quote, if_neg slash, if_neg (Nat.not_lt.mpr printable)]
  cases pieces? rest <;> rfl

theorem pieces_escape {e c : Char} (long : e ≠ 'u') (short : shortEscape? e = some c)
    (rest : List Char) :
    pieces? ('\\' :: e :: rest) =
      (pieces? rest).map fun (more, tail) => (.char c :: more, tail) := by
  rw [pieces?.eq_def]
  simp only [Char.reduceEq, ↓reduceIte]
  split
  · rename_i same
    cases same
    exact absurd rfl long
  · rename_i same
    cases same
    rw [short]
    cases pieces? rest <;> rfl
  · rename_i same
    cases same

theorem pieces_unit {a b d e : Char} {n : Nat} (number : Text.Hex.toNat? [a, b, d, e] = some n)
    (rest : List Char) :
    pieces? ('\\' :: 'u' :: a :: b :: d :: e :: rest) =
      (pieces? rest).map fun (more, tail) => (.unit n :: more, tail) := by
  rw [pieces?.eq_def]
  simp only [Char.reduceEq, ↓reduceIte, number]
  cases pieces? rest <;> rfl

/-- A unit is read as it was written. -/
theorem pieces_writeUnit {n : Nat} (fits : n < 0x10000) (rest : List Char) :
    pieces? (writeUnit n ++ rest) =
      (pieces? rest).map fun (more, tail) => (.unit n :: more, tail) := by
  have number : Text.Hex.toNat? (Text.Hex.lower 4 n) = some n := Text.Hex.toNat_lower fits
  exact pieces_unit number rest

theorem spells_plain {c : Char} (quote : c ≠ '"') (slash : c ≠ '\\') (printable : 32 ≤ c.toNat) :
    Spells [c] c :=
  ⟨[.char c], pieces_plain quote slash printable, fun more => by simp only [List.cons_append,
    List.nil_append, join?]⟩

theorem spells_escape {e c d : Char} (same : c = d) (long : e ≠ 'u')
    (short : shortEscape? e = some d) : Spells ['\\', e] c := by
  subst same
  exact ⟨[.char c], pieces_escape long short, fun more => by simp only [List.cons_append,
    List.nil_append, join?]⟩

theorem toNat_valid (c : Char) : c.toNat < 0xd800 ∨ 0xdfff < c.toNat ∧ c.toNat < 0x110000 :=
  c.valid

/-- A character of one unit is spelled by it. -/
theorem spells_unit {c : Char} (fits : c.toNat < 0x10000) : Spells (writeUnit c.toNat) c := by
  refine ⟨[.unit c.toNat], pieces_writeUnit fits, fun more => ?_⟩
  have valid := toNat_valid c
  have low : ¬ isLow c.toNat = true := by
    rw [isLow_iff]
    omega
  have high : ¬ isHigh c.toNat = true := by
    rw [isHigh_iff]
    omega
  simp only [List.cons_append, List.nil_append]
  rw [join?.eq_def]
  simp only [if_neg low, if_neg high, Char.ofNat_toNat]

/-- A character beyond sixteen bits is read from the two halves of its surrogate pair. -/
theorem spells_pair {c : Char} (wide : 0x10000 ≤ c.toNat) :
    Spells (writeUnit (0xd800 + (c.toNat - 0x10000) / 0x400) ++
      writeUnit (0xdc00 + (c.toNat - 0x10000) % 0x400)) c := by
  have valid := toNat_valid c
  generalize first : 0xd800 + (c.toNat - 0x10000) / 0x400 = high
  generalize second : 0xdc00 + (c.toNat - 0x10000) % 0x400 = low
  refine ⟨[.unit high, .unit low], fun rest => ?_, fun more => ?_⟩
  · rw [List.append_assoc, pieces_writeUnit (by omega), pieces_writeUnit (by omega)]
    cases pieces? rest <;> rfl
  have begins : isHigh high = true := isHigh_iff.mpr (by omega)
  have ends : isLow low = true := isLow_iff.mpr (by omega)
  have apart : ¬ isLow high = true := by
    rw [isLow_iff]
    omega
  have pair : Text.Encoded.pair high low = c.toNat := by
    unfold Text.Encoded.pair
    omega
  simp only [List.cons_append, List.nil_append]
  rw [join?.eq_def]
  simp only [if_neg apart, if_pos begins, if_pos ends, pair, Char.ofNat_toNat]

/-- Every character is spelled so that it is read back. -/
theorem spells_writeChar (c : Char) : Spells (writeChar c) c := by
  unfold writeChar
  split_ifs with quote slash newline carriage tab backspace feed ascii fits
  · exact spells_escape quote (by decide) rfl
  · exact spells_escape slash (by decide) rfl
  · exact spells_escape newline (by decide) rfl
  · exact spells_escape carriage (by decide) rfl
  · exact spells_escape tab (by decide) rfl
  · exact spells_escape backspace (by decide) rfl
  · exact spells_escape feed (by decide) rfl
  · exact spells_plain quote slash ascii.1
  · exact spells_unit fits
  · exact spells_pair (Nat.not_lt.mp fits)

/-- A written text is read to its closing quote. -/
theorem pieces_writeText (s : String) : ∃ ps, join? ps = some s.toList ∧
    ∀ rest, pieces? (s.toList.flatMap writeChar ++ '"' :: rest) = some (ps, rest) := by
  induction s.toList with
  | nil =>
      refine ⟨[], rfl, fun rest => ?_⟩
      rw [List.flatMap_nil, List.nil_append, pieces?.eq_def]
      rfl
  | cons c cs ih =>
      obtain ⟨first, reads, joins⟩ := spells_writeChar c
      obtain ⟨ps, joined, read⟩ := ih
      refine ⟨first ++ ps, by rw [joins, joined, Option.map_some], fun rest => ?_⟩
      rw [List.flatMap_cons, List.append_assoc, reads, read, Option.map_some]

/-! ### Lexemes -/

/-- Characters that are cut into these lexemes and nothing else. -/
def Cuts (d : Dialect) (cs : List Char) (ls : List Lexeme) : Prop :=
  ∀ bound, cs.length ≤ bound → lexemes d bound cs = (ls, true)

section Cutting

variable {d : Dialect} {c : Char} {cs rest : List Char} {l : Lexeme} {ls : List Lexeme}

theorem cuts_nil : Cuts d [] [] := fun bound _ => by rw [lexemes.eq_def]; rfl

theorem Cuts.space (cuts : Cuts d cs ls) (space : isSpace c = true) : Cuts d (c :: cs) ls := by
  intro bound enough
  rw [← cuts bound (Nat.le_of_succ_le enough), lexemes.eq_def, lexemes.eq_def d bound cs]
  simp only [List.dropWhile_cons_of_pos space]

theorem Cuts.cons (cuts : Cuts d rest ls) (space : isSpace c = false)
    (lexeme : lexeme? d (c :: cs) = some (l, rest)) (shorter : rest.length ≤ cs.length) :
    Cuts d (c :: cs) (l :: ls) := by
  intro bound enough
  cases bound with
  | zero => exact absurd enough (by simp)
  | succ bound =>
      have enough' : rest.length ≤ bound := by
        simp only [List.length_cons] at enough
        omega
      have starts : (c :: cs).dropWhile isSpace = c :: cs :=
        List.dropWhile_cons_of_neg (by simp [space])
      rw [lexemes.eq_def]
      simp only [starts, lexeme, cuts bound enough']

/-- A mark is a lexeme by itself. -/
theorem Cuts.mark (cuts : Cuts d rest ls) (space : isSpace c = false)
    (lexeme : lexeme? d (c :: rest) = some (l, rest)) : Cuts d (c :: rest) (l :: ls) :=
  cuts.cons space lexeme (Nat.le_refl _)

/-- A written text is one lexeme. -/
theorem Cuts.text (cuts : Cuts d rest ls) (s : String) :
    Cuts d (writeText s ++ rest) (.atom (.text s) :: ls) := by
  obtain ⟨ps, joined, read⟩ := pieces_writeText s
  rw [writeText, List.cons_append, List.cons_append, List.append_assoc, List.singleton_append]
  refine cuts.cons (by decide) ?_ (by simp only [List.length_append, List.length_cons]; omega)
  simp only [lexeme?, read, textValue?, joined, Option.bind_eq_bind, Option.bind_some,
    Option.pure_def, String.ofList_toList]

end Cutting

/-! ### Values -/

/-- What may follow a value: nothing, a comma or the end of a container. -/
def Delimits (rest : List Char) : Prop := ∀ c ∈ rest.head?, c = ',' ∨ c = ']' ∨ c = '\x7d'

theorem delimits_nil : Delimits [] := fun _ mem => nomatch mem

theorem delimits_comma (rest : List Char) : Delimits (',' :: rest) := by
  rintro _ ⟨⟩
  exact .inl rfl

theorem delimits_close (rest : List Char) : Delimits ('\x7d' :: rest) := by
  rintro _ ⟨⟩
  exact .inr (.inr rfl)

/-- A value that is read back in every place where a value may stand and so many containers may
still be opened: it is cut into lexemes of its own, and these put it in its place. -/
def Reads (d : Dialect) (height : Nat) (v : Value) : Prop :=
  ∃ ls, (∀ rest more, Delimits rest → Cuts d rest more →
      Cuts d (writeChars v ++ rest) (ls ++ more)) ∧
    ∀ stack more, stack.length + height ≤ d.depth →
      (ls ++ more).foldlM (Assembly.step d) ⟨.value, stack, none⟩ =
        Assembly.place stack v >>= fun a => more.foldlM (Assembly.step d) a

variable {d : Dialect}

/-- A text that was written is read. -/
theorem reads_text (height : Nat) (s : String) : Reads d height (.text s) := by
  refine ⟨[.atom (.text s)], fun rest more _ cuts => ?_, fun stack more room => rfl⟩
  rw [writeChars]
  exact cuts.text s

theorem joinItems_cons (x : List Char) (rest : List (List Char)) :
    joinItems (x :: rest) = x ++ rest.flatMap fun y => ',' :: ' ' :: y := by
  induction rest generalizing x with
  | nil => simp [joinItems]
  | cons y rest ih =>
      rw [joinItems, ih, List.flatMap_cons]
      · rfl
      · exact List.cons_ne_nil y rest

/-- A member of an object is read after the opening brace and after a comma. -/
theorem reads_member {height : Nat} {v : Value} (n : String) (reads : Reads d height v) :
    ∃ ls, (∀ rest more, Delimits rest → Cuts d rest more →
        Cuts d (writeText n ++ ':' :: ' ' :: (writeChars v ++ rest)) (ls ++ more)) ∧
      ∀ expect done stack more, expect = .firstName ∨ expect = .name →
        stack.length + 1 + height ≤ d.depth →
        (ls ++ more).foldlM (Assembly.step d) ⟨expect, .object done none :: stack, none⟩ =
          more.foldlM (Assembly.step d) ⟨.next, .object ((n, v) :: done) none :: stack, none⟩ := by
  obtain ⟨ls, cut, put⟩ := reads
  refine ⟨.atom (.text n) :: .colon :: ls, fun rest more ends cuts => ?_, ?_⟩
  · refine Cuts.text ?_ n
    exact ((cut rest more ends cuts).space (by decide)).mark (by decide) rfl
  · intro expect done stack more place room
    have value := put (.object done (some n) :: stack) more room
    have named : Assembly.step d ⟨expect, .object done none :: stack, none⟩ (.atom (.text n)) =
        .ok ⟨.colon, .object done (some n) :: stack, none⟩ := by
      rcases place with rfl | rfl <;> rfl
    rw [List.cons_append, List.foldlM_cons, named]
    exact value

/-- The members of an object from one on are read one after the other. -/
theorem reads_members {height : Nat} {ms : List (String × Value)}
    (reads : ∀ m ∈ ms, Reads d height m.2) :
    ∃ ls, (∀ rest more, Delimits rest → Cuts d rest more →
        Delimits ((writeMembers ms).flatMap (fun y => ',' :: ' ' :: y) ++ rest) ∧
        Cuts d ((writeMembers ms).flatMap (fun y => ',' :: ' ' :: y) ++ rest) (ls ++ more)) ∧
      ∀ done stack more, stack.length + 1 + height ≤ d.depth →
        (ls ++ more).foldlM (Assembly.step d) ⟨.next, .object done none :: stack, none⟩ =
          more.foldlM (Assembly.step d)
            ⟨.next, .object (ms.reverse ++ done) none :: stack, none⟩ := by
  induction ms with
  | nil => exact ⟨[], fun rest more ends cuts => ⟨ends, cuts⟩, fun done stack more room => rfl⟩
  | cons m ms ih =>
      obtain ⟨first, cut, put⟩ := reads_member m.1 (reads m List.mem_cons_self)
      obtain ⟨ls, cuts, puts⟩ := ih fun m mem => reads m (List.mem_cons_of_mem _ mem)
      refine ⟨.comma :: (first ++ ls), fun rest more ends cut' => ?_,
        fun done stack more room => ?_⟩
      · simp only [writeMembers, List.flatMap_cons, List.cons_append, List.append_assoc]
        obtain ⟨ends, cut'⟩ := cuts rest more ends cut'
        refine ⟨delimits_comma _, Cuts.mark (Cuts.space ?_ (by decide)) (by decide) rfl⟩
        exact cut _ _ ends cut'
      · have comma : Assembly.step d ⟨.next, .object done none :: stack, none⟩ .comma =
            .ok ⟨.name, .object done none :: stack, none⟩ := rfl
        rw [List.cons_append, List.foldlM_cons, comma, List.append_assoc, List.reverse_cons,
          List.append_assoc]
        exact (put .name done stack _ (.inr rfl) room).trans (puts _ stack more room)

/-- An object is read if its members are. -/
theorem reads_object {height : Nat} {ms : List (String × Value)}
    (reads : ∀ m ∈ ms, Reads d height m.2) : Reads d (height + 1) (.object ms) := by
  have enters (stack : List Frame) (room : stack.length + (height + 1) ≤ d.depth) :
      Assembly.step d ⟨.value, stack, none⟩ .openObject =
        .ok ⟨.firstName, .object [] none :: stack, none⟩ := by
    simp only [Assembly.step, Assembly.enter]
    rw [if_pos (by omega)]
  cases ms with
  | nil =>
      refine ⟨[.openObject, .closeObject], fun rest more _ cuts => ?_, fun stack more room => ?_⟩
      · rw [writeChars]
        exact (cuts.mark (by decide) rfl).mark (by decide) rfl
      · rw [List.cons_append, List.foldlM_cons, enters stack room]
        rfl
  | cons m ms =>
      obtain ⟨first, cut, put⟩ := reads_member m.1 (reads m List.mem_cons_self)
      obtain ⟨ls, cuts, puts⟩ := reads_members fun m mem => reads m (List.mem_cons_of_mem _ mem)
      refine ⟨.openObject :: (first ++ (ls ++ [.closeObject])), fun rest more _ cut' => ?_,
        fun stack more room => ?_⟩
      · have closed : Cuts d ('\x7d' :: rest) (.closeObject :: more) :=
          cut'.mark (by decide) rfl
        rw [writeChars, writeMembers, joinItems_cons]
        simp only [List.cons_append, List.append_assoc, List.nil_append]
        obtain ⟨ends, cut'⟩ := cuts _ _ (delimits_close rest) closed
        exact Cuts.mark (cut _ _ ends cut') (by decide) rfl
      · have room' : stack.length + 1 + height ≤ d.depth := by omega
        rw [List.cons_append, List.foldlM_cons, enters stack room, List.append_assoc]
        refine (put .firstName [] stack _ (.inl rfl) room').trans ?_
        rw [List.append_assoc, puts _ stack _ room', List.singleton_append, List.foldlM_cons]
        change Assembly.place stack (.object (ms.reverse ++ [(m.1, m.2)]).reverse) >>= _ = _
        rw [List.reverse_append, List.reverse_reverse]
        rfl

/-! ### Documents -/

/-- What is written is read back. -/
theorem read_write {height : Nat} {v : Value} (reads : Reads d height v) (fits : height ≤ d.depth) :
    read d (write v) = .ok v := by
  obtain ⟨ls, cut, put⟩ := reads
  have cuts := cut [] [] delimits_nil cuts_nil _ (Nat.le_refl _)
  have put := put [] [] (by simpa using fits)
  simp only [List.append_nil] at cuts put
  unfold read write
  rw [String.toList_ofList]
  simp only [cuts, put]
  rfl

theorem toList_loop (bytes : ByteArray) (rest i : Nat) (taken : List UInt8)
    (all : i + rest = bytes.size) :
    ByteArray.toList.loop bytes i taken = taken.reverse ++ bytes.data.toList.drop i := by
  have size : bytes.size = bytes.data.toList.length := Array.size_eq_length_toList
  induction rest generalizing i taken with
  | zero =>
      rw [ByteArray.toList.loop, if_neg (by omega), List.drop_of_length_le (by omega),
        List.append_nil]
  | succ rest ih =>
      have inside : i < bytes.data.toList.length := by omega
      have byte : bytes.get! i = bytes.data.toList[i] := getElem!_pos bytes.data i inside
      rw [ByteArray.toList.loop, if_pos (by omega), ih (i + 1) _ (by omega),
        List.drop_eq_getElem_cons inside, List.reverse_cons, List.append_assoc, byte]
      rfl

/-- Taking a byte array apart and putting it together again changes nothing. -/
theorem mk_toList (bytes : ByteArray) : ByteArray.mk bytes.toList.toArray = bytes := by
  rw [ByteArray.toList, toList_loop bytes bytes.size 0 [] (Nat.zero_add _)]
  rfl

/-- What is written is read back from its bytes. -/
theorem readBytes_write {height : Nat} {v : Value} (reads : Reads d height v)
    (fits : height ≤ d.depth) : readBytes? d (write v).toUTF8.toList = some v := by
  have text : String.fromUTF8? (write v).toUTF8 = some (write v) := by
    have valid : (write v).toUTF8.IsValidUTF8 := (write v).isValidUTF8
    rw [String.fromUTF8?, dif_pos valid]
    rfl
  rw [readBytes?, mk_toList, text, Option.bind_some, read?, read_write reads fits]
  rfl

end LinkShortener.Json
