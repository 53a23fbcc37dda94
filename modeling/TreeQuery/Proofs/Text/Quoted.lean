import TreeQuery.Text.Quoted
import Mathlib.Tactic.IntervalCases

namespace TreeQuery.Text

theorem append_cons_inj (mark : Char) {cs ds x y : List Char} (none : mark ∉ cs) (none' : mark ∉ ds)
    (same : cs ++ mark :: x = ds ++ mark :: y) : cs = ds ∧ x = y := by
  induction cs generalizing ds with
  | nil =>
    cases ds with
    | nil => simpa using same
    | cons d ds =>
      simp only [List.nil_append, List.cons_append, List.cons.injEq] at same
      exact absurd (List.mem_cons.mpr (.inl same.1)) none'
  | cons c cs ih =>
    cases ds with
    | nil =>
      simp only [List.nil_append, List.cons_append, List.cons.injEq] at same
      exact absurd (List.mem_cons.mpr (.inl same.1.symm)) none
    | cons d ds =>
      simp only [List.cons_append, List.cons.injEq] at same
      obtain ⟨rfl, rest⟩ := same
      obtain ⟨rfl, behind⟩ := ih (fun member => none (.tail _ member))
        (fun member => none' (.tail _ member)) rest
      exact ⟨rfl, behind⟩

def hexValue (c : Char) : Nat := if c.isDigit then c.toNat - '0'.toNat else c.toNat - 'a'.toNat + 10

def readHex (cs : List Char) : Nat := cs.foldl (fun n c => n * 16 + hexValue c) 0

def readCode (width : Nat) (cs : List Char) : Char × List Char :=
  (Char.ofNat (readHex (cs.take width)), cs.drop width)

def readChar : List Char → Option (Char × List Char)
  | [] => none
  | '\\' :: 'n' :: cs => some ('\n', cs)
  | '\\' :: 'r' :: cs => some ('\r', cs)
  | '\\' :: 't' :: cs => some ('\t', cs)
  | '\\' :: 'x' :: cs => some (readCode 2 cs)
  | '\\' :: 'u' :: cs => some (readCode 4 cs)
  | '\\' :: 'U' :: cs => some (readCode 8 cs)
  | '\\' :: c :: cs => some (c, cs)
  | c :: cs => some (c, cs)

@[simp]
theorem length_hexDigits (width n : Nat) : (hexDigits width n).length = width := by
  induction width generalizing n with
  | zero => rfl
  | succ width ih => simp [hexDigits, ih]

theorem hexValue_hexDigit (n : Nat) : hexValue (hexDigit n) = n % 16 := by
  have small : n % 16 < 16 := Nat.mod_lt n (by decide)
  unfold hexDigit
  generalize n % 16 = d at small
  interval_cases d <;> decide

theorem readHex_hexDigits (width n : Nat) : readHex (hexDigits width n) = n % 16 ^ width := by
  induction width generalizing n with
  | zero => simp [hexDigits, readHex, Nat.mod_one]
  | succ width ih =>
    have before : readHex (hexDigits width (n / 16)) = n / 16 % 16 ^ width := ih (n / 16)
    calc readHex (hexDigits (width + 1) n)
      _ = readHex (hexDigits width (n / 16)) * 16 + hexValue (hexDigit n) := by
        simp [hexDigits, readHex, List.foldl_append]
      _ = n / 16 % 16 ^ width * 16 + n % 16 := by rw [before, hexValue_hexDigit]
      _ = n % 16 ^ (width + 1) := by
        rw [Nat.pow_succ, Nat.mul_comm (16 ^ width) 16, Nat.mod_mul]
        omega

theorem readCode_hexDigits (width : Nat) (c : Char) (fits : c.toNat < 16 ^ width)
    (rest : List Char) : readCode width (hexDigits width c.toNat ++ rest) = (c, rest) := by
  have digits : (hexDigits width c.toNat ++ rest).take width = hexDigits width c.toNat := by simp
  have behind : (hexDigits width c.toNat ++ rest).drop width = rest := by simp
  rw [readCode, digits, behind, readHex_hexDigits, Nat.mod_eq_of_lt fits, Char.ofNat_toNat]

theorem readChar_escapeCode (c : Char) (rest : List Char) :
    readChar (escapeCode c.toNat ++ rest) = some (c, rest) := by
  have valid : c.toNat < 16 ^ 8 := by
    have bound := c.valid
    simp only [UInt32.isValidChar, Nat.isValidChar] at bound
    simp only [Char.toNat]
    omega
  unfold escapeCode
  split
  · next fits => simp [readChar, readCode_hexDigits 2 c fits]
  · split
    · next fits => simp [readChar, readCode_hexDigits 4 c fits]
    · simp [readChar, readCode_hexDigits 8 c valid]

def IsMark (mark : Char) : Prop := mark = singleQuote ∨ mark = doubleQuote

theorem isMark_quoteMark (cs : List Char) : IsMark (quoteMark cs) := by
  unfold quoteMark
  split
  · exact .inr rfl
  · exact .inl rfl

theorem readChar_escapeChar {mark : Char} (isMark : IsMark mark) (c : Char) (rest : List Char) :
    readChar (escapeChar mark c ++ rest) = some (c, rest) := by
  unfold escapeChar escapeShort
  by_cases slash : c = '\\'
  · subst slash
    simp [readChar]
  by_cases same : c = mark
  · subst same
    rcases isMark with rfl | rfl <;> simp [readChar, singleQuote, doubleQuote]
  by_cases line : c = '\n'
  · subst line
    simp [same, readChar]
  by_cases back : c = '\r'
  · subst back
    simp [same, readChar]
  by_cases tab : c = '\t'
  · subst tab
    simp [same, readChar]
  by_cases printable : isPrintable c
  · simp [slash, same, line, back, tab, printable, readChar]
  · simpa [slash, same, line, back, tab, printable] using readChar_escapeCode c rest

/-- No escaped character starts with the mark, so that the first one that stands alone closes. -/
theorem escapeChar_ne_mark {mark : Char} (isMark : IsMark mark) (c : Char) :
    ∃ d ds, escapeChar mark c = d :: ds ∧ d ≠ mark := by
  have slash : '\\' ≠ mark := by
    rcases isMark with rfl | rfl <;> decide
  unfold escapeChar
  rcases short : escapeShort mark c with _ | cs
  · have other : c ≠ mark := by
      rintro rfl
      simp [escapeShort] at short
    by_cases printable : isPrintable c
    · exact ⟨c, [], by simp [printable], other⟩
    · have coded : ∃ ds, escapeCode c.toNat = '\\' :: ds := by
        unfold escapeCode
        split
        · exact ⟨_, rfl⟩
        · split <;> exact ⟨_, rfl⟩
      obtain ⟨ds, coded⟩ := coded
      exact ⟨'\\', ds, by simpa [printable] using coded, slash⟩
  · have start : ∃ ds, cs = '\\' :: ds := by
      unfold escapeShort at short
      repeat' split at short
      all_goals cases short
      all_goals exact ⟨_, rfl⟩
    obtain ⟨ds, rfl⟩ := start
    exact ⟨'\\', ds, rfl, slash⟩

theorem flatMap_escapeChar_inj {mark : Char} (isMark : IsMark mark) {cs ds x y : List Char}
    (same : cs.flatMap (escapeChar mark) ++ mark :: x = ds.flatMap (escapeChar mark) ++ mark :: y) :
    cs = ds ∧ x = y := by
  induction cs generalizing ds with
  | nil =>
    cases ds with
    | nil => simpa using same
    | cons d ds =>
      obtain ⟨e, es, start, other⟩ := escapeChar_ne_mark isMark d
      simp only [List.flatMap_nil, List.nil_append, List.flatMap_cons, start, List.cons_append,
        List.cons.injEq] at same
      exact absurd same.1.symm other
  | cons c cs ih =>
    cases ds with
    | nil =>
      obtain ⟨e, es, start, other⟩ := escapeChar_ne_mark isMark c
      simp only [List.flatMap_nil, List.nil_append, List.flatMap_cons, start, List.cons_append,
        List.cons.injEq] at same
      exact absurd same.1 other
    | cons d ds =>
      simp only [List.flatMap_cons, List.append_assoc] at same
      have read := congrArg readChar same
      rw [readChar_escapeChar isMark, readChar_escapeChar isMark] at read
      obtain ⟨rfl, rest⟩ := Prod.mk.inj (Option.some.inj read)
      obtain ⟨rfl, behind⟩ := ih rest
      exact ⟨rfl, behind⟩

theorem quoteChars_append_inj {cs ds x y : List Char}
    (same : quoteChars cs ++ x = quoteChars ds ++ y) : cs = ds ∧ x = y := by
  simp only [quoteChars, List.cons_append, List.append_assoc, List.cons.injEq] at same
  obtain ⟨marks, rest⟩ := same
  rw [← marks] at rest
  exact flatMap_escapeChar_inj (isMark_quoteMark cs) rest

/-- A quoted text at the front of something is told from what stands behind it. -/
theorem quote_append_inj {s t : String} {x y : List Char}
    (same : (quote s).toList ++ x = (quote t).toList ++ y) : s = t ∧ x = y := by
  simp only [quote, String.toList_ofList] at same
  obtain ⟨texts, behind⟩ := quoteChars_append_inj same
  exact ⟨String.toList_inj.mp texts, behind⟩

end TreeQuery.Text
