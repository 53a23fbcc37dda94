import TreeQuery.Display.Words
import TreeQuery.Proofs.Text.Quoted

namespace TreeQuery.Text

def IsLine (s : String) : Prop := '\n' ∉ s.toList

instance (s : String) : Decidable (IsLine s) := inferInstanceAs (Decidable ('\n' ∉ s.toList))

def lineBreaks (s : String) : Nat := s.toList.count '\n'

/-- The text with so many spaces behind each line break. -/
def indented (width : Nat) (s : String) : String :=
  String.ofList (s.toList.flatMap fun c =>
    if c = '\n' then '\n' :: List.replicate width ' ' else [c])

@[simp]
theorem isLine_append {s t : String} : IsLine (s ++ t) ↔ IsLine s ∧ IsLine t := by
  simp [IsLine]

theorem isLine_empty : IsLine "" := by decide

theorem isLine_join {texts : List String} (lines : ∀ s ∈ texts, IsLine s) :
    IsLine (String.join texts) := by
  induction texts with
  | nil => exact isLine_empty
  | cons s texts ih =>
    obtain ⟨first, others⟩ := List.forall_mem_cons.mp lines
    rw [String.join_cons, isLine_append]
    exact ⟨first, ih others⟩

theorem isLine_intercalate {separator : String} {texts : List String}
    (separates : IsLine separator) (lines : ∀ s ∈ texts, IsLine s) :
    IsLine (separator.intercalate texts) := by
  induction texts with
  | nil => exact isLine_empty
  | cons s texts ih =>
    obtain ⟨first, others⟩ := List.forall_mem_cons.mp lines
    cases texts with
    | nil => simpa using first
    | cons t texts =>
      simp only [String.intercalate_cons_cons, isLine_append]
      exact ⟨⟨first, separates⟩, ih others⟩

theorem newline_not_mem_hexDigits (width n : Nat) : '\n' ∉ hexDigits width n := by
  have digit : ∀ n, '\n' ≠ hexDigit n := by
    intro n
    have small : n % 16 < 16 := Nat.mod_lt n (by decide)
    unfold hexDigit
    generalize n % 16 = d at small
    interval_cases d <;> decide
  induction width generalizing n with
  | zero => simp [hexDigits]
  | succ width ih => simp [hexDigits, ih, digit]

theorem newline_not_mem_escapeCode (n : Nat) : '\n' ∉ escapeCode n := by
  unfold escapeCode
  split
  · simp [newline_not_mem_hexDigits]
  · split <;> simp [newline_not_mem_hexDigits]

theorem newline_not_mem_escapeChar {mark : Char} (isMark : IsMark mark) (c : Char) :
    '\n' ∉ escapeChar mark c := by
  have other : '\n' ≠ mark := by
    rcases isMark with rfl | rfl <;> decide
  unfold escapeChar escapeShort
  by_cases line : c = '\n'
  · subst line
    simp [other]
  have letter : '\n' ≠ c := fun same => line same.symm
  by_cases slash : c = '\\'
  · simp [slash]
  by_cases same : c = mark
  · simp [same, other]
  by_cases back : c = '\r'
  · subst back
    simp [same]
  by_cases tab : c = '\t'
  · subst tab
    simp [same]
  by_cases printable : isPrintable c
  · simp [slash, same, line, back, tab, printable, letter]
  · simpa [slash, same, line, back, tab, printable] using newline_not_mem_escapeCode c.toNat

theorem isLine_quote (s : String) : IsLine (quote s) := by
  have isMark := isMark_quoteMark s.toList
  have mark : '\n' ≠ quoteMark s.toList := by
    rcases isMark with same | same <;> rw [same] <;> decide
  simp only [IsLine, quote, String.toList_ofList, quoteChars, List.mem_cons, List.mem_append,
    List.mem_flatMap, List.not_mem_nil, or_false, not_or, not_exists, not_and]
  exact ⟨mark, fun c _ => newline_not_mem_escapeChar isMark c, mark⟩

theorem isLine_cut {s : String} (line : IsLine s) (limit : Int) : IsLine (cut limit s) := by
  have taken : ∀ n, '\n' ∉ s.toList.take n := fun n member => line (List.mem_of_mem_take member)
  simp only [IsLine, cut, String.toList_ofList, cutChars]
  split
  · split
    · simp
    · next c cs chars =>
      have head : '\n' ≠ c := by
        rintro rfl
        exact line (chars ▸ List.mem_cons_self)
      have dots : '\n' ≠ ellipsis := by decide
      split
      · simp [taken, head, dots]
      · simp [taken, dots]
  · exact line

theorem length_cut_le {limit : Int} (more : 2 < limit) (s : String) :
    ((cut limit s).length : Int) ≤ limit := by
  have cutChars_le := length_cutChars_le more s.toList
  rwa [cut, String.length_ofList]

theorem isLine_nameText (name : String) : IsLine (Display.nameText name) := by
  unfold Display.nameText
  split
  · next plain =>
    intro member
    simp only [isPlainName, Bool.and_eq_true, List.all_eq_true] at plain
    have letter := plain.2 '\n' member
    revert letter
    decide
  · exact isLine_quote name

section Indented

variable (width : Nat) (s t : String)

@[simp]
theorem indented_append : indented width (s ++ t) = indented width s ++ indented width t := by
  simp [indented]

variable {s} in
theorem indented_of_isLine (line : IsLine s) : indented width s = s := by
  have same : ∀ cs : List Char, '\n' ∉ cs →
      (cs.flatMap fun c => if c = '\n' then '\n' :: List.replicate width ' ' else [c]) = cs := by
    intro cs none
    induction cs with
    | nil => rfl
    | cons c cs ih =>
      obtain ⟨other, others⟩ := List.ne_and_not_mem_of_not_mem_cons none
      rw [List.flatMap_cons, if_neg other.symm, ih others]
      rfl
  rw [indented, same s.toList line, String.ofList_toList]

@[simp]
theorem lineBreaks_append : lineBreaks (s ++ t) = lineBreaks s + lineBreaks t := by
  simp [lineBreaks]

variable {s} in
theorem lineBreaks_eq_zero : lineBreaks s = 0 ↔ IsLine s := List.count_eq_zero

@[simp]
theorem lineBreaks_indented : lineBreaks (indented width s) = lineBreaks s := by
  simp only [lineBreaks, indented, String.toList_ofList, List.count_flatMap]
  induction s.toList with
  | nil => rfl
  | cons c cs ih =>
    by_cases newline : c = '\n'
    · simp [newline, ih, List.count_replicate, Nat.add_comm]
    · simp [newline, ih]

end Indented

end TreeQuery.Text
