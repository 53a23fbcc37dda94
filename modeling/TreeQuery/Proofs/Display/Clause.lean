import TreeQuery.Proofs.Text.Quoted
import TreeQuery.Value
import Mathlib.Data.List.Forall2
import Mathlib.Data.List.Induction

namespace TreeQuery

/-- What an expression says of a step: the selector and the value of a scalar step, and of a branch
the name of its combinator and the candidates. The combinator itself is not written. -/
inductive Clause
  | scalar (attr value : String)
  | branch (attr name : String) (combinator : Value) (candidates : List String)
  deriving DecidableEq, Repr

namespace Clause

def searchHead (attr : String) : String :=
  if attr = "tag" then "find_child_by_tag(" else "find_child_by_attr(" ++ Text.quote attr ++ ", "

def call (i : Nat) (attr candidate : String) : String :=
  searchHead attr ++ Text.quote candidate ++ ", " ++ ("_" ++ toString i) ++ ")"

def opening (i : Nat) : Clause → String
  | scalar attr value => searchHead attr ++ Text.quote value ++ ", "
  | branch attr name _ candidates =>
    "(lambda " ++ ("_" ++ toString i) ++ ": " ++ name ++ "(" ++
      ", ".intercalate (candidates.map (call i attr)) ++ "))("

def openings : Nat → List Clause → String
  | _, [] => ""
  | i, c :: cs => openings (i + 1) cs ++ c.opening i

def closings (n : Nat) : String := String.ofList (List.replicate n ')')

def isNamed : Clause → Bool
  | scalar _ _ => true
  | branch _ name _ _ => !name.toList.contains '('

/-- The clauses are written alike: they say the same, except that the selector of a branch without
candidates is not written. -/
def Alike : Clause → Clause → Prop
  | scalar attr value, scalar attr' value' => attr = attr' ∧ value = value'
  | branch attr name _ candidates, branch attr' name' _ candidates' =>
    name = name' ∧ candidates = candidates' ∧ (candidates ≠ [] → attr = attr')
  | _, _ => False

section Reading

variable {x y : List Char}

/-- The selector and the value of a search are told from what stands behind them. -/
theorem search_append_inj {attr attr' value value' : String}
    (same : (searchHead attr).toList ++ ((Text.quote value).toList ++ x) =
      (searchHead attr').toList ++ ((Text.quote value').toList ++ y)) :
    attr = attr' ∧ value = value' ∧ x = y := by
  unfold searchHead at same
  by_cases tag : attr = "tag" <;> by_cases tag' : attr' = "tag"
  · subst tag tag'
    simp only [if_true, List.append_cancel_left_eq] at same
    exact ⟨rfl, Text.quote_append_inj same⟩
  · simp [tag, tag'] at same
  · simp [tag, tag'] at same
  · simp only [if_neg tag, if_neg tag', String.toList_append, List.append_assoc,
      List.append_cancel_left_eq] at same
    obtain ⟨attrs, rest⟩ := Text.quote_append_inj same
    rw [List.append_cancel_left_eq] at rest
    exact ⟨attrs, Text.quote_append_inj rest⟩

theorem call_append_inj {i j : Nat} {attr attr' candidate candidate' : String}
    (var : (toString i).toList = (toString j).toList)
    (same : (call i attr candidate).toList ++ x = (call j attr' candidate').toList ++ y) :
    attr = attr' ∧ candidate = candidate' ∧ x = y := by
  simp only [call, String.toList_append, List.append_assoc] at same
  obtain ⟨attrs, values, rest⟩ := search_append_inj same
  rw [var] at rest
  simp only [List.append_cancel_left_eq] at rest
  exact ⟨attrs, values, rest⟩

def moreCalls (i : Nat) (attr : String) (candidates : List String) : List Char :=
  candidates.flatMap fun candidate => ", ".toList ++ (call i attr candidate).toList

theorem toList_intercalate_calls (i : Nat) (attr candidate : String) (candidates : List String) :
    (", ".intercalate ((candidate :: candidates).map (call i attr))).toList =
      (call i attr candidate).toList ++ moreCalls i attr candidates := by
  induction candidates generalizing candidate with
  | nil => simp [moreCalls]
  | cons next candidates ih =>
    have rest := ih next
    rw [List.map_cons] at rest
    rw [List.map_cons, List.map_cons, String.intercalate_cons_cons, String.toList_append,
      String.toList_append, rest]
    simp [moreCalls]

theorem moreCalls_append_inj {i j : Nat} {attr : String} {candidates candidates' : List String}
    (var : (toString i).toList = (toString j).toList)
    (same : moreCalls i attr candidates ++ ')' :: x = moreCalls j attr candidates' ++ ')' :: y) :
    candidates = candidates' ∧ x = y := by
  induction candidates generalizing candidates' with
  | nil =>
    cases candidates' with
    | nil => simpa [moreCalls] using same
    | cons c cs => simp [moreCalls] at same
  | cons c cs ih =>
    cases candidates' with
    | nil => simp [moreCalls] at same
    | cons c' cs' =>
      simp only [moreCalls, List.flatMap_cons, List.append_assoc, List.append_cancel_left_eq]
        at same
      obtain ⟨_, rfl, rest⟩ := call_append_inj var same
      obtain ⟨rfl, behind⟩ := ih rest
      exact ⟨rfl, behind⟩

/-- The calls of a branch are told from what stands behind them, and its selector if there is a
call. -/
theorem calls_append_inj {i j : Nat} {attr attr' : String} {candidates candidates' : List String}
    (var : (toString i).toList = (toString j).toList)
    (same : (", ".intercalate (candidates.map (call i attr))).toList ++ ')' :: x =
      (", ".intercalate (candidates'.map (call j attr'))).toList ++ ')' :: y) :
    candidates = candidates' ∧ (candidates ≠ [] → attr = attr') ∧ x = y := by
  have start : ∀ i attr candidate, ∃ cs, (call i attr candidate).toList = 'f' :: cs := by
    intro i attr candidate
    unfold call searchHead
    split <;> simp
  -- A call starts with a letter, and so is told from the parenthesis behind the last one.
  cases candidates with
  | nil =>
    cases candidates' with
    | nil => simpa using same
    | cons c' cs' =>
      obtain ⟨ds, first⟩ := start j attr' c'
      rw [toList_intercalate_calls, first] at same
      simp at same
  | cons c cs =>
    obtain ⟨ds, first⟩ := start i attr c
    cases candidates' with
    | nil =>
      rw [toList_intercalate_calls, first] at same
      simp at same
    | cons c' cs' =>
      rw [toList_intercalate_calls, toList_intercalate_calls, List.append_assoc,
        List.append_assoc] at same
      obtain ⟨rfl, rfl, rest⟩ := call_append_inj var same
      obtain ⟨rfl, behind⟩ := moreCalls_append_inj var rest
      exact ⟨rfl, fun _ => rfl, behind⟩

theorem colon_not_mem_toString (n : Nat) : ':' ∉ (toString n).toList := by
  intro member
  rw [Nat.toString_eq_repr, Nat.toList_repr] at member
  have digit := Nat.isDigit_of_mem_toDigits (by decide) (by decide) member
  revert digit
  decide

/-- A clause is told from the expression that stands inside it. -/
theorem opening_append_inj {i j : Nat} {c c' : Clause} (named : c.isNamed) (named' : c'.isNamed)
    (same : (c.opening i).toList ++ x = (c'.opening j).toList ++ y) : c.Alike c' ∧ x = y := by
  have head : ∀ attr, ∃ cs, (searchHead attr).toList = 'f' :: cs := by
    intro attr
    unfold searchHead
    split <;> simp
  rcases c with ⟨attr, value⟩ | ⟨attr, name, combinator, candidates⟩ <;>
    rcases c' with ⟨attr', value'⟩ | ⟨attr', name', combinator', candidates'⟩
  · simp only [opening, String.toList_append, List.append_assoc] at same
    obtain ⟨attrs, values, rest⟩ := search_append_inj same
    rw [List.append_cancel_left_eq] at rest
    exact ⟨⟨attrs, values⟩, rest⟩
  · obtain ⟨cs, first⟩ := head attr
    simp [opening, first] at same
  · obtain ⟨cs, first⟩ := head attr'
    simp [opening, first] at same
  · simp only [opening, String.toList_append, List.append_assoc, List.append_cancel_left_eq] at same
    obtain ⟨var, rest⟩ := Text.append_cons_inj ':' (colon_not_mem_toString i)
      (colon_not_mem_toString j) same
    have space : ∀ zs : List Char, [' '] ++ zs = ' ' :: zs := fun _ => rfl
    have none : '(' ∉ ' ' :: name.toList := by simpa [isNamed] using named
    have none' : '(' ∉ ' ' :: name'.toList := by simpa [isNamed] using named'
    obtain ⟨names, rest⟩ := Text.append_cons_inj '(' none none' rest
    obtain ⟨candidates, attrs, rest⟩ := calls_append_inj var rest
    have inner : x = y := by simpa using rest
    have names : name = name' := String.toList_inj.mp (List.cons.inj names).2
    exact ⟨⟨names, candidates, attrs⟩, inner⟩

theorem openings_append (i : Nat) (cs : List Clause) (c : Clause) :
    openings i (cs ++ [c]) = c.opening (i + cs.length) ++ openings i cs := by
  induction cs generalizing i with
  | nil => simp [openings]
  | cons d cs ih =>
    rw [List.cons_append, openings, ih, openings, String.append_assoc, List.length_cons]
    have number : i + 1 + cs.length = i + (cs.length + 1) := by omega
    rw [number]

/-- The clauses are told from an expression whose root is written as the letter `r` and on. -/
theorem openings_append_inj {i j : Nat} {cs cs' : List Clause} (named : ∀ c ∈ cs, c.isNamed)
    (named' : ∀ c ∈ cs', c.isNamed)
    (same : (openings i cs).toList ++ 'r' :: x = (openings j cs').toList ++ 'r' :: y) :
    List.Forall₂ Alike cs cs' := by
  have other : ∀ k (ds : List Clause) (d : Clause), ∃ e es,
      (openings k (ds ++ [d])).toList = e :: es ∧ e ≠ 'r' := by
    intro k ds d
    rw [openings_append, String.toList_append]
    cases d with
    | scalar attr value =>
      simp only [opening, searchHead]
      split <;> simp
    | branch attr name combinator candidates => simp [opening]
  -- The last step stands first, so the clauses are taken off from the end.
  induction cs using List.reverseRecOn generalizing cs' with
  | nil =>
    rcases List.eq_nil_or_concat cs' with rfl | ⟨ds, d, rfl⟩
    · exact .nil
    · obtain ⟨e, es, start, differs⟩ := other j ds d
      rw [List.concat_eq_append, start] at same
      simp only [openings, String.toList_empty, List.nil_append, List.cons_append,
        List.cons.injEq] at same
      exact absurd same.1.symm differs
  | append_singleton cs c ih =>
    rcases List.eq_nil_or_concat cs' with rfl | ⟨ds, d, rfl⟩
    · obtain ⟨e, es, start, differs⟩ := other i cs c
      rw [start] at same
      simp only [openings, String.toList_empty, List.nil_append, List.cons_append,
        List.cons.injEq] at same
      exact absurd same.1 differs
    · rw [List.concat_eq_append] at named' same ⊢
      rw [openings_append, openings_append, String.toList_append, String.toList_append,
        List.append_assoc, List.append_assoc] at same
      obtain ⟨alike, rest⟩ := opening_append_inj (named c (by simp)) (named' d (by simp)) same
      have before := ih (fun e member => named e (by simp [member]))
        (fun e member => named' e (by simp [member])) rest
      exact List.rel_append before (.cons alike .nil)

end Reading

end Clause

end TreeQuery
