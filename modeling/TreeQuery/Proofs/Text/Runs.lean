import TreeQuery.Text.Collapse
import Mathlib.Data.List.SplitBy

namespace TreeQuery.Text

def sameKind (c d : Char) : Bool := isMarkupSpace c == isMarkupSpace d

/-- The maximal runs of a text in order, each of markup space or of other characters. -/
def runs (cs : List Char) : List (List Char) := cs.splitBy sameKind

def mark (run : List Char) : Char := if '\n' ∈ run then '\n' else ' '

def squeezed (run : List Char) : List Char := if run.all isMarkupSpace then [mark run] else run

def IsEven (run : List Char) : Prop :=
  (∀ c ∈ run, isMarkupSpace c = true) ∨ ∀ c ∈ run, isMarkupSpace c = false

theorem isMarkupSpace_mark (run : List Char) : isMarkupSpace (mark run) = true := by
  unfold mark
  split <;> rfl

theorem squeezed_of_space {run : List Char} (space : ∀ c ∈ run, isMarkupSpace c = true) :
    squeezed run = [mark run] :=
  if_pos (List.all_eq_true.mpr space)

theorem squeezed_of_other {run : List Char} (some_ : run ≠ [])
    (other : ∀ c ∈ run, isMarkupSpace c = false) : squeezed run = run := by
  obtain ⟨c, rest, rfl⟩ := List.exists_cons_of_ne_nil some_
  have first := other c (.head _)
  simp [squeezed, first]

section Collapsing

variable {run rest : List Char}

theorem collapseFrom_space {c : Char} (mark_ : c = '\n' ∨ c = ' ')
    (space : ∀ d ∈ run, isMarkupSpace d = true) :
    collapseFrom (some c) (run ++ rest) = collapseFrom (some (mark (c :: run))) rest := by
  induction run generalizing c with
  | nil => rcases mark_ with rfl | rfl <;> rfl
  | cons d run ih =>
    obtain ⟨first, others⟩ := List.forall_mem_cons.mp space
    rw [List.cons_append, collapseFrom, if_pos first]
    rcases mark_ with rfl | rfl
    · rw [show runMark d (some '\n') = '\n' from rfl, ih (.inl rfl) others]
      simp [mark]
    · by_cases line : d = '\n'
      · rw [show runMark d (some ' ') = '\n' by simp [runMark, line], ih (.inl rfl) others]
        simp [mark, line]
      · have other : '\n' ≠ d := fun same => line same.symm
        rw [show runMark d (some ' ') = ' ' by simp [runMark, line], ih (.inr rfl) others]
        simp [mark, other]

/-- A run of space that ends where other characters follow becomes its mark. -/
theorem collapse_space_append (some_ : run ≠ []) (space : ∀ c ∈ run, isMarkupSpace c = true)
    (ends : ∀ c ∈ rest.head?, isMarkupSpace c = false) :
    collapse (run ++ rest) = mark run :: collapse rest := by
  obtain ⟨c, run, rfl⟩ := List.exists_cons_of_ne_nil some_
  obtain ⟨first, others⟩ := List.forall_mem_cons.mp space
  have started : collapse (c :: run ++ rest) = collapseFrom (some (mark (c :: run))) rest := by
    rw [collapse, List.cons_append, collapseFrom, if_pos first]
    by_cases line : c = '\n'
    · subst line
      exact collapseFrom_space (.inl rfl) others
    · have other : '\n' ≠ c := fun same => line same.symm
      rw [show runMark c none = ' ' by simp [runMark, line],
        collapseFrom_space (.inr rfl) others]
      simp [mark, other]
  rw [started]
  cases rest with
  | nil => rfl
  | cons d rest =>
    have last : isMarkupSpace d = false := ends d rfl
    simp [collapse, collapseFrom, last]

theorem collapse_other_append (other : ∀ c ∈ run, isMarkupSpace c = false) :
    collapse (run ++ rest) = run ++ collapse rest := by
  induction run with
  | nil => rfl
  | cons c run ih =>
    obtain ⟨first, others⟩ := List.forall_mem_cons.mp other
    have later := ih others
    rw [collapse] at later
    simp [collapse, collapseFrom, first, later]

end Collapsing

def Alternate (rs : List (List Char)) : Prop :=
  rs.IsChain fun run next => ∃ some_ other,
    sameKind (run.getLast some_) (next.head other) = false

theorem isEven_of_mem_runs {cs run : List Char} (member : run ∈ runs cs) : IsEven run := by
  have chain := List.isChain_of_mem_splitBy member
  have some_ := List.ne_nil_of_mem_splitBy member
  obtain ⟨c, rest, rfl⟩ := List.exists_cons_of_ne_nil some_
  clear member some_
  have like : ∀ d ∈ c :: rest, isMarkupSpace d = isMarkupSpace c := by
    induction rest generalizing c with
    | nil => simp
    | cons d rest ih =>
      rw [List.isChain_cons_cons, sameKind, beq_iff_eq] at chain
      obtain ⟨same, chain⟩ := chain
      intro e later
      rcases List.mem_cons.mp later with rfl | later
      · rfl
      · exact (ih d chain e later).trans same.symm
  cases kind : isMarkupSpace c with
  | true => exact .inl fun d member => (like d member).trans kind
  | false => exact .inr fun d member => (like d member).trans kind

theorem alternate_runs (cs : List Char) : Alternate (runs cs) :=
  List.isChain_getLast_head_splitBy sameKind cs

/-- A text made of alternating runs is collapsed run by run. -/
theorem collapse_flatten {rs : List (List Char)} (some_ : [] ∉ rs) (even : ∀ run ∈ rs, IsEven run)
    (alternate : Alternate rs) : collapse rs.flatten = (rs.map squeezed).flatten := by
  induction rs with
  | nil => rfl
  | cons run rs ih =>
    obtain ⟨first, others⟩ := List.forall_mem_cons.mp even
    obtain ⟨nonempty, nonempty'⟩ := List.ne_and_not_mem_of_not_mem_cons some_
    have later := ih nonempty' others alternate.tail
    rw [List.flatten_cons, List.map_cons, List.flatten_cons, ← later]
    rcases first with space | other
    · rw [squeezed_of_space space]
      refine collapse_space_append nonempty.symm space ?_
      intro c start
      cases rs with
      | nil => cases start
      | cons next rs =>
        obtain ⟨⟨_, started, differ⟩, _⟩ := List.isChain_cons_cons.mp alternate
        have last := space _ (List.getLast_mem nonempty.symm)
        have same : next.head started = c := by
          rw [List.flatten_cons, List.head?_append_of_ne_nil _ started] at start
          exact List.head_of_mem_head? start
        simpa [sameKind, last, same] using differ
    · rw [squeezed_of_other nonempty.symm other]
      exact collapse_other_append other

theorem runs_eq_iff {cs : List Char} {rs : List (List Char)} :
    runs cs = rs ↔ cs = rs.flatten ∧ [] ∉ rs ∧
      (∀ run ∈ rs, run.IsChain fun c d => sameKind c d) ∧ Alternate rs :=
  List.splitBy_eq_iff

theorem collapse_eq (cs : List Char) : collapse cs = ((runs cs).map squeezed).flatten := by
  have nonempty : [] ∉ runs cs := List.nil_notMem_splitBy sameKind cs
  have whole := collapse_flatten nonempty (fun _ => isEven_of_mem_runs) (alternate_runs cs)
  have joined : (runs cs).flatten = cs := List.flatten_splitBy sameKind cs
  rwa [joined] at whole

theorem squeezed_ne_nil {run : List Char} (some_ : run ≠ []) : squeezed run ≠ [] := by
  unfold squeezed
  split
  · simp
  · exact some_

theorem sameKind_squeezed {run : List Char} (some_ : run ≠ []) (even : IsEven run) :
    ∀ c ∈ squeezed run, ∀ d ∈ run, sameKind c d = true := by
  intro c inside d member
  rcases even with space | other
  · rw [squeezed_of_space space, List.mem_singleton] at inside
    simp [sameKind, inside, isMarkupSpace_mark, space d member]
  · rw [squeezed_of_other some_ other] at inside
    simp [sameKind, other c inside, other d member]

/-- The runs of a collapsed text are, in order, those of the text: each run of space is one
character, and all others are what they were. -/
theorem runs_collapse (cs : List Char) : runs (collapse cs) = (runs cs).map squeezed := by
  have nonempty : ∀ run ∈ runs cs, run ≠ [] := fun _ => List.ne_nil_of_mem_splitBy
  refine runs_eq_iff.mpr ⟨collapse_eq cs, ?_, ?_, ?_⟩
  · intro member
    obtain ⟨run, inside, none⟩ := List.mem_map.mp member
    exact squeezed_ne_nil (nonempty run inside) none
  · intro run member
    obtain ⟨run, inside, rfl⟩ := List.mem_map.mp member
    unfold squeezed
    split
    · exact List.isChain_singleton _
    · exact List.isChain_of_mem_splitBy inside
  · refine (List.isChain_map squeezed).mpr ((alternate_runs cs).imp_of_mem_imp ?_)
    rintro run next member member' ⟨some_, other, differ⟩
    refine ⟨squeezed_ne_nil some_, squeezed_ne_nil other, ?_⟩
    have last := sameKind_squeezed some_ (isEven_of_mem_runs member) _
      (List.getLast_mem (squeezed_ne_nil some_)) _ (List.getLast_mem some_)
    have first := sameKind_squeezed other (isEven_of_mem_runs member') _
      (List.head_mem (squeezed_ne_nil other)) _ (List.head_mem other)
    simp only [sameKind, beq_iff_eq] at last first
    rw [sameKind, last, first]
    exact differ

/-- What is left of the space is newlines and single spaces. -/
theorem eq_mark_of_mem_collapse {cs : List Char} {c : Char} (member : c ∈ collapse cs)
    (space : isMarkupSpace c = true) : c = ' ' ∨ c = '\n' := by
  rw [collapse_eq] at member
  obtain ⟨_, made, member⟩ := List.mem_flatten.mp member
  obtain ⟨run, inside, rfl⟩ := List.mem_map.mp made
  rcases isEven_of_mem_runs inside with blank | other
  · rw [squeezed_of_space blank, List.mem_singleton] at member
    rw [member, mark]
    split
    · exact .inr rfl
    · exact .inl rfl
  · rw [squeezed_of_other (List.ne_nil_of_mem_splitBy inside) other] at member
    rw [other c member] at space
    cases space

theorem isChain_collapse (cs : List Char) :
    (collapse cs).IsChain fun c d => ¬ (isMarkupSpace c = true ∧ isMarkupSpace d = true) := by
  obtain ⟨joined, nonempty, _, alternate⟩ := runs_eq_iff.mp (runs_collapse cs)
  rw [joined, List.isChain_flatten nonempty]
  constructor
  · intro run member
    obtain ⟨run, inside, rfl⟩ := List.mem_map.mp member
    rcases isEven_of_mem_runs inside with space | other
    · rw [squeezed_of_space space]
      exact List.isChain_singleton _
    · rw [squeezed_of_other (List.ne_nil_of_mem_splitBy inside) other]
      refine (List.pairwise_of_forall_mem_list fun c first d _ => ?_).isChain
      simp [other c first]
  · refine alternate.imp ?_
    rintro run next ⟨some_, other, differ⟩ c last d first ⟨space, space'⟩
    rw [List.getLast_of_mem_getLast? last, List.head_of_mem_head? first] at differ
    simp [sameKind, space, space'] at differ

/-- No character is lost but space. -/
theorem filter_collapse (cs : List Char) :
    (collapse cs).filter (fun c => !isMarkupSpace c) = cs.filter fun c => !isMarkupSpace c := by
  have joined : (runs cs).flatten = cs := List.flatten_splitBy sameKind cs
  have each : ∀ run ∈ runs cs, (squeezed run).filter (fun c => !isMarkupSpace c) =
      run.filter fun c => !isMarkupSpace c := by
    intro run inside
    rcases isEven_of_mem_runs inside with space | other
    · have none : run.filter (fun c => !isMarkupSpace c) = [] := by simpa using space
      simp [squeezed_of_space space, isMarkupSpace_mark, none]
    · rw [squeezed_of_other (List.ne_nil_of_mem_splitBy inside) other]
  calc (collapse cs).filter (fun c => !isMarkupSpace c)
    _ = ((runs cs).map fun run => (squeezed run).filter fun c => !isMarkupSpace c).flatten := by
      rw [collapse_eq, List.filter_flatten, List.map_map]
      rfl
    _ = ((runs cs).map fun run => run.filter fun c => !isMarkupSpace c).flatten := by
      rw [List.map_congr_left each]
    _ = cs.filter fun c => !isMarkupSpace c := by
      rw [← List.filter_flatten, joined]

section Context

def joinMarks (p : Option Char) : Option Char → Option Char
  | none => p
  | some c => some (runMark c p)

variable {p q : Option Char}

theorem runMark_eq (c : Char) (p : Option Char) :
    runMark c p = if p = some '\n' ∨ c = '\n' then '\n' else ' ' := by
  unfold runMark
  split
  · simp
  · next other =>
    have notLine : p ≠ some '\n' := other
    simp [notLine]

theorem runMark_runMark (c : Char) (p q : Option Char) :
    runMark (runMark c q) p = runMark c (joinMarks p q) := by
  cases q with
  | none => by_cases line : c = '\n' <;> simp [joinMarks, runMark_eq, line]
  | some d =>
    by_cases line : c = '\n' <;> by_cases line' : d = '\n' <;> by_cases start : p = some '\n' <;>
      simp [joinMarks, runMark_eq, line, line', start]

theorem isMarkupSpace_runMark (c : Char) (p : Option Char) :
    isMarkupSpace (runMark c p) = true := by
  rw [runMark_eq]
  split <;> rfl

theorem collapseFrom_collapseFrom (marks : ∀ c ∈ q, isMarkupSpace c = true) (cs rest : List Char) :
    collapseFrom p (collapseFrom q cs ++ rest) = collapseFrom (joinMarks p q) (cs ++ rest) := by
  have pending : ∀ {p q : Option Char} (ds : List Char), (∀ c ∈ q, isMarkupSpace c = true) →
      collapseFrom p (q.toList ++ ds) = collapseFrom (joinMarks p q) ds := by
    intro p q ds marks
    cases q with
    | none => rfl
    | some c =>
      have space : isMarkupSpace c = true := marks c rfl
      simp [collapseFrom, space, joinMarks]
  induction cs generalizing p q with
  | nil => exact pending rest marks
  | cons c cs ih =>
    by_cases space : isMarkupSpace c = true
    · have more : ∀ d ∈ some (runMark c q), isMarkupSpace d = true := by
        simp [isMarkupSpace_runMark]
      rw [List.cons_append, collapseFrom, if_pos space, collapseFrom, if_pos space, ih more,
        joinMarks, runMark_runMark]
    · have later := ih (p := none) (q := none) (by simp)
      rw [joinMarks] at later
      rw [List.cons_append, collapseFrom, if_neg space, List.append_assoc, pending _ marks]
      simp only [List.cons_append, collapseFrom, if_neg space, later]

theorem collapseFrom_append_congr {xs ys : List Char}
    (same : ∀ p, collapseFrom p xs = collapseFrom p ys) (cs : List Char) (p : Option Char) :
    collapseFrom p (cs ++ xs) = collapseFrom p (cs ++ ys) := by
  induction cs generalizing p with
  | nil => exact same p
  | cons c cs ih => simp only [List.cons_append, collapseFrom, ih]

end Context

/-- Whatever stands around them, both texts are collapsed to the same. -/
def Interchangeable (xs ys : List Char) : Prop :=
  ∀ p rest, collapseFrom p (xs ++ rest) = collapseFrom p (ys ++ rest)

namespace Interchangeable

variable {xs ys xs' ys' : List Char}

theorem refl (xs : List Char) : Interchangeable xs xs := fun _ _ => rfl

theorem collapse (cs : List Char) : Interchangeable cs (collapse cs) := by
  intro p rest
  have none : ∀ c ∈ (none : Option Char), isMarkupSpace c = true := by simp
  exact (collapseFrom_collapseFrom none cs rest).symm

theorem append (first : Interchangeable xs ys) (second : Interchangeable xs' ys') :
    Interchangeable (xs ++ xs') (ys ++ ys') := by
  intro p rest
  rw [List.append_assoc, List.append_assoc, first]
  exact collapseFrom_append_congr (fun p => second p rest) ys p

theorem collapse_eq (same : Interchangeable xs ys) : Text.collapse xs = Text.collapse ys := by
  have alone := same none []
  rw [List.append_nil, List.append_nil] at alone
  exact alone

end Interchangeable

theorem collapse_collapse (cs : List Char) : collapse (collapse cs) = collapse cs :=
  (Interchangeable.collapse cs).collapse_eq.symm

end TreeQuery.Text
