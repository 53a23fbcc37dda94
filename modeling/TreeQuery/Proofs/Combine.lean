import TreeQuery.Call
import TreeQuery.Proofs.Evaluation

/-! What the combinators make of the results they are given. All three of them see the present
results only, in order. -/

namespace TreeQuery.Combine

variable {xs ys : List Value} {choose : List Value → Except Fault Value}

/-- Lists of the same values in order, but for nothings put in anywhere. -/
inductive SameButNothings : List Value → List Value → Prop
  | nil : SameButNothings [] []
  | both {xs ys : List Value} (v : Value) (later : SameButNothings xs ys) :
      SameButNothings (v :: xs) (v :: ys)
  | left {xs ys : List Value} (later : SameButNothings xs ys) : SameButNothings (.null :: xs) ys
  | right {xs ys : List Value} (later : SameButNothings xs ys) : SameButNothings xs (.null :: ys)

@[simp]
theorem isPresent_iff {v : Value} : isPresent v = true ↔ v ≠ .null := by simp [isPresent]

theorem allPresent_cons (v : Value) (xs : List Value) :
    allPresent (v :: xs) = allPresent [v] ++ allPresent xs := by
  by_cases present : isPresent v = true <;> simp [allPresent, present]

theorem SameButNothings.allPresent_eq (same : SameButNothings xs ys) :
    allPresent xs = allPresent ys := by
  induction same with
  | nil => rfl
  | both v _ ih => rw [allPresent_cons, ih, ← allPresent_cons]
  | left _ ih => exact ih
  | right _ ih => exact ih

theorem null_notMem_allPresent (xs : List Value) : .null ∉ allPresent xs := by
  intro member
  exact isPresent_iff.mp (List.mem_filter.mp member).2 rfl

theorem mem_of_mem_allPresent {v : Value} (member : v ∈ allPresent xs) : v ∈ xs :=
  List.mem_of_mem_filter member

theorem count_allPresent {v : Value} (present : v ≠ .null) :
    (allPresent xs).count v = xs.count v :=
  List.count_filter (isPresent_iff.mpr present)

theorem firstPresent_eq (xs : List Value) :
    firstPresent xs = (allPresent xs).head?.getD .null := by
  rw [firstPresent, allPresent, List.head?_filter]

theorem choosePresent_of_nil (none : allPresent xs = []) : choosePresent choose xs = .ok .null := by
  rw [choosePresent, none]

theorem choosePresent_of_ne_nil (some_ : allPresent xs ≠ []) :
    choosePresent choose xs = choose (allPresent xs) := by
  unfold choosePresent
  split
  · next none => exact absurd none some_
  · rfl

/-- The results enter a choice by what is present of them. -/
theorem choosePresent_congr (same : allPresent xs = allPresent ys) :
    choosePresent choose xs = choosePresent choose ys := by
  rw [choosePresent, choosePresent, same]

section Calls

open TreeQuery.Function in
/-- A function that collects its arguments takes them all. -/
theorem accept_collecting {names : List String} {named : Keywords} {filled : List (Option Value)}
    (accepted : fill named (Signature.omissible names) [] = .ok filled)
    (known : ∀ given ∈ named, (Signature.omissible names).any (·.name == given.1)) :
    (Signature.collecting names).accept xs named = .ok ⟨filled, xs, []⟩ := by
  have extra : (named.filter fun given =>
      !(Signature.omissible names).any (·.name == given.1)) = [] := by
    rw [List.filter_eq_nil_iff]
    intro given member
    simp [known given member]
  have none : fill named [] [] = .ok [] := rfl
  simp [Signature.accept, Signature.collecting, none, accepted, extra, bind, Except.bind, pure,
    Except.pure]

theorem exec_firstPresent (xs : List Value) (s : Session) :
    (Eval.call (.function .firstPresent) xs []).exec s =
      (.ok ((allPresent xs).head?.getD .null), s) := by
  have accepted : Function.firstPresent.signature.accept xs [] = .ok ⟨[], xs, []⟩ :=
    accept_collecting rfl (by simp)
  rw [← firstPresent_eq, Eval.call, Eval.callDepth, Eval.callWithin, Function.apply, accepted]
  rfl

theorem exec_allPresent (xs : List Value) (s : Session) :
    (Eval.call (.function .allPresent) xs []).exec s = (Eval.newList (allPresent xs)).exec s := by
  have accepted : Function.allPresent.signature.accept xs [] = .ok ⟨[], xs, []⟩ :=
    accept_collecting rfl (by simp)
  rw [Eval.call, Eval.callDepth, Eval.callWithin, Function.apply, accepted]
  rfl

theorem exec_choosePresent (xs : List Value) {rng : Value} {s : Session}
    (truthy : s.store.truthy rng = true) :
    (Eval.call (.function .choosePresent) xs [("rng", rng)]).exec s =
      (choosePresent (chooserOf s.store rng) xs, s) := by
  have accepted : Function.choosePresent.signature.accept xs [("rng", rng)] =
      .ok ⟨[some rng], xs, []⟩ :=
    accept_collecting rfl (by simp [Function.Signature.omissible])
  have chosen : (Eval.choose rng xs).exec s = (choosePresent (chooserOf s.store rng) xs, s) := by
    rw [Eval.choose, Eval.exec_bind_ok (Eval.exec_getStore s), if_pos truthy]
    exact Eval.exec_lift _ s
  rw [Eval.call, Eval.callDepth, Eval.callWithin, Function.apply, accepted]
  exact chosen

end Calls

/-- Two lists of results give the same in each of the three ways, with any chooser that is given. -/
structure Agree (s : Session) (xs ys : List Value) : Prop where
  first : (Eval.call (.function .firstPresent) xs []).exec s =
    (Eval.call (.function .firstPresent) ys []).exec s
  all : (Eval.call (.function .allPresent) xs []).exec s =
    (Eval.call (.function .allPresent) ys []).exec s
  chosen (rng : Value) : s.store.truthy rng →
    (Eval.call (.function .choosePresent) xs [("rng", rng)]).exec s =
      (Eval.call (.function .choosePresent) ys [("rng", rng)]).exec s
  choice (choose : List Value → Except Fault Value) :
    choosePresent choose xs = choosePresent choose ys

/-- The values of a list without the nothings: in order, as many of each, and falsy ones too. -/
structure Keeps (present xs : List Value) : Prop where
  order : present.Sublist xs
  absent : .null ∉ present
  count {v : Value} : v ≠ .null → present.count v = xs.count v

def Chooses (choose : List Value → Except Fault Value) : Prop :=
  ∀ vs ≠ [], ∃ v ∈ vs, choose vs = .ok v

/-- What a chooser comes to: nothing without being asked if no result is present, and otherwise
what it takes of the present ones. -/
structure Chosen (choose : List Value → Except Fault Value) (xs : List Value) : Prop where
  nothing : allPresent xs = [] → choosePresent choose xs = .ok .null
  present : allPresent xs ≠ [] → choosePresent choose xs = choose (allPresent xs)
  null_iff : choose (allPresent xs) ≠ .ok .null →
    (choosePresent choose xs = .ok .null ↔ allPresent xs = [])
  member : Chooses choose → ∃ v, choosePresent choose xs = .ok v ∧
    (v = .null ↔ allPresent xs = []) ∧ (v ≠ .null → v ∈ xs)

theorem SameButNothings.agree (same : SameButNothings xs ys) (s : Session) : Agree s xs ys where
  first := by rw [exec_firstPresent, exec_firstPresent, same.allPresent_eq]
  all := by rw [exec_allPresent, exec_allPresent, same.allPresent_eq]
  chosen rng truthy := by
    rw [exec_choosePresent xs truthy, exec_choosePresent ys truthy,
      choosePresent_congr same.allPresent_eq]
  choice choose := choosePresent_congr same.allPresent_eq

theorem keeps_allPresent (xs : List Value) : Keeps (allPresent xs) xs where
  order := List.filter_sublist
  absent := null_notMem_allPresent xs
  count := count_allPresent

theorem chosen (choose : List Value → Except Fault Value) (xs : List Value) : Chosen choose xs where
  nothing := choosePresent_of_nil
  present := choosePresent_of_ne_nil
  null_iff other := by
    constructor
    · intro null
      by_contra some_
      exact other ((choosePresent_of_ne_nil some_).symm.trans null)
    · exact choosePresent_of_nil
  member chooses := by
    by_cases empty : allPresent xs = []
    · exact ⟨.null, choosePresent_of_nil empty, by simp [empty], fun other => absurd rfl other⟩
    · obtain ⟨v, member, chosen⟩ := chooses _ empty
      have present : v ≠ .null := by
        rintro rfl
        exact null_notMem_allPresent xs member
      exact ⟨v, (choosePresent_of_ne_nil empty).trans chosen, by simp [present, empty],
        fun _ => mem_of_mem_allPresent member⟩

/-- The combinators see what is present of their arguments, and nothings put in or taken out change
none of them. All present results are the arguments that are not nothing; the first result is the
first of these; and a choice is made among them. -/
theorem combinators_see_present_results (same : SameButNothings xs ys) (s : Session) :
    Agree s xs ys ∧ Keeps (allPresent xs) xs ∧
    (Eval.call (.function .allPresent) xs []).exec s = (Eval.newList (allPresent xs)).exec s ∧
    (Eval.call (.function .firstPresent) xs []).exec s =
      (.ok ((allPresent xs).head?.getD .null), s) ∧
    (∀ rng, s.store.truthy rng →
      (Eval.call (.function .choosePresent) xs [("rng", rng)]).exec s =
        (choosePresent (chooserOf s.store rng) xs, s)) ∧
    ∀ choose, Chosen choose xs :=
  ⟨same.agree s, keeps_allPresent xs, exec_allPresent xs s, exec_firstPresent xs s,
    fun _ truthy => exec_choosePresent xs truthy, fun choose => chosen choose xs⟩

theorem falsy_results_are_present :
    SameButNothings [.null, .int 0, .text "", .int 0] [.int 0, .null, .null, .text "", .int 0] ∧
    allPresent [.null, .int 0, .text "", .int 0] = [.int 0, .text "", .int 0] ∧
    (Eval.call (.function .choosePresent) [.int 0, .null, .null, .text "", .int 0]
      [("rng", .ref 0)]).exec { store := { objects := #[.chooser 4] } } =
        (.ok (.text ""), { store := { objects := #[.chooser 4] } }) := by
  have same : SameButNothings [.null, .int 0, .text "", .int 0]
      [.int 0, .null, .null, .text "", .int 0] :=
    .left (.both _ (.right (.right (.both _ (.both _ .nil)))))
  obtain ⟨agree, _, _, _, chosen, _⟩ :=
    combinators_see_present_results same { store := { objects := #[.chooser 4] } }
  exact ⟨same, rfl, (agree.chosen (.ref 0) rfl).symm.trans (chosen (.ref 0) rfl)⟩

end TreeQuery.Combine
