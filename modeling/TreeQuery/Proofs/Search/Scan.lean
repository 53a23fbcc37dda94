import TreeQuery.Proofs.Evaluation
import TreeQuery.Proofs.Store.TextKeys
import TreeQuery.Proofs.Tree.Acyclic
import TreeQuery.Search.Descendants
import Mathlib.Tactic.IntervalCases

/-! Searches through a tree, as scans of its nodes in order. A scan stops at the first node that
decides it: one that meets the criterion, or one that cannot be asked. -/

namespace TreeQuery

/-- A search goes over nodes in order and stops at the first that decides it. -/
structure Scans (search : Criterion → Except Fault (Option NodeView)) (ns : List NodeView) :
    Prop where
  absent (test : Criterion) : search test = .ok none ↔ ∀ n ∈ ns, test n = .ok false
  found (test : Criterion) (n : NodeView) : search test = .ok (some n) ↔
    ∃ before later, ns = before ++ n :: later ∧ (∀ m ∈ before, test m = .ok false) ∧
      test n = .ok true
  raised (test : Criterion) (fault : Fault) : search test = .error fault ↔
    ∃ before n later, ns = before ++ n :: later ∧ (∀ m ∈ before, test m = .ok false) ∧
      test n = .error fault
  unasked (test other : Criterion) (before later : List NodeView) (n : NodeView) :
    ns = before ++ n :: later → test n ≠ .ok false → (∀ m ∈ before ++ [n], other m = test m) →
      search other = search test

theorem firstWhere_none {test : Criterion} {ns : List NodeView}
    (none : ∀ n ∈ ns, test n = .ok false) : firstWhere test ns = .ok .none := by
  induction ns with
  | nil => rfl
  | cons n ns ih =>
    rw [firstWhere, none n (.head _)]
    exact ih fun m member => none m (.tail _ member)

theorem firstWhere_skip {test : Criterion} {before : List NodeView} (ns : List NodeView)
    (none : ∀ n ∈ before, test n = .ok false) :
    firstWhere test (before ++ ns) = firstWhere test ns := by
  rw [firstWhere_append, firstWhere_none none]
  rfl

theorem firstWhere_stop {test : Criterion} {before : List NodeView} {n : NodeView}
    (later : List NodeView) (none : ∀ m ∈ before, test m = .ok false)
    (decides : test n ≠ .ok false) :
    firstWhere test (before ++ n :: later) = (test n).map fun _ => some n := by
  rw [firstWhere_skip _ none, firstWhere]
  rcases result : test n with fault | met
  · rfl
  · cases met with
    | false => exact absurd result decides
    | true => rfl

theorem firstWhere_cons_eq_some {test : Criterion} {n r : NodeView} {ns : List NodeView} :
    firstWhere test (n :: ns) = .ok (some r) ↔
      test n = .ok true ∧ n = r ∨ test n = .ok false ∧ firstWhere test ns = .ok (some r) := by
  rw [firstWhere, except_bind_eq_ok]
  constructor
  · rintro ⟨met, answer, rest⟩
    cases met with
    | true => exact .inl ⟨answer, by simpa [pure, Except.pure] using rest⟩
    | false => exact .inr ⟨answer, rest⟩
  · rintro (⟨answer, rfl⟩ | ⟨answer, rest⟩)
    · exact ⟨true, answer, rfl⟩
    · exact ⟨false, answer, rest⟩

/-- A node is found in a first part, or in a second one if there is none in the first. -/
theorem firstWhere_append_eq_some {test : Criterion} {r : NodeView} {ns ms : List NodeView} :
    firstWhere test (ns ++ ms) = .ok (some r) ↔
      firstWhere test ns = .ok (some r) ∨
        firstWhere test ns = .ok none ∧ firstWhere test ms = .ok (some r) := by
  rw [firstWhere_append, except_bind_eq_ok]
  constructor
  · rintro ⟨first, answer, rest⟩
    cases first with
    | some n => exact .inl (answer.trans rest)
    | none => exact .inr ⟨answer, rest⟩
  · rintro (answer | ⟨answer, rest⟩)
    · exact ⟨some r, answer, rfl⟩
    · exact ⟨none, answer, rest⟩

/-- Either no node decides a scan, or there is a first that does. -/
theorem exists_first (test : Criterion) (ns : List NodeView) :
    (∀ n ∈ ns, test n = .ok false) ∨ ∃ before n later, ns = before ++ n :: later ∧
      (∀ m ∈ before, test m = .ok false) ∧ test n ≠ .ok false := by
  induction ns with
  | nil => exact .inl fun _ member => nomatch member
  | cons n ns ih =>
    by_cases passed : test n = .ok false
    · rcases ih with none | ⟨before, m, later, rfl, none, decides⟩
      · exact .inl (List.forall_mem_cons.mpr ⟨passed, none⟩)
      · exact .inr ⟨n :: before, m, later, rfl, List.forall_mem_cons.mpr ⟨passed, none⟩, decides⟩
    · exact .inr ⟨[], n, ns, rfl, by simp, passed⟩

theorem scans_firstWhere (ns : List NodeView) : Scans (firstWhere · ns) ns where
  -- A scan comes to what the first node comes to that decides it, if there is one.
  absent test := by
    refine ⟨?_, firstWhere_none⟩
    intro none
    rcases exists_first test ns with all | ⟨before, n, later, rfl, passed, decides⟩
    · exact all
    · rw [firstWhere_stop later passed decides] at none
      cases result : test n <;> simp [result, Except.map] at none
  found test n := by
    constructor
    · intro found
      rcases exists_first test ns with all | ⟨before, m, later, rfl, passed, decides⟩
      · simp [firstWhere_none all] at found
      · rw [firstWhere_stop later passed decides] at found
        rcases result : test m with fault | met
        · simp [result, Except.map] at found
        · have same : m = n := by simpa [result, Except.map] using found
          subst same
          refine ⟨before, later, rfl, passed, ?_⟩
          cases met with
          | false => exact absurd result decides
          | true => exact result
    · rintro ⟨before, later, rfl, passed, met⟩
      rw [firstWhere_stop later passed (by simp [met]), met]
      rfl
  raised test fault := by
    constructor
    · intro raised
      rcases exists_first test ns with all | ⟨before, n, later, rfl, passed, decides⟩
      · simp [firstWhere_none all] at raised
      · refine ⟨before, n, later, rfl, passed, ?_⟩
        rw [firstWhere_stop later passed decides] at raised
        rcases result : test n with other | met
        · rw [result] at raised
          cases raised
          rfl
        · simp [result, Except.map] at raised
    · rintro ⟨before, n, later, rfl, passed, stopped⟩
      rw [firstWhere_stop later passed (by simp [stopped]), stopped]
      rfl
  unasked test other before later n := by
    rintro rfl decides same
    rcases exists_first test (before ++ [n]) with all | ⟨before', m, later', split, passed, stops⟩
    · exact absurd (all n (by simp)) decides
    · rw [split] at same
      have whole : before ++ n :: later = before' ++ m :: (later' ++ later) := by
        simpa using congrArg (· ++ later) split
      have passed' : ∀ k ∈ before', other k = .ok false := fun k member =>
        (same k (by simp [member])).trans (passed k member)
      have here : other m = test m := same m (by simp)
      rw [whole, firstWhere_stop _ passed stops, firstWhere_stop _ passed' (here ▸ stops), here]

theorem Tree.first_eq_firstWhere (test : Criterion) (t : Tree) :
    t.first test = firstWhere test t.preorder := by
  unfold Tree.first
  simp only [Forest.first_eq_firstWhere]
  rfl

namespace Store

variable {st : Store} {v : Value} {t : Tree}

theorem firstTagged_eq (tree : st.tree v = .ok t) (tag : String) :
    st.firstTagged (.text tag) v = firstWhere (.tagged tag) t.preorder := by
  rw [firstTagged, wantedTag, tree]
  exact t.first_eq_firstWhere (.tagged tag)

theorem firstWithAttr_eq (tree : st.tree v = .ok t) (name wanted : Value) :
    st.firstWithAttr name wanted v = firstWhere (.attrIs st name wanted) t.preorder := by
  rw [firstWithAttr, tree]
  exact t.first_eq_firstWhere _

theorem firstWithMatch_eq (tree : st.tree v = .ok t) (name pattern : Value) :
    st.firstWithMatch name pattern v = firstWhere (.attrMatches st name pattern) t.preorder := by
  rw [firstWithMatch, tree]
  exact t.first_eq_firstWhere _

end Store

namespace Criterion

theorem attrPasses_text (st : Store) (name : String) (test : Value → Except Fault Bool)
    (n : NodeView) :
    attrPasses st (.text name) test n = match st.find? n.attrs (.text name) with
      | none | some .null => .ok false
      | some v => test v := by
  unfold attrPasses
  rw [Store.lookUp_text]
  rcases st.find? n.attrs (.text name) with _ | v
  · rfl
  · cases v <;> rfl

def carries (st : Store) (name : String) (n : NodeView) : Bool :=
  match st.find? n.attrs (.text name) with
  | none | some .null => false
  | some _ => true

/-- A pattern that cannot be compiled is asked for only where the attribute has a value. -/
theorem attrMatches_of_error {st : Store} {pattern : Value} {fault : Fault}
    (bad : Pattern.ofValue st pattern = .error fault) (name : String) (n : NodeView) :
    attrMatches st (.text name) pattern n =
      if carries st name n then .error fault else .ok false := by
  have stops : ∀ v, st.occurs pattern v = .error fault := fun v => by
    rw [Store.occurs, bad]
    rfl
  unfold attrMatches carries
  rw [attrPasses_text]
  rcases st.find? n.attrs (.text name) with _ | v
  · rfl
  · cases v <;> simp [stops]

end Criterion

/-- Through the tree under a node all searches scan the same nodes in order: the node itself, and
then, for each child that is a node, those of the child's own tree. A pattern that cannot be
compiled is a fault exactly if some of them has the attribute. -/
theorem searches_scan_preorder (st : Store) (a : Addr) (n : Node)
    (node : st.node? (.ref a) = some n) (acyclic : st.Acyclic a) :
    ∃ ns search, st.Preorder [.ref a] ns ∧ Scans search ns ∧
      (∀ tag, st.firstTagged (.text tag) (.ref a) = search (.tagged tag)) ∧
      (∀ name wanted, st.firstWithAttr (.text name) wanted (.ref a) =
        search (.attrIs st (.text name) wanted)) ∧
      (∀ name pattern, st.firstWithMatch (.text name) pattern (.ref a) =
        search (.attrMatches st (.text name) pattern)) ∧
      ∀ name pattern fault, Pattern.ofValue st pattern = .error fault →
        (st.firstWithMatch (.text name) pattern (.ref a) = .error fault ↔
          ∃ m ∈ ns, Criterion.carries st name m) := by
  obtain ⟨t, tree⟩ := Store.exists_tree acyclic node
  have scans := scans_firstWhere t.preorder
  refine ⟨_, _, Store.preorder_of_tree tree, scans, Store.firstTagged_eq tree,
    fun name wanted => Store.firstWithAttr_eq tree _ wanted,
    fun name pattern => Store.firstWithMatch_eq tree _ pattern, ?_⟩
  -- A pattern is compiled for a node that has the attribute, and for no other.
  intro name pattern fault bad
  rw [Store.firstWithMatch_eq tree]
  have asked := Criterion.attrMatches_of_error bad name
  constructor
  · intro stopped
    obtain ⟨before, m, later, split, _, here⟩ := (scans.raised _ _).mp stopped
    refine ⟨m, by simp [split], ?_⟩
    by_contra without
    simp [asked, without] at here
  · rintro ⟨m, member, carries⟩
    rcases exists_first (.attrMatches st (.text name) pattern) t.preorder
      with none | ⟨before, k, later, split, passed, decides⟩
    · have none := none m member
      simp [asked, carries] at none
    · refine (scans.raised _ _).mpr ⟨before, k, later, split, passed, ?_⟩
      by_cases here : Criterion.carries st name k
      · simp [asked, here]
      · simp [asked, here] at decides

def mixedTree : Store where
  objects := #[.dict [], .list [.text "t", .ref 5, .int 3], .node ⟨"a", 0, 1⟩,
    .dict [(.text "id", .ref 4)], .list [], .node ⟨"b", 3, 4⟩]

theorem mixedTree_smaller (a b : Addr) (edge : mixedTree.Parent a b) :
    (if b = 2 then 1 else 0) < if a = 2 then 1 else 0 := by
  obtain ⟨n, node, member, _⟩ := edge
  have inside : a < 6 := Store.lt_of_node? node
  interval_cases a <;> cases node
  · have child : b = 5 := by
      simpa [mixedTree, Store.childrenOf, Store.members, Store.read?] using member
    simp [child]
  · simp [mixedTree, Store.childrenOf, Store.members, Store.read?] at member

theorem mixedTree_searches_scan :
    mixedTree.node? (.ref 2) = some ⟨"a", 0, 1⟩ ∧ mixedTree.Acyclic 2 ∧
    ∃ ns search, mixedTree.Preorder [.ref 2] ns ∧ Scans search ns ∧
      (∀ tag, mixedTree.firstTagged (.text tag) (.ref 2) = search (.tagged tag)) ∧
      (∀ name wanted, mixedTree.firstWithAttr (.text name) wanted (.ref 2) =
        search (.attrIs mixedTree (.text name) wanted)) ∧
      (∀ name pattern, mixedTree.firstWithMatch (.text name) pattern (.ref 2) =
        search (.attrMatches mixedTree (.text name) pattern)) ∧
      ∀ name pattern fault, Pattern.ofValue mixedTree pattern = .error fault →
        (mixedTree.firstWithMatch (.text name) pattern (.ref 2) = .error fault ↔
          ∃ m ∈ ns, Criterion.carries mixedTree name m) := by
  have acyclic := Store.acyclic_of_measure _ mixedTree_smaller 2
  exact ⟨rfl, acyclic, searches_scan_preorder mixedTree 2 ⟨"a", 0, 1⟩ rfl acyclic⟩

end TreeQuery
