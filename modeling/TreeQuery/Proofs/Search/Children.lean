import TreeQuery.Proofs.Search.Scan
import TreeQuery.Proofs.Tree.Formed

namespace TreeQuery.Store

open Relation

def HasTag (st : Store) (tag : String) (a : Addr) : Prop :=
  ∃ n, st.node? (.ref a) = some n ∧ n.tag = tag

def HasAttr (st : Store) (name wanted : String) (a : Addr) : Prop :=
  ∃ n text, st.node? (.ref a) = some n ∧
    under? (st.attrEntries n.attrs) name = some (.text text) ∧ Text.trim text = wanted

def Tells (st : Store) (a : Addr) (test : Criterion) (meets : Addr → Prop) : Prop :=
  ∀ b n, ReflTransGen st.Parent a b → st.node? (.ref b) = some n →
    ∃ met : Bool, test (st.viewOf b n) = .ok met ∧ (met ↔ meets b)

def ChildAt (st : Store) (a : Addr) (i : Nat) (b : Addr) : Prop :=
  ∃ n, st.node? (.ref a) = some n ∧ (st.childrenOf n)[i]? = some (.ref b) ∧ st.isNode (.ref b)

/-- The child node at the least index that has a property. -/
def FirstChild (st : Store) (meets : Addr → Prop) (a : Addr) (i : Nat) (b : Addr) : Prop :=
  st.ChildAt a i b ∧ meets b ∧ ∀ j c, j < i → st.ChildAt a j c → ¬ meets c

variable {st : Store} {a b : Addr} {n : Node} {test : Criterion} {meets : Addr → Prop} {i : Nat}

theorem parent_iff_childAt : st.Parent a b ↔ ∃ i, st.ChildAt a i b := by
  constructor
  · rintro ⟨n, node, member, isNode⟩
    obtain ⟨i, at_⟩ := List.mem_iff_getElem?.mp member
    exact ⟨i, n, node, at_, isNode⟩
  · rintro ⟨i, n, node, at_, isNode⟩
    exact ⟨n, node, List.mem_of_getElem? at_, isNode⟩

theorem ChildAt.unique {c : Addr} (first : st.ChildAt a i b) (second : st.ChildAt a i c) :
    b = c := by
  obtain ⟨n, node, at_, _⟩ := first
  obtain ⟨n', node', at_', _⟩ := second
  cases node.symm.trans node'
  simpa using at_.symm.trans at_'

theorem FirstChild.unique {j : Nat} {c : Addr} (first : st.FirstChild meets a i b)
    (second : st.FirstChild meets a j c) : i = j ∧ b = c := by
  obtain ⟨child, met, least⟩ := first
  obtain ⟨child', met', least'⟩ := second
  have notBefore : ¬ i < j := fun lt => least' i b lt child met
  have notBehind : ¬ j < i := fun lt => least j c lt child' met'
  have same : i = j := by omega
  subst same
  exact ⟨rfl, child.unique child'⟩

theorem exists_firstChild (child : st.ChildAt a i b) (met : meets b) :
    ∃ j c, st.FirstChild meets a j c := by
  classical
  have some_ : ∃ j c, st.ChildAt a j c ∧ meets c := ⟨i, b, child, met⟩
  obtain ⟨c, child', met'⟩ := Nat.find_spec some_
  refine ⟨_, c, child', met', ?_⟩
  intro j d lt inside met
  exact Nat.find_min some_ lt ⟨d, inside, met⟩

theorem childNodes_eq {v : Value} (node : st.node? v = some n) :
    st.childNodes v = (st.childrenOf n).filterMap st.view? := by
  simp [childNodes, node]

theorem mem_childNodes (m : NodeView) :
    m ∈ st.childNodes (.ref a) ↔
      ∃ b n, st.Parent a b ∧ st.node? (.ref b) = some n ∧ m = st.viewOf b n := by
  constructor
  · intro member
    rcases node : st.node? (.ref a) with _ | n
    · simp [childNodes, node] at member
    · rw [childNodes_eq node] at member
      obtain ⟨v, inside, view⟩ := List.mem_filterMap.mp member
      cases v with
      | ref b =>
        obtain ⟨k, child, rfl⟩ := Option.map_eq_some_iff.mp view
        exact ⟨b, k, ⟨n, node, inside, by simp [isNode, child]⟩, child, rfl⟩
      | _ => cases view
  · rintro ⟨b, k, ⟨n, node, inside, isNode⟩, child, rfl⟩
    rw [childNodes_eq node]
    exact List.mem_filterMap.mpr ⟨.ref b, inside, view?_of_node child⟩

theorem childTagged_eq {v : Value} (isNode : st.isNode v) (tag : String) :
    st.childTagged (.text tag) v = firstWhere (.tagged tag) (st.childNodes v) := by
  rw [childTagged, if_pos isNode]
  rfl

theorem tells_tagged (st : Store) (a : Addr) (tag : String) :
    st.Tells a (.tagged tag) (st.HasTag tag) := by
  intro b n _ node
  refine ⟨n.tag == tag, rfl, ?_⟩
  constructor
  · intro same
    exact ⟨n, node, eq_of_beq same⟩
  · rintro ⟨m, other, same⟩
    cases node.symm.trans other
    simpa using same

theorem tells_attrIs (formed : st.Formed a) (name wanted : String) :
    st.Tells a (.attrIs st (.text name) (.text wanted)) (st.HasAttr name wanted) := by
  intro b n path node
  have texts := formed.attrs b n path node
  have attrs : (st.viewOf b n).attrs = st.attrEntries n.attrs := rfl
  rw [Criterion.attrIs, Criterion.attrPasses_text, find?_text, attrs]
  rcases present : under? (st.attrEntries n.attrs) name with _ | v
  · refine ⟨false, rfl, ?_⟩
    simp [HasAttr, node, present]
  · have isText := (texts _ (mem_of_under? present)).2
    obtain ⟨text, rfl⟩ := Value.eq_text_of_isText isText
    refine ⟨Value.text (Text.trim text) == .text wanted, rfl, ?_⟩
    simp [HasAttr, node, present]

/-- The children in front of the one at an index are seen first, then this child, then those
behind it. Texts are not seen. -/
theorem childNodes_split {k : Node} (node : st.node? (.ref a) = some n)
    (at_ : (st.childrenOf n)[i]? = some (.ref b)) (inner : st.node? (.ref b) = some k) :
    st.childNodes (.ref a) = ((st.childrenOf n).take i).filterMap st.view? ++
      st.viewOf b k :: ((st.childrenOf n).drop (i + 1)).filterMap st.view? := by
  obtain ⟨inside, same⟩ := List.getElem?_eq_some_iff.mp at_
  have view := view?_of_node inner
  calc st.childNodes (.ref a) = (st.childrenOf n).filterMap st.view? := childNodes_eq node
    _ = ((st.childrenOf n).take i ++ (st.childrenOf n).drop i).filterMap st.view? := by
      rw [List.take_append_drop]
    _ = _ := by
      rw [List.filterMap_append, List.drop_eq_getElem_cons inside, same,
        List.filterMap_cons_some view]

theorem mem_views_take {m : NodeView} (node : st.node? (.ref a) = some n)
    (member : m ∈ ((st.childrenOf n).take i).filterMap st.view?) :
    ∃ j c k, j < i ∧ st.ChildAt a j c ∧ st.node? (.ref c) = some k ∧ m = st.viewOf c k := by
  obtain ⟨v, before, view⟩ := List.mem_filterMap.mp member
  obtain ⟨j, lt, here⟩ := List.mem_take_iff_getElem.mp before
  cases v with
  | ref c =>
    obtain ⟨k, other, rfl⟩ := Option.map_eq_some_iff.mp view
    have isNode : st.isNode (.ref c) := by simp [Store.isNode, other]
    have at_ : (st.childrenOf n)[j]? = some (.ref c) :=
      List.getElem?_eq_some_iff.mpr ⟨by omega, here⟩
    exact ⟨j, c, k, by omega, ⟨n, node, at_, isNode⟩, other, rfl⟩
  | _ => cases view

namespace Tells

variable (tells : st.Tells a test meets)
include tells

theorem ok_true_iff (path : ReflTransGen st.Parent a b) (node : st.node? (.ref b) = some n) :
    test (st.viewOf b n) = .ok true ↔ meets b := by
  obtain ⟨met, told, holds⟩ := tells b n path node
  rw [told, ← holds, Except.ok.injEq]

theorem ok_false_iff (path : ReflTransGen st.Parent a b) (node : st.node? (.ref b) = some n) :
    test (st.viewOf b n) = .ok false ↔ ¬ meets b := by
  obtain ⟨met, told, holds⟩ := tells b n path node
  rw [told, ← holds, Except.ok.injEq, Bool.not_eq_true]

theorem absent_iff :
    firstWhere test (st.childNodes (.ref a)) = .ok none ↔ ∀ b, st.Parent a b → ¬ meets b := by
  rw [(scans_firstWhere _).absent]
  constructor
  · intro all b edge
    obtain ⟨n, node⟩ := node?_of_isNode (isNode_of_parent edge)
    have refused := all _ ((mem_childNodes _).mpr ⟨b, n, edge, node, rfl⟩)
    exact (tells.ok_false_iff (.single edge) node).mp refused
  · intro none m member
    obtain ⟨b, n, edge, node, rfl⟩ := (mem_childNodes m).mp member
    exact (tells.ok_false_iff (.single edge) node).mpr (none b edge)

theorem found_of_firstChild (first : st.FirstChild meets a i b) :
    ∃ k, st.node? (.ref b) = some k ∧
      firstWhere test (st.childNodes (.ref a)) = .ok (some (st.viewOf b k)) := by
  obtain ⟨child, met, least⟩ := first
  have edge := parent_iff_childAt.mpr ⟨i, child⟩
  obtain ⟨n, node, at_, isNode⟩ := child
  obtain ⟨k, inner⟩ := node?_of_isNode isNode
  have yes := (tells.ok_true_iff (.single edge) inner).mpr met
  have passed : ∀ m ∈ ((st.childrenOf n).take i).filterMap st.view?, test m = .ok false := by
    intro m member
    obtain ⟨j, c, l, lt, sibling, other, rfl⟩ := mem_views_take node member
    have edge' := parent_iff_childAt.mpr ⟨j, sibling⟩
    exact (tells.ok_false_iff (.single edge') other).mpr (least j c lt sibling)
  refine ⟨k, inner, ?_⟩
  rw [childNodes_split node at_ inner, firstWhere_stop _ passed (by simp [yes]), yes]
  rfl

/-- The search among the children of a node finds the first child node with the property, or
nothing if there is none. -/
theorem among_children :
    (∃ i b k, st.FirstChild meets a i b ∧ st.node? (.ref b) = some k ∧
      firstWhere test (st.childNodes (.ref a)) = .ok (some (st.viewOf b k))) ∨
    ((∀ b, st.Parent a b → ¬ meets b) ∧
      firstWhere test (st.childNodes (.ref a)) = .ok none) := by
  by_cases some_ : ∃ b, st.Parent a b ∧ meets b
  · obtain ⟨b, edge, met⟩ := some_
    obtain ⟨i, child⟩ := parent_iff_childAt.mp edge
    obtain ⟨j, c, first⟩ := exists_firstChild child met
    obtain ⟨k, node, found⟩ := tells.found_of_firstChild first
    exact .inl ⟨j, c, k, first, node, found⟩
  · have none : ∀ b, st.Parent a b → ¬ meets b := fun b edge met => some_ ⟨b, edge, met⟩
    exact .inr ⟨none, tells.absent_iff.mpr none⟩

end Tells

end TreeQuery.Store
