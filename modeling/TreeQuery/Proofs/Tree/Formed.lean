import TreeQuery.Proofs.Node.Sound
import TreeQuery.Proofs.Tree.Acyclic

namespace TreeQuery.Store

open Relation

/-- At the address is a node with a well-formed tree below it. -/
structure Formed (st : Store) (root : Addr) : Prop where
  isNode : st.isNode (.ref root)
  acyclic : st.Acyclic root
  attrs (a : Addr) (n : Node) : ReflTransGen st.Parent root a → st.node? (.ref a) = some n →
    ∀ e ∈ st.attrEntries n.attrs, e.1.isText ∧ e.2.isText
  children (a : Addr) (n : Node) : ReflTransGen st.Parent root a →
    st.node? (.ref a) = some n → ∀ v ∈ st.childrenOf n, st.isChild v

variable {st : Store} {a b : Addr} {n : Node}

theorem isNode_below (isNode : st.isNode (.ref a)) (path : ReflTransGen st.Parent a b) :
    st.isNode (.ref b) := by
  rcases path.cases_tail with rfl | ⟨c, _, edge⟩
  · exact isNode
  · exact isNode_of_parent edge

namespace Formed

variable (formed : st.Formed a)
include formed

theorem below (path : ReflTransGen st.Parent a b) : st.Formed b where
  isNode := isNode_below formed.isNode path
  acyclic _ further := formed.acyclic _ (path.trans further)
  attrs _ _ further := formed.attrs _ _ (path.trans further)
  children _ _ further := formed.children _ _ (path.trans further)

theorem exists_node : ∃ n, st.node? (.ref a) = some n :=
  node?_of_isNode formed.isNode

theorem exists_tree : ∃ t, st.tree (.ref a) = .ok t := by
  obtain ⟨n, node⟩ := formed.exists_node
  exact Store.exists_tree formed.acyclic node

end Formed

section Drained

variable {st' : Store} (drains : st.Drains st')
include drains

theorem Drains.childrenOf (n : Node) : st'.childrenOf n = st.childrenOf n := by
  unfold Store.childrenOf members
  rcases drains.2.2 n.children with same | ⟨xs, ys, before, after, _⟩
  · rw [same]
  · simp only [before, after]

theorem Drains.attrEntries (a : Addr) : st'.attrEntries a = st.attrEntries a := by
  have entries : ∀ a, st'.entries a = st.entries a := by
    intro a
    unfold Store.entries
    rcases drains.2.2 a with same | ⟨xs, ys, before, after, _⟩
    · rw [same]
    · simp only [before, after]
  unfold Store.attrEntries
  rcases drains.2.2 a with same | ⟨xs, ys, before, after, _⟩
  · simp only [same, entries]
  · simp only [before, after, entries]

theorem Drains.parent : st'.Parent = st.Parent := by
  have nodes := drains.sameNodes
  funext a b
  simp only [Parent, nodes.node?, nodes.isNode, drains.childrenOf]

theorem Drains.formed (formed : st.Formed a) : st'.Formed a := by
  have nodes := drains.sameNodes
  constructor
  · rw [nodes.isNode]
    exact formed.isNode
  · intro b path
    rw [drains.parent] at path ⊢
    exact formed.acyclic b path
  · intro b n path node
    rw [drains.parent] at path
    rw [nodes.node?] at node
    rw [drains.attrEntries]
    exact formed.attrs b n path node
  · intro b n path node v member
    rw [drains.parent] at path
    rw [nodes.node?] at node
    rw [drains.childrenOf] at member
    rw [nodes.isChild]
    exact formed.children b n path node v member

end Drained

def isEarlier (a : Addr) : Value → Bool
  | .ref b => b < a
  | _ => true

theorem formed_of_earlier {root : Addr} (isNode : st.isNode (.ref root))
    (fine : ∀ a < st.size, ∀ n ∈ st.node? (.ref a),
      (∀ e ∈ st.attrEntries n.attrs, e.1.isText ∧ e.2.isText) ∧
        ∀ v ∈ st.childrenOf n, st.isChild v ∧ isEarlier a v) : st.Formed root where
  isNode := isNode
  acyclic := by
    refine acyclic_of_measure id ?_ root
    intro a b edge
    have inside := lt_of_parent a b edge
    obtain ⟨n, node, child, _⟩ := edge
    simpa [isEarlier] using ((fine a inside n node).2 _ child).2
  attrs a n _ node := (fine a (lt_of_node? node) n node).1
  children a n _ node v child := ((fine a (lt_of_node? node) n node).2 v child).1

def branching : Store where
  objects := #[.list [], .dict [(.text "id", .text "k")], .node ⟨"c", 1, 0⟩,
    .list [.ref 2], .dict [(.text "class", .text " x ")], .node ⟨"b", 4, 3⟩,
    .list [.text "u"], .dict [], .node ⟨"d", 7, 6⟩,
    .list [.ref 8], .dict [(.text "class", .text "x")], .node ⟨"b", 10, 9⟩,
    .list [.text "t", .ref 5, .ref 11], .dict [], .node ⟨"a", 13, 12⟩]

theorem formed_branching : branching.Formed 14 :=
  formed_of_earlier rfl (by decide)

end TreeQuery.Store
