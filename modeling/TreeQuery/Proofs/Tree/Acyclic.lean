import TreeQuery.Proofs.Store.Growth
import TreeQuery.Proofs.Store.Rank
import TreeQuery.Tree

/-! Nodes below nodes. Under a node from which no node is reached that stands below itself, there
is a tree, whose nodes in order are those that the store gives. -/

namespace TreeQuery.Store

open Relation

def Parent (st : Store) (a b : Addr) : Prop :=
  ∃ n, st.node? (.ref a) = some n ∧ .ref b ∈ st.childrenOf n ∧ st.isNode (.ref b)

/-- No node that is reached from this one is reached from itself again. -/
def Acyclic (st : Store) (a : Addr) : Prop :=
  ∀ b, ReflTransGen st.Parent a b → ¬ TransGen st.Parent b b

variable {st : Store}

theorem acyclic_of_measure (measure : Addr → Nat)
    (smaller : ∀ a b, st.Parent a b → measure b < measure a) (a : Addr) : st.Acyclic a := by
  have below : ∀ b c, TransGen st.Parent b c → measure c < measure b := by
    intro b c path
    induction path with
    | single edge => exact smaller _ _ edge
    | tail _ edge ih => exact (smaller _ _ edge).trans ih
  exact fun b _ cycle => (below b b cycle).false

theorem Acyclic.child {a b : Addr} (acyclic : st.Acyclic a) (edge : st.Parent a b) :
    st.Acyclic b :=
  fun _ path => acyclic _ (.head edge path)

theorem view?_of_node {a : Addr} {n : Node} (node : st.node? (.ref a) = some n) :
    st.view? (.ref a) = some (st.viewOf a n) := by
  simp [view?, node]

theorem view?_eq_none {v : Value} (other : st.node? v = none) : st.view? v = none := by
  cases v with
  | ref a => simp [view?, other]
  | _ => rfl

theorem view?_of_node? {v : Value} {n : Node} (node : st.node? v = some n) :
    ∃ a, v = .ref a ∧ st.view? v = some (st.viewOf a n) := by
  cases v with
  | ref a => exact ⟨a, rfl, view?_of_node node⟩
  | _ => cases node

theorem node?_of_isNode {v : Value} (isNode : st.isNode v) : ∃ n, st.node? v = some n :=
  Option.isSome_iff_exists.mp isNode

theorem lt_of_node? {a : Addr} {n : Node} (node : st.node? (.ref a) = some n) : a < st.size := by
  unfold node? at node
  split at node
  · next object => exact lt_of_read? object
  · cases node

theorem exists_forestBy {below : List Value → Option Forest} {vs : List Value}
    (each : ∀ v ∈ vs, ∀ n, st.node? v = some n → ∃ kids, below (st.childrenOf n) = some kids) :
    ∃ f, st.forestBy below vs = some f := by
  induction vs with
  | nil => exact ⟨.nil, rfl⟩
  | cons v vs ih =>
    obtain ⟨rest, later⟩ := ih fun w member => each w (.tail _ member)
    rcases node : st.node? v with _ | n
    · exact ⟨.leaf v rest, by simp [forestBy, node, later]⟩
    · obtain ⟨a, rfl, view⟩ := view?_of_node? node
      obtain ⟨kids, inner⟩ := each _ (.head _) n node
      exact ⟨.node (st.viewOf a n) kids rest, by simp [forestBy, node, view, inner, later]⟩

theorem lt_of_parent (a b : Addr) (edge : st.Parent a b) : a < st.size := by
  obtain ⟨n, node, _⟩ := edge
  exact lt_of_node? node

theorem isNode_of_parent {a b : Addr} (edge : st.Parent a b) : st.isNode (.ref b) := by
  obtain ⟨_, _, _, inside⟩ := edge
  exact inside

theorem exists_forestWithin {fuel : Nat} {vs : List Value}
    (ranked : ∀ b, .ref b ∈ vs → st.isNode (.ref b) → Ranked st.Parent fuel b) :
    ∃ f, st.forestWithin fuel vs = some f := by
  induction fuel generalizing vs with
  | zero =>
    refine exists_forestBy ?_
    intro v member n node
    obtain ⟨b, rfl, _⟩ := view?_of_node? node
    cases ranked b member (by simp [isNode, node])
  | succ fuel ih =>
    refine exists_forestBy ?_
    intro v member n node
    obtain ⟨b, rfl, _⟩ := view?_of_node? node
    cases ranked b member (by simp [isNode, node]) with
    | step later => exact ih fun c member' isNode => later c ⟨n, node, member', isNode⟩

/-- Under a node without cycles below it stands a tree. -/
theorem exists_tree {a : Addr} {n : Node} (acyclic : st.Acyclic a)
    (node : st.node? (.ref a) = some n) : ∃ t, st.tree (.ref a) = .ok t := by
  have ranked : ∀ b, .ref b ∈ st.childrenOf n → st.isNode (.ref b) →
      Ranked st.Parent st.depth b := by
    intro b member isNode
    have returnless : Returnless st.Parent b := acyclic.child ⟨n, node, member, isNode⟩
    exact returnless.ranked lt_of_parent (Nat.lt_succ_self _)
  obtain ⟨kids, forest⟩ := exists_forestWithin ranked
  exact ⟨⟨st.viewOf a n, kids⟩, by simp [tree, view?, node, forest]⟩

/-- Some children come to a forest: the nodes among them with what is below them, and what is no
node as it is. -/
inductive Unfolds (st : Store) : List Value → Forest → Prop
  | nil : Unfolds st [] .nil
  | leaf {v : Value} {vs : List Value} {rest : Forest} (other : st.node? v = none)
      (later : Unfolds st vs rest) : Unfolds st (v :: vs) (.leaf v rest)
  | node {a : Addr} {n : Node} {vs : List Value} {kids rest : Forest}
      (node : st.node? (.ref a) = some n) (below : Unfolds st (st.childrenOf n) kids)
      (later : Unfolds st vs rest) : Unfolds st (.ref a :: vs) (.node (st.viewOf a n) kids rest)

theorem forestBy_unfolds {below : List Value → Option Forest}
    (each : ∀ vs kids, below vs = some kids → st.Unfolds vs kids) {vs : List Value} {f : Forest}
    (built : st.forestBy below vs = some f) : st.Unfolds vs f := by
  induction vs generalizing f with
  | nil =>
    cases built
    exact .nil
  | cons v vs ih =>
    rcases node : st.node? v with _ | n
    · simp only [forestBy, node] at built
      obtain ⟨rest, later, same⟩ := Option.bind_eq_some_iff.mp built
      cases same
      exact .leaf node (ih later)
    · obtain ⟨a, rfl, view⟩ := view?_of_node? node
      simp only [forestBy, node, view] at built
      obtain ⟨kids, inner, built⟩ := Option.bind_eq_some_iff.mp built
      obtain ⟨rest, later, same⟩ := Option.bind_eq_some_iff.mp built
      cases same
      exact .node node (each _ _ inner) (ih later)

theorem forestWithin_unfolds {fuel : Nat} {vs : List Value} {f : Forest}
    (built : st.forestWithin fuel vs = some f) : st.Unfolds vs f := by
  induction fuel generalizing vs f with
  | zero => exact forestBy_unfolds (fun _ _ none => by cases none) built
  | succ fuel ih => exact forestBy_unfolds (fun _ _ inner => ih inner) built

theorem tree_eq_ok {a : Addr} {t : Tree} (tree : st.tree (.ref a) = .ok t) :
    ∃ n, st.node? (.ref a) = some n ∧ t.view = st.viewOf a n ∧
      st.Unfolds (st.childrenOf n) t.kids := by
  rcases node : st.node? (.ref a) with _ | n
  · simp [Store.tree, node] at tree
  · simp only [Store.tree, view?, node, Option.map_some] at tree
    split at tree
    · next kids forest =>
      cases tree
      exact ⟨n, rfl, rfl, forestWithin_unfolds forest⟩
    · cases tree

theorem Unfolds.acc {vs : List Value} {f : Forest} (unfolds : st.Unfolds vs f) {a : Addr}
    (root : .ref a ∈ vs) (isNode : st.isNode (.ref a)) : Acc (flip st.Parent) a := by
  induction unfolds generalizing a with
  | nil => cases root
  | leaf other _ ih =>
    rcases List.mem_cons.mp root with rfl | later
    · simp [Store.isNode, other] at isNode
    · exact ih later isNode
  | node node _ _ ihBelow ihLater =>
    rcases List.mem_cons.mp root with same | later
    · cases same
      constructor
      rintro b ⟨n, node', child, isNode'⟩
      cases node.symm.trans node'
      exact ihBelow child isNode'
    · exact ihLater later isNode

/-- There is a tree under a node exactly if no node is below itself there. -/
theorem exists_tree_iff {a : Addr} {n : Node} (node : st.node? (.ref a) = some n) :
    (∃ t, st.tree (.ref a) = .ok t) ↔ st.Acyclic a := by
  constructor
  · rintro ⟨t, tree⟩
    obtain ⟨n', node', _, unfolds⟩ := tree_eq_ok tree
    have whole : st.Unfolds [.ref a] (.node (st.viewOf a n') t.kids .nil) :=
      .node node' unfolds .nil
    have returnless : Returnless st.Parent a :=
      .of_acc (whole.acc (.head _) (by simp [isNode, node]))
    exact returnless
  · intro acyclic
    exact exists_tree acyclic node

/-- The nodes among some children and below, in order: each before its own, and these before those
of its later siblings. What is no node is passed over. -/
inductive Preorder (st : Store) : List Value → List NodeView → Prop
  | nil : Preorder st [] []
  | skip {v : Value} {vs : List Value} {ns : List NodeView} (other : st.node? v = none)
      (rest : Preorder st vs ns) : Preorder st (v :: vs) ns
  | node {a : Addr} {n : Node} {vs : List Value} {below later : List NodeView}
      (node : st.node? (.ref a) = some n) (kids : Preorder st (st.childrenOf n) below)
      (rest : Preorder st vs later) : Preorder st (.ref a :: vs) (st.viewOf a n :: below ++ later)

/-- There is one order only. -/
theorem Preorder.unique {vs : List Value} {ns ms : List NodeView} (first : st.Preorder vs ns)
    (second : st.Preorder vs ms) : ns = ms := by
  induction first generalizing ms with
  | nil =>
    cases second
    rfl
  | skip other rest ih =>
    cases second with
    | skip _ rest' => exact ih rest'
    | node node _ _ => exact absurd (other.symm.trans node) (by simp)
  | node node kids rest ihKids ihRest =>
    cases second with
    | skip other _ => exact absurd (other.symm.trans node) (by simp)
    | node node' kids' rest' =>
      cases node.symm.trans node'
      rw [ihKids kids', ihRest rest']

theorem isNode_above {a b : Addr} {n : Node} (path : ReflTransGen st.Parent a b)
    (node : st.node? (.ref b) = some n) : st.isNode (.ref a) := by
  rcases path.cases_head with rfl | ⟨c, ⟨k, inner, _⟩, _⟩
  · simp [isNode, node]
  · simp [isNode, inner]

theorem Preorder.reached {vs : List Value} {ns : List NodeView} (order : st.Preorder vs ns)
    {m : NodeView} (member : m ∈ ns) :
    ∃ a b n, .ref a ∈ vs ∧ ReflTransGen st.Parent a b ∧ st.node? (.ref b) = some n ∧
      m = st.viewOf b n := by
  induction order with
  | nil => cases member
  | skip other rest ih =>
    obtain ⟨a, b, n, root, path, found⟩ := ih member
    exact ⟨a, b, n, .tail _ root, path, found⟩
  | @node a n vs below later node kids rest ihKids ihRest =>
    rcases List.mem_append.mp member with inner | after
    · rcases List.mem_cons.mp inner with rfl | inside
      · exact ⟨a, a, n, .head _, .refl, node, rfl⟩
      · obtain ⟨c, b, m', child, path, found, same⟩ := ihKids inside
        have isNode := isNode_above path found
        exact ⟨a, b, m', .head _, .head ⟨n, node, child, isNode⟩ path, found, same⟩
    · obtain ⟨c, b, m', root, path, found⟩ := ihRest after
      exact ⟨c, b, m', .tail _ root, path, found⟩

theorem Preorder.covers {vs : List Value} {ns : List NodeView} (order : st.Preorder vs ns)
    {a b : Addr} {n : Node} (root : .ref a ∈ vs) (path : ReflTransGen st.Parent a b)
    (node : st.node? (.ref b) = some n) : st.viewOf b n ∈ ns := by
  induction order generalizing a with
  | nil => cases root
  | @skip v vs ns other rest ih =>
    have isNode := isNode_above path node
    have later : .ref a ∈ vs := by
      rcases List.mem_cons.mp root with rfl | later
      · simp [Store.isNode, other] at isNode
      · exact later
    exact ih later path
  | @node c k vs below later top kids rest ihKids ihRest =>
    rcases List.mem_cons.mp root with same | after
    · cases same
      rcases path.cases_head with rfl | ⟨d, ⟨k', inner, child, _⟩, path⟩
      · cases top.symm.trans node
        simp
      · cases top.symm.trans inner
        have inside := ihKids child path
        simp [inside]
    · have behind := ihRest after path
      simp [behind]

/-- The nodes in the order below a node are that node and those that are reached from it. -/
theorem Preorder.mem_iff {a : Addr} {ns : List NodeView} (order : st.Preorder [.ref a] ns)
    (m : NodeView) :
    m ∈ ns ↔ ∃ b n, ReflTransGen st.Parent a b ∧ st.node? (.ref b) = some n ∧
      m = st.viewOf b n := by
  constructor
  · intro member
    obtain ⟨c, b, n, root, path, node, same⟩ := order.reached member
    cases List.mem_singleton.mp root
    exact ⟨b, n, path, node, same⟩
  · rintro ⟨b, n, path, node, rfl⟩
    exact order.covers (.head _) path node

theorem Unfolds.preorder {vs : List Value} {f : Forest} (unfolds : st.Unfolds vs f) :
    st.Preorder vs f.preorder := by
  induction unfolds with
  | nil => exact .nil
  | leaf other _ ih => exact .skip other ih
  | node node _ _ ihBelow ihLater => exact .node node ihBelow ihLater

theorem preorder_of_tree {a : Addr} {t : Tree} (tree : st.tree (.ref a) = .ok t) :
    st.Preorder [.ref a] t.preorder := by
  obtain ⟨n, node, view, unfolds⟩ := tree_eq_ok tree
  have order := Preorder.node node unfolds.preorder .nil
  rwa [List.append_nil, ← view] at order

end TreeQuery.Store
