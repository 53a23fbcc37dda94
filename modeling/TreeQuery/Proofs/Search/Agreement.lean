import TreeQuery.Proofs.Search.Children

namespace TreeQuery

namespace Store

open Relation

variable {st : Store} {a b : Addr} {test : Criterion} {meets : Addr → Prop} {ns : List NodeView}

/-- What is found first in the order below some roots is found first among the roots, or among
the children of a node below one of them. -/
theorem Preorder.found_among_children {vs : List Value} {r : NodeView}
    (order : st.Preorder vs ns) (found : firstWhere test ns = .ok (some r)) :
    firstWhere test (vs.filterMap st.view?) = .ok (some r) ∨
      ∃ a b, .ref a ∈ vs ∧ st.isNode (.ref a) ∧ ReflTransGen st.Parent a b ∧
        firstWhere test (st.childNodes (.ref b)) = .ok (some r) := by
  induction order with
  | nil => cases found
  | @skip v vs ns other rest ih =>
    rw [List.filterMap_cons_none (view?_eq_none other)]
    rcases ih found with among | ⟨a, b, root, below⟩
    · exact .inl among
    · exact .inr ⟨a, b, .tail _ root, below⟩
  | @node a n vs below later node kids rest ihKids ihRest =>
    have isNode : st.isNode (.ref a) := by simp [Store.isNode, node]
    rw [List.filterMap_cons_some (view?_of_node node), firstWhere_cons_eq_some]
    rw [List.cons_append, firstWhere_cons_eq_some, firstWhere_append_eq_some] at found
    rcases found with here | ⟨refused, inside | ⟨none, behind⟩⟩
    · exact .inl (.inl here)
    · rcases ihKids inside with among | ⟨c, b, child, isNode', path, at_⟩
      · exact .inr ⟨a, a, .head _, isNode, .refl, by rwa [childNodes_eq node]⟩
      · have edge : st.Parent a c := ⟨n, node, child, isNode'⟩
        exact .inr ⟨a, b, .head _, isNode, .head edge path, at_⟩
    · rcases ihRest behind with among | ⟨c, b, root, below⟩
      · exact .inl (.inr ⟨refused, among⟩)
      · exact .inr ⟨c, b, .tail _ root, below⟩

theorem Preorder.head {n : Node} (order : st.Preorder [.ref a] ns)
    (node : st.node? (.ref a) = some n) : ∃ below, ns = st.viewOf a n :: below := by
  cases order with
  | skip other _ => exact absurd (other.symm.trans node) (by simp)
  | node node' _ _ =>
    cases node.symm.trans node'
    exact ⟨_, rfl⟩

theorem map_foundValue_eq_null {r : Except Fault (Option NodeView)} :
    foundValue <$> r = .ok .null ↔ r = .ok none := by
  rcases r with fault | found
  · constructor <;> intro stops <;> cases stops
  · cases found with
    | none => exact iff_of_true rfl rfl
    | some m => constructor <;> intro same <;> cases same

/-- A search through the tree of a node agrees with a search among children for the same: it comes
to an answer; it finds nothing, the node itself, or another node exactly where it should. -/
structure Agrees (st : Store) (meets : Addr → Prop) (through among : Value → Except Fault Value)
    (a : Addr) : Prop where
  answers : ∃ v, through (.ref a) = .ok v
  absent : through (.ref a) = .ok .null ↔
    ¬ meets a ∧ ∀ b, ReflTransGen st.Parent a b → among (.ref b) = .ok .null
  itself : through (.ref a) = .ok (.ref a) ↔ meets a
  other (v : Value) : through (.ref a) = .ok v → v ≠ .null → v ≠ .ref a →
    (∃ b, ReflTransGen st.Parent a b ∧ among (.ref b) = .ok v) ∧
      ∃ before r later, st.Preorder [.ref a] (before ++ r :: later) ∧ v = .ref r.id ∧ meets r.id ∧
        ∀ m ∈ before, ¬ meets m.id

namespace Tells

variable (tells : st.Tells a test meets)
include tells

theorem below (path : ReflTransGen st.Parent a b) : st.Tells b test meets :=
  fun c n further node => tells c n (path.trans further) node

/-- A scan of the tree below a node finds nothing and no node of it has the property, or finds the
first that has it. -/
theorem scan (order : st.Preorder [.ref a] ns) :
    (firstWhere test ns = .ok none ∧ ∀ b, ReflTransGen st.Parent a b → st.isNode (.ref b) →
      ¬ meets b) ∨
    ∃ before r later, ns = before ++ r :: later ∧ (∀ m ∈ before, ¬ meets m.id) ∧ meets r.id ∧
      firstWhere test ns = .ok (some r) := by
  have refused_iff : ∀ m ∈ ns, test m = .ok false ↔ ¬ meets m.id := by
    intro m member
    obtain ⟨b, n, path, node, rfl⟩ := (order.mem_iff m).mp member
    exact tells.ok_false_iff path node
  rcases exists_first test ns with all | ⟨before, r, later, split, passed, decides⟩
  · refine .inl ⟨firstWhere_none all, ?_⟩
    intro b path isNode
    obtain ⟨n, node⟩ := node?_of_isNode isNode
    have member := (order.mem_iff _).mpr ⟨b, n, path, node, rfl⟩
    exact (refused_iff _ member).mp (all _ member)
  · have member : r ∈ ns := by simp [split]
    have met : meets r.id := not_not.mp fun unmet => decides ((refused_iff r member).mpr unmet)
    obtain ⟨b, n, path, node, rfl⟩ := (order.mem_iff r).mp member
    have yes := (tells.ok_true_iff path node).mpr met
    refine .inr ⟨before, _, later, split, ?_, met, ?_⟩
    · intro m inside
      exact (refused_iff m (by simp [split, inside])).mp (passed m inside)
    · rw [split, firstWhere_stop later passed decides, yes]
      rfl

section Agreement

variable {through among : Value → Except Fault Value} (isNode : st.isNode (.ref a))
  (among_eq : ∀ b, st.isNode (.ref b) →
    among (.ref b) = foundValue <$> firstWhere test (st.childNodes (.ref b)))
include isNode among_eq

theorem among_null_iff (path : ReflTransGen st.Parent a b) :
    among (.ref b) = .ok .null ↔ ∀ c, st.Parent b c → ¬ meets c := by
  rw [among_eq b (isNode_below isNode path), ← (tells.below path).absent_iff]
  exact map_foundValue_eq_null

theorem agrees_of_none (answer : through (.ref a) = .ok .null)
    (none : ∀ b, ReflTransGen st.Parent a b → st.isNode (.ref b) → ¬ meets b) :
    st.Agrees meets through among a where
  answers := ⟨_, answer⟩
  absent := by
    refine iff_of_true answer ⟨none a .refl isNode, ?_⟩
    intro b path
    refine (tells.among_null_iff isNode among_eq path).mpr ?_
    intro c edge
    exact none c (path.tail edge) (isNode_of_parent edge)
  itself := by
    refine iff_of_false ?_ (none a .refl isNode)
    rw [answer]
    simp
  other := by
    intro v given notNull
    cases answer.symm.trans given
    exact absurd rfl notNull

theorem agrees_of_first {before later : List NodeView} {r : NodeView}
    (order : st.Preorder [.ref a] (before ++ r :: later)) (passed : ∀ m ∈ before, ¬ meets m.id)
    (met : meets r.id) (found : firstWhere test (before ++ r :: later) = .ok (some r))
    (answer : through (.ref a) = .ok (.ref r.id)) : st.Agrees meets through among a := by
  obtain ⟨n, node⟩ := node?_of_isNode isNode
  obtain ⟨below, split⟩ := order.head node
  obtain ⟨b, k, path, inner, rfl⟩ := (order.mem_iff r).mp (by simp)
  refine ⟨⟨_, answer⟩, ?_, ?_, ?_⟩
  · refine iff_of_false ?_ ?_
    · rw [answer]
      simp
    -- What is found below the root is a child of some node in the tree.
    · rintro ⟨unmet, nothing⟩
      rcases path.cases_tail with rfl | ⟨c, path', edge⟩
      · exact unmet met
      · exact (tells.among_null_iff isNode among_eq path').mp (nothing c path') b edge met
  · rw [answer]
    constructor
    · intro same
      cases same
      exact met
    · intro here
      cases before with
      | nil =>
        have same : st.viewOf b k = st.viewOf a n := (List.cons.inj split).1
        exact congrArg (Except.ok ∘ Value.ref ∘ NodeView.id) same
      | cons m before =>
        have same : m = st.viewOf a n := (List.cons.inj split).1
        subst same
        exact absurd here (passed _ (.head _))
  · intro v given _ notItself
    cases answer.symm.trans given
    refine ⟨?_, before, _, later, order, rfl, met, passed⟩
    rcases order.found_among_children found with here | ⟨c, d, root, _, path', at_⟩
    · rw [List.filterMap_cons_some (view?_of_node node), firstWhere_cons_eq_some] at here
      rcases here with ⟨_, same⟩ | ⟨_, nothing⟩
      · exact absurd (congrArg (Value.ref ·.id) same.symm) notItself
      · cases nothing
    · cases List.mem_singleton.mp root
      refine ⟨d, path', ?_⟩
      rw [among_eq d (isNode_below isNode path'), at_]
      rfl

theorem agrees (order : st.Preorder [.ref a] ns)
    (through_eq : through (.ref a) = foundValue <$> firstWhere test ns) :
    st.Agrees meets through among a := by
  rcases tells.scan order with ⟨nothing, none⟩ | ⟨before, r, later, split, passed, met, found⟩
  · rw [nothing] at through_eq
    exact tells.agrees_of_none isNode among_eq through_eq none
  · rw [found] at through_eq
    subst split
    exact tells.agrees_of_first isNode among_eq order passed met found through_eq

end Agreement

end Tells

/-- From any node of a well-formed tree on, searches for a tag, and for a value of an attribute,
agree with those among children. -/
theorem searches_agree (st : Store) (root a : Addr) (formed : st.Formed root)
    (path : ReflTransGen st.Parent root a) :
    (∀ tag, st.Agrees (st.HasTag tag) (fun v => foundValue <$> st.firstTagged (.text tag) v)
      (fun v => foundValue <$> st.childTagged (.text tag) v) a) ∧
    ∀ name wanted, st.Agrees (st.HasAttr name wanted)
      (fun v => foundValue <$> st.firstWithAttr (.text name) (.text wanted) v)
      (fun v => foundValue <$> st.childWithAttr (.text name) (.text wanted) v) a := by
  have here := formed.below path
  obtain ⟨t, tree⟩ := here.exists_tree
  have order := preorder_of_tree tree
  constructor
  · intro tag
    refine (st.tells_tagged a tag).agrees here.isNode ?_ order ?_
    · intro b isNode
      rw [childTagged_eq isNode]
    · rw [firstTagged_eq tree]
  · intro name wanted
    refine (tells_attrIs here name wanted).agrees here.isNode ?_ order ?_
    · intro b isNode
      rfl
    · rw [firstWithAttr_eq tree]

theorem branching_searches_agree :
    branching.Formed 14 ∧ ReflTransGen branching.Parent 14 14 ∧
      (∀ tag, branching.Agrees (branching.HasTag tag)
        (fun v => foundValue <$> branching.firstTagged (.text tag) v)
        (fun v => foundValue <$> branching.childTagged (.text tag) v) 14) ∧
      ∀ name wanted, branching.Agrees (branching.HasAttr name wanted)
        (fun v => foundValue <$> branching.firstWithAttr (.text name) (.text wanted) v)
        (fun v => foundValue <$> branching.childWithAttr (.text name) (.text wanted) v) 14 :=
  ⟨formed_branching, .refl, searches_agree branching 14 14 formed_branching .refl⟩

end Store

end TreeQuery
