import TreeQuery.Proofs.Search.Agreement
import TreeQuery.Proofs.Tree.Skeleton

namespace TreeQuery

def Both {α β : Type} (related : α → β → Prop) (x : Except Fault α) (y : Except Fault β) : Prop :=
  ∃ a b, x = .ok a ∧ y = .ok b ∧ related a b

section Scanning

variable {related : NodeView → NodeView → Prop} {test test' : Criterion}
  {ns ns' : List NodeView}

theorem firstWhere_both
    (agree : ∀ m m', related m m' → ∃ met, test m = .ok met ∧ test' m' = .ok met)
    (pairs : List.Forall₂ related ns ns') :
    Both (Option.Rel related) (firstWhere test ns) (firstWhere test' ns') := by
  induction pairs with
  | nil => exact ⟨none, none, rfl, rfl, .none⟩
  | @cons m m' ns ns' first rest ih =>
    obtain ⟨met, asked, asked'⟩ := agree m m' first
    rw [firstWhere, firstWhere, asked, asked']
    cases met with
    | true => exact ⟨some m, some m', rfl, rfl, .some first⟩
    | false => exact ih

theorem allWhere_both
    (agree : ∀ m m', related m m' → ∃ met, test m = .ok met ∧ test' m' = .ok met)
    (pairs : List.Forall₂ related ns ns') :
    Both (List.Forall₂ related) (allWhere test ns) (allWhere test' ns') := by
  induction pairs with
  | nil => exact ⟨[], [], rfl, rfl, .nil⟩
  | @cons m m' ns ns' first rest ih =>
    obtain ⟨met, asked, asked'⟩ := agree m m' first
    obtain ⟨found, found', later, later', related⟩ := ih
    rw [allWhere, allWhere, asked, asked', later, later']
    cases met with
    | true => exact ⟨m :: found, m' :: found', rfl, rfl, .cons first related⟩
    | false => exact ⟨found, found', rfl, rfl, related⟩

end Scanning

namespace Store

variable {st st' : Store} {root root' a a' : Addr} {m m' : NodeView} {path : List Nat}

/-- The exact searches from two nodes find nodes at the same places. -/
structure SearchAlike (st st' : Store) (root root' a a' : Addr) : Prop where
  childrenTagged (tag : String) : Both (List.Forall₂ (st.Twins st' root root'))
    (st.childrenTagged (.text tag) (.ref a)) (st'.childrenTagged (.text tag) (.ref a'))
  childTagged (tag : String) : Both (Option.Rel (st.Twins st' root root'))
    (st.childTagged (.text tag) (.ref a)) (st'.childTagged (.text tag) (.ref a'))
  childWithAttr (name wanted : String) : Both (Option.Rel (st.Twins st' root root'))
    (st.childWithAttr (.text name) (.text wanted) (.ref a))
    (st'.childWithAttr (.text name) (.text wanted) (.ref a'))
  childWithClass (wanted : String) : Both (Option.Rel (st.Twins st' root root'))
    (st.childWithClass (.text wanted) (.ref a)) (st'.childWithClass (.text wanted) (.ref a'))
  firstTagged (tag : String) : Both (Option.Rel (st.Twins st' root root'))
    (st.firstTagged (.text tag) (.ref a)) (st'.firstTagged (.text tag) (.ref a'))
  firstWithAttr (name wanted : String) : Both (Option.Rel (st.Twins st' root root'))
    (st.firstWithAttr (.text name) (.text wanted) (.ref a))
    (st'.firstWithAttr (.text name) (.text wanted) (.ref a'))
  firstWithClass (wanted : String) : Both (Option.Rel (st.Twins st' root root'))
    (st.firstWithClass (.text wanted) (.ref a)) (st'.firstWithClass (.text wanted) (.ref a'))
  firstWithId (wanted : String) : Both (Option.Rel (st.Twins st' root root'))
    (st.firstWithId (.text wanted) (.ref a)) (st'.firstWithId (.text wanted) (.ref a'))

def Agree (st st' : Store) (root root' : Addr) (test test' : Criterion) : Prop :=
  ∀ m m', st.Twins st' root root' m m' → ∃ met, test m = .ok met ∧ test' m' = .ok met

theorem Formed.isText_under? (formed : st.Formed root) (at_ : st.At root path m.id)
    (view : st.view? (.ref m.id) = some m) {name : String} {v : Value}
    (present : under? m.attrs name = some v) : v.isText := by
  obtain ⟨n, node, same⟩ := Option.map_eq_some_iff.mp view
  have attrs : st.attrEntries n.attrs = m.attrs := congrArg NodeView.attrs same
  have member := mem_of_under? (attrs ▸ present)
  exact (formed.attrs _ n at_.reached node _ member).2

namespace SameSkeleton

variable (same : st.SameSkeleton st' root root')
include same

theorem agree_tagged (tag : String) : Agree st st' root root' (.tagged tag) (.tagged tag) := by
  intro m m' twins
  refine ⟨m.tag == tag, rfl, ?_⟩
  rw [Criterion.tagged, (same.alike m m' twins).tag]

theorem agree_attrIs (formed : st.Formed root) (formed' : st'.Formed root')
    (name wanted : String) :
    Agree st st' root root' (.attrIs st (.text name) (.text wanted))
      (.attrIs st' (.text name) (.text wanted)) := by
  intro m m' twins
  have alike := (same.alike m m' twins).attrs name
  obtain ⟨⟨path, at_, at'⟩, view, view'⟩ := twins
  simp only [Criterion.attrIs, Criterion.attrPasses_text, find?_text]
  rcases present : under? m.attrs name with _ | v
  · have absent : under? m'.attrs name = none := by simpa [present] using alike
    exact ⟨false, rfl, by rw [absent]⟩
  · rcases present' : under? m'.attrs name with _ | v'
    · simp [present, present'] at alike
    · obtain ⟨text, rfl⟩ := Value.eq_text_of_isText (formed.isText_under? at_ view present)
      obtain ⟨text', rfl⟩ := Value.eq_text_of_isText (formed'.isText_under? at' view' present')
      have trimmed : Text.trim text' = Text.trim text := by
        simpa [present, present', Value.trimmed] using alike
      refine ⟨Value.text (Text.trim text) == .text wanted, rfl, ?_⟩
      simp only [Value.trimmed, trimmed]
      rfl

/-- The nodes below some nodes at the same places are, in order, nodes at the same places. -/
theorem twins_preorder {vs vs' : List Value} {ns ns' : List NodeView}
    (order : st.Preorder vs ns) (order' : st'.Preorder vs' ns')
    (tops : List.Forall₂ (st.Twins st' root root') (vs.filterMap st.view?)
      (vs'.filterMap st'.view?)) :
    List.Forall₂ (st.Twins st' root root') ns ns' := by
  -- Texts are passed over in each order on its own, and nodes are taken in both together.
  induction order generalizing vs' ns' with
  | nil =>
    induction order' with
    | nil => exact .nil
    | @skip v vs' ns' other _ ih =>
      rw [List.filterMap_cons_none (view?_eq_none other)] at tops
      exact ih tops
    | node node _ _ =>
      rw [List.filterMap_cons_some (view?_of_node node)] at tops
      cases tops
  | @skip v vs ns other _ ih =>
    rw [List.filterMap_cons_none (view?_eq_none other)] at tops
    exact ih order' tops
  | @node a n vs below later node kids rest ihKids ihRest =>
    rw [List.filterMap_cons_some (view?_of_node node)] at tops
    induction order' with
    | nil => cases tops
    | @skip v vs' ns' other _ ih =>
      rw [List.filterMap_cons_none (view?_eq_none other)] at tops
      exact ih tops
    | @node a' n' vs' below' later' node' kids' rest' _ _ =>
      rw [List.filterMap_cons_some (view?_of_node node')] at tops
      cases tops with
      | cons first others =>
        have inner := same.twins_below first
        rw [show (st.viewOf a n).id = a from rfl, show (st'.viewOf a' n').id = a' from rfl,
          childNodes_eq node, childNodes_eq node'] at inner
        exact .cons first (List.rel_append (ihKids kids' inner) (ihRest rest' others))

theorem searchAlike (formed : st.Formed root) (formed' : st'.Formed root')
    (at_ : st.At root path a) (at' : st'.At root' path a') :
    SearchAlike st st' root root' a a' := by
  have here := formed.below at_.reached
  have here' := formed'.below at'.reached
  have kids := same.twins_childNodes at_ at'
  obtain ⟨t, tree⟩ := here.exists_tree
  obtain ⟨t', tree'⟩ := here'.exists_tree
  have nodes : List.Forall₂ (st.Twins st' root root') t.preorder t'.preorder := by
    refine same.twins_preorder (preorder_of_tree tree) (preorder_of_tree tree') ?_
    obtain ⟨n, node⟩ := here.exists_node
    obtain ⟨n', node'⟩ := here'.exists_node
    have view := view?_of_node node
    have view' := view?_of_node node'
    rw [List.filterMap_cons_some view, List.filterMap_cons_some view']
    exact .cons ⟨⟨path, at_, at'⟩, view, view'⟩ .nil
  have childWithAttr : ∀ name wanted, Both (Option.Rel (st.Twins st' root root'))
      (st.childWithAttr (.text name) (.text wanted) (.ref a))
      (st'.childWithAttr (.text name) (.text wanted) (.ref a')) :=
    fun name wanted => firstWhere_both (same.agree_attrIs formed formed' name wanted) kids
  have firstWithAttr : ∀ name wanted, Both (Option.Rel (st.Twins st' root root'))
      (st.firstWithAttr (.text name) (.text wanted) (.ref a))
      (st'.firstWithAttr (.text name) (.text wanted) (.ref a')) := by
    intro name wanted
    rw [firstWithAttr_eq tree, firstWithAttr_eq tree']
    exact firstWhere_both (same.agree_attrIs formed formed' name wanted) nodes
  constructor
  · intro tag
    rw [childrenTagged, childrenTagged, if_pos here.isNode, if_pos here'.isNode]
    exact allWhere_both (same.agree_tagged tag) kids
  · intro tag
    rw [childTagged_eq here.isNode, childTagged_eq here'.isNode]
    exact firstWhere_both (same.agree_tagged tag) kids
  · exact childWithAttr
  · exact childWithAttr "class"
  · intro tag
    rw [firstTagged_eq tree, firstTagged_eq tree']
    exact firstWhere_both (same.agree_tagged tag) nodes
  · exact firstWithAttr
  · exact firstWithAttr "class"
  · exact firstWithAttr "id"

end SameSkeleton

end Store

end TreeQuery
