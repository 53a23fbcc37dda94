import TreeQuery.Proofs.Display.Outline
import TreeQuery.Proofs.Text.Runs

/-! The one-line form of a node shows the texts below it with their markup space collapsed. It stays
the same when a text is collapsed where it stands, however far below the node that is. -/

namespace TreeQuery

open Eval Relation

namespace Value

def Respaced (v w : Value) : Prop := w = v ∨ ∃ s, v = .text s ∧ w = .text (Display.collapsed s)

theorem Respaced.refl (v : Value) : v.Respaced v := .inl rfl

theorem Respaced.isText {v w : Value} (respaced : v.Respaced w) : w.isText = v.isText := by
  rcases respaced with rfl | ⟨s, rfl, rfl⟩ <;> rfl

theorem Respaced.eq_ref_iff {v w : Value} (respaced : v.Respaced w) (a : Addr) :
    w = .ref a ↔ v = .ref a := by
  rcases respaced with rfl | ⟨s, rfl, rfl⟩
  · rfl
  · simp

theorem Respaced.exists_text {s : String} {w : Value} (respaced : Respaced (.text s) w) :
    ∃ s', w = .text s' ∧ Text.Interchangeable s.toList s'.toList := by
  rcases respaced with rfl | ⟨_, ⟨⟩, rfl⟩
  · exact ⟨s, rfl, .refl _⟩
  · refine ⟨_, rfl, ?_⟩
    rw [Display.collapsed, String.toList_ofList]
    exact .collapse _

end Value

namespace Forest

/-- The same forest but for some texts of which the markup space has been collapsed. -/
inductive Respaced : Forest → Forest → Prop
  | nil : Respaced .nil .nil
  | leaf {v w : Value} {rest rest' : Forest} (same : v.Respaced w)
      (later : Respaced rest rest') : Respaced (.leaf v rest) (.leaf w rest')
  | node (view : NodeView) {kids kids' rest rest' : Forest} (below : Respaced kids kids')
      (later : Respaced rest rest') : Respaced (.node view kids rest) (.node view kids' rest')

variable {f f' : Forest}

theorem Respaced.texts (respaced : f.Respaced f') (legible : f.Legible) :
    ∃ pieces pieces', f.texts = .ok pieces ∧ f'.texts = .ok pieces' ∧
      Text.Interchangeable (String.join pieces).toList (String.join pieces').toList := by
  induction respaced with
  | nil => exact ⟨[], [], rfl, rfl, .refl _⟩
  | leaf same _ ih =>
    obtain ⟨isText, legible⟩ := legible
    obtain ⟨s, rfl⟩ := Value.eq_text_of_isText isText
    obtain ⟨s', rfl, first⟩ := same.exists_text
    obtain ⟨pieces, pieces', later, later', others⟩ := ih legible
    refine ⟨s :: pieces, s' :: pieces', by rw [Forest.texts, later]; rfl,
      by rw [Forest.texts, later']; rfl, ?_⟩
    simp only [String.join_cons, String.toList_append]
    exact first.append others
  | node view _ _ ihBelow ihLater =>
    obtain ⟨_, kids, rest⟩ := legible
    obtain ⟨inside, inside', inner, inner', below⟩ := ihBelow kids
    obtain ⟨behind, behind', later, later', others⟩ := ihLater rest
    refine ⟨inside ++ behind, inside' ++ behind', by rw [Forest.texts, inner, later]; rfl,
      by rw [Forest.texts, inner', later']; rfl, ?_⟩
    simp only [String.join_append, String.toList_append]
    exact below.append others

theorem Respaced.nodeWord (respaced : f.Respaced f') (legible : f.Legible) (limit : Value)
    (tag : String) : Display.nodeWord limit tag f' = Display.nodeWord limit tag f := by
  obtain ⟨pieces, pieces', told, told', same⟩ := respaced.texts legible
  have inner : Display.collapsed (String.join pieces') = Display.collapsed (String.join pieces) :=
    congrArg String.ofList same.collapse_eq.symm
  simp only [Display.nodeWord, told, told', bind, Except.bind, inner]

theorem Respaced.words (respaced : f.Respaced f') (legible : f.Legible) : f'.words = f.words := by
  induction respaced with
  | nil => rfl
  | leaf same _ ih =>
    obtain ⟨isText, legible⟩ := legible
    obtain ⟨s, rfl⟩ := Value.eq_text_of_isText isText
    obtain ⟨s', rfl, alike⟩ := same.exists_text
    have inner : Display.collapsed s' = Display.collapsed s :=
      congrArg String.ofList alike.collapse_eq.symm
    simp only [Forest.words, Display.leafWord, inner, ih legible]
  | node view below _ _ ihLater =>
    obtain ⟨_, kids, rest⟩ := legible
    rw [Forest.words, Forest.words, below.nodeWord kids, ihLater rest]

theorem Respaced.formed (respaced : f.Respaced f') (formed : f.Formed) : f'.Formed := by
  induction respaced with
  | nil => trivial
  | leaf same _ ih => exact ⟨same.isText.trans formed.1, ih formed.2⟩
  | node view _ _ ihBelow ihLater => exact ⟨formed.1, ihBelow formed.2.1, ihLater formed.2.2⟩

end Forest

namespace Store

/-- The same nodes with the same attributes, of which some children that are texts may have been
collapsed. -/
structure Respaces (st st' : Store) : Prop where
  nodes : st.SameNodes st'
  attrs (a : Addr) : st'.attrEntries a = st.attrEntries a
  children (n : Node) : List.Forall₂ Value.Respaced (st.childrenOf n) (st'.childrenOf n)

variable {st st' : Store} {root : Addr} {n : Node}

theorem forall₂_set {vs : List Value} {i : Nat} {v w : Value} (item : vs[i]? = some v)
    (respaced : v.Respaced w) : List.Forall₂ Value.Respaced vs (vs.set i w) := by
  induction vs generalizing i with
  | nil => cases item
  | cons u vs ih =>
    cases i with
    | zero =>
      cases item
      exact .cons respaced (List.forall₂_same.mpr fun _ _ => .refl _)
    | succ i => exact .cons (.refl u) (ih item)

theorem ref_mem_iff {vs vs' : List Value} (items : List.Forall₂ Value.Respaced vs vs')
    {a : Addr} : .ref a ∈ vs' ↔ .ref a ∈ vs := by
  induction items with
  | nil => rfl
  | cons same _ ih =>
    have first := same.eq_ref_iff a
    simp only [List.mem_cons, ih, eq_comm (a := Value.ref a), first]

theorem isChild_of_respaced {vs vs' : List Value} (items : List.Forall₂ Value.Respaced vs vs')
    (fine : ∀ v ∈ vs, st.isChild v) : ∀ w ∈ vs', st.isChild w := by
  induction items with
  | nil => simp
  | cons same _ ih =>
    obtain ⟨first, others⟩ := List.forall_mem_cons.mp fine
    refine List.forall_mem_cons.mpr ⟨?_, ih others⟩
    rcases same with rfl | ⟨s, rfl, rfl⟩
    · exact first
    · simp [isChild, Value.isText]

/-- A text in a list is collapsed where it stands. -/
theorem respaces_write {a : Addr} {vs : List Value} {i : Nat} {s : String}
    (read : st.read? a = some (.list vs)) (item : vs[i]? = some (.text s)) :
    st.Respaces (st.write a (.list (vs.set i (.text (Display.collapsed s))))) := by
  have own := read?_write_self st (.list (vs.set i (.text (Display.collapsed s))))
    (lt_of_read? read)
  have entries : ∀ b, (st.write a (.list (vs.set i (.text (Display.collapsed s))))).entries b =
      st.entries b := by
    intro b
    unfold Store.entries
    by_cases same : a = b
    · subst same
      rw [own, read]
    · rw [read?_write_of_ne st _ same]
  constructor
  · exact sameNodes_write read rfl rfl
  · intro b
    unfold Store.attrEntries
    by_cases same : a = b
    · subst same
      simp only [own, read, entries]
    · simp only [read?_write_of_ne st _ same, entries]
  · intro n
    unfold Store.childrenOf members
    by_cases same : a = n.children
    · rw [← same, own, read]
      exact forall₂_set item (.inr ⟨s, rfl, rfl⟩)
    · rw [read?_write_of_ne st _ same]
      exact List.forall₂_same.mpr fun _ _ => .refl _

def withChild (st : Store) (n : Node) (i : Nat) (v : Value) : Store :=
  st.write n.children (.list ((st.childrenOf n).set i v))

theorem respaces_withChild {i : Nat} {s : String} (item : (st.childrenOf n)[i]? = some (.text s)) :
    st.Respaces (st.withChild n i (.text (Display.collapsed s))) := by
  have read : st.read? n.children = some (.list (st.childrenOf n)) := by
    unfold childrenOf members at item ⊢
    split at item
    · next vs read => simp only [read]
    · cases item
  exact respaces_write read item

namespace Respaces

variable (respaces : st.Respaces st')
include respaces

theorem parent : st'.Parent = st.Parent := by
  funext a b
  simp only [Parent, respaces.nodes.node?, respaces.nodes.isNode,
    ref_mem_iff (respaces.children _)]

theorem formed (formed : st.Formed root) : st'.Formed root where
  isNode := by
    rw [respaces.nodes.isNode]
    exact formed.isNode
  acyclic b path := by
    rw [respaces.parent] at path ⊢
    exact formed.acyclic b path
  attrs b n path node := by
    rw [respaces.parent] at path
    rw [respaces.nodes.node?] at node
    rw [respaces.attrs]
    exact formed.attrs b n path node
  children b n path node v member := by
    rw [respaces.parent] at path
    rw [respaces.nodes.node?] at node
    rw [respaces.nodes.isChild]
    exact isChild_of_respaced (respaces.children n) (formed.children b n path node) v member

theorem forests {vs vs' : List Value} {f f' : Forest} (unfolds : st.Unfolds vs f)
    (unfolds' : st'.Unfolds vs' f') (items : List.Forall₂ Value.Respaced vs vs') :
    f.Respaced f' := by
  induction unfolds generalizing vs' f' with
  | nil =>
    cases items
    cases unfolds'
    exact .nil
  | @leaf v vs rest other _ ih =>
    cases items with
    | @cons _ w _ ws same items =>
    cases unfolds' with
    | leaf _ later => exact .leaf same (ih later items)
    | @node a n _ _ _ node _ _ =>
      rw [respaces.nodes.node?, ← (same.eq_ref_iff a).mp rfl, other] at node
      cases node
  | @node a n vs kids rest node _ _ ihBelow ihLater =>
    cases items with
    | @cons _ w _ ws same items =>
    -- A node is the same on both sides, and only its children can have changed.
    have node' := (respaces.nodes.node? (.ref a)).trans node
    cases (same.eq_ref_iff a).mpr rfl
    cases unfolds' with
    | leaf other _ => exact absurd (other.symm.trans node') (by simp)
    | node found below later =>
      cases found.symm.trans node'
      have view : st'.viewOf a n = st.viewOf a n := by rw [viewOf, viewOf, respaces.attrs]
      rw [view]
      exact .node _ (ihBelow below (respaces.children n)) (ihLater later items)

end Respaces

end Store

theorem exec_display_tree {root : Addr} {s : Session} {t : Tree}
    (tree : s.store.tree (.ref root) = .ok t) (texts : Entries.AreTexts t.view.attrs)
    (kids : t.kids.Formed) :
    (display (.ref root)).exec s = (.ok (t.view.openText t.kids.wordText), s) := by
  obtain ⟨n, node, _⟩ := Store.tree_eq_ok tree
  have quotes : Renderer.Quotes (Display.valueWithin 999 []) := fun _ _ => rfl
  have found : (liftM (s.store.tree (.ref root)) : Eval Tree).exec s = (.ok t, s) := by
    rw [tree]
    exact exec_lift _ s
  rw [exec_display_node node, exec_bind_ok found]
  exact Tree.exec_shown quotes texts kids s

/-- Below a node of a well-formed tree, texts can be collapsed without a change in its one-line
form. -/
theorem exec_display_respaced {root : Addr} {s : Session} {st' : Store}
    (respaces : s.store.Respaces st') (formed : s.store.Formed root) :
    ∃ shown, (display (.ref root)).exec s = (.ok shown, s) ∧
      (display (.ref root)).exec { s with store := st' } =
        (.ok shown, { s with store := st' }) := by
  obtain ⟨t, tree, texts, kids⟩ := formed.tree
  obtain ⟨t', tree', texts', kids'⟩ := (respaces.formed formed).tree
  obtain ⟨n, node, view, unfolds⟩ := Store.tree_eq_ok tree
  obtain ⟨n', node', view', unfolds'⟩ := Store.tree_eq_ok tree'
  have same : n' = n := by
    rw [respaces.nodes.node?, node] at node'
    exact (Option.some.inj node').symm
  subst same
  have views : t'.view = t.view := by
    rw [view, view', Store.viewOf, Store.viewOf, respaces.attrs]
  have respaced := respaces.forests unfolds unfolds' (respaces.children n')
  have words : t'.kids.wordText = t.kids.wordText := by
    rw [Forest.wordText, Forest.wordText, respaced.words kids.legible]
  have shown := exec_display_tree (s := { s with store := st' }) tree' texts' kids'
  rw [views, words] at shown
  exact ⟨_, exec_display_tree tree texts kids, shown⟩

namespace Display

theorem toList_collapsed (s : String) : (collapsed s).toList = Text.collapse s.toList := by
  rw [collapsed, String.toList_ofList]

/-- Where a text is collapsed, each maximal run of markup space becomes one character, a newline if
there is one in the run and a space if not, and nothing else changes. To collapse it again makes no
difference. A node of a well-formed tree looks the same on one line when any text below it is
collapsed: one among the children of any node there. -/
theorem collapsing_squeezes_runs (s : String) :
    (∀ c ∈ (collapsed s).toList, c ≠ '\t' ∧ c ≠ '\x0c' ∧ c ≠ '\r') ∧
    (collapsed s).toList.IsChain
      (fun c d => ¬ ((c = ' ' ∨ c = '\n') ∧ (d = ' ' ∨ d = '\n'))) ∧
    (collapsed s).toList.filter (fun c => !Text.isMarkupSpace c) =
      s.toList.filter (fun c => !Text.isMarkupSpace c) ∧
    Text.runs (collapsed s).toList = (Text.runs s.toList).map Text.squeezed ∧
    collapsed (collapsed s) = collapsed s ∧
    ∀ (session : Session) (root : Addr) (n : Node) (i : Nat), session.store.Formed root →
      (session.store.childrenOf n)[i]? = some (.text s) →
      ∃ shown, (display (.ref root)).exec session = (.ok shown, session) ∧
        let after :=
          { session with store := session.store.withChild n i (.text (collapsed s)) }
        (display (.ref root)).exec after = (.ok shown, after) := by
  rw [toList_collapsed]
  refine ⟨?_, ?_, Text.filter_collapse _, Text.runs_collapse _, ?_, ?_⟩
  · intro c member
    have left := Text.eq_mark_of_mem_collapse member
    refine ⟨?_, ?_, ?_⟩ <;>
    · rintro rfl
      simpa using left (by decide)
  · refine (Text.isChain_collapse _).imp ?_
    rintro c d apart ⟨first, second⟩
    have space : ∀ e, e = ' ' ∨ e = '\n' → Text.isMarkupSpace e = true := by
      rintro e (rfl | rfl) <;> rfl
    exact apart ⟨space c first, space d second⟩
  · rw [collapsed, toList_collapsed, Text.collapse_collapse]
    rfl
  · intro session root n i formed item
    exact exec_display_respaced (Store.respaces_withChild item) formed

def spaced : Store where
  objects := #[.list [.text " u \n\tv"], .dict [], .node ⟨"b", 1, 0⟩,
    .list [.text "t ", .ref 2, .text "\rw"], .dict [], .node ⟨"a", 4, 3⟩]

theorem formed_spaced : spaced.Formed 5 := Store.formed_of_earlier rfl (by decide)

theorem spaced_text_is_squeezed :
    spaced.Formed 5 ∧ (spaced.childrenOf ⟨"b", 1, 0⟩)[0]? = some (.text " u \n\tv") ∧
    collapsed " u \n\tv" = " u\nv" ∧
    Text.runs (collapsed " u \n\tv").toList =
      (Text.runs " u \n\tv".toList).map Text.squeezed ∧
    ∃ shown, (display (.ref 5)).exec { store := spaced } = (.ok shown, { store := spaced }) ∧
      let after := spaced.withChild ⟨"b", 1, 0⟩ 0 (.text (collapsed " u \n\tv"))
      (display (.ref 5)).exec { store := after } = (.ok shown, { store := after }) := by
  obtain ⟨_, _, _, runs, _, shows⟩ := collapsing_squeezes_runs " u \n\tv"
  exact ⟨formed_spaced, rfl, by decide, runs,
    shows { store := spaced } 5 ⟨"b", 1, 0⟩ 0 formed_spaced rfl⟩

end Display

end TreeQuery
