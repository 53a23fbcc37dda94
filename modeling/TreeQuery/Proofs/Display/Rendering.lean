import TreeQuery.Function.Apply
import TreeQuery.Proofs.Display.Node
import TreeQuery.Proofs.Node.Legible

/-! Which nodes can be shown and summarized: of those that have been accepted, the ones under which
no node is below itself, where the names of the attributes that are shown are texts. -/

namespace TreeQuery

open Eval

namespace Store

/-- From the first node, so many steps from a node to one of its children lead to the second. -/
inductive Below (st : Store) : Nat → Addr → Addr → Prop
  | here (a : Addr) : Below st 0 a a
  | child {k : Nat} {a b c : Addr} (edge : st.Parent a b) (path : Below st k b c) :
      Below st (k + 1) a c

def NamedWithin (st : Store) (a : Addr) (levels : Int) : Prop :=
  ∀ k b n, st.Below k a b → (levels < 0 ∨ (k : Int) ≤ levels) → st.node? (.ref b) = some n →
    (st.attrEntries n.attrs).AreNamed

variable {st : Store} {a : Addr} {n : Node} {levels : Int}

theorem parent_iff (node : st.node? (.ref a) = some n) {b : Addr} :
    st.Parent a b ↔ .ref b ∈ st.childrenOf n ∧ st.isNode (.ref b) := by
  constructor
  · rintro ⟨m, found, child⟩
    cases node.symm.trans found
    exact child
  · exact fun child => ⟨n, node, child⟩

theorem namedWithin_iff (node : st.node? (.ref a) = some n) :
    st.NamedWithin a levels ↔ (st.attrEntries n.attrs).AreNamed ∧
      (levels ≠ 0 → ∀ b, st.Parent a b → st.NamedWithin b (levels - 1)) := by
  constructor
  · intro named
    refine ⟨named 0 a n (.here a) (by omega) node, ?_⟩
    intro left b edge k c m path reach found
    exact named (k + 1) c m (.child edge path) (by omega) found
  · rintro ⟨own, below⟩ k c m path reach found
    cases path with
    | here =>
      cases node.symm.trans found
      exact own
    | child edge path => exact below (by omega) _ edge _ c m path (by omega) found

theorem namedWithin_zero (node : st.node? (.ref a) = some n) :
    st.NamedWithin a 0 ↔ (st.attrEntries n.attrs).AreNamed := by
  rw [namedWithin_iff node]
  simp

theorem Unfolds.legible {vs : List Value} {f : Forest} (unfolds : st.Unfolds vs f)
    (legible : st.Legible) (fine : ∀ v ∈ vs, st.isChild v) : f.Legible := by
  induction unfolds with
  | nil => trivial
  | leaf other _ ih =>
    obtain ⟨child, fine⟩ := List.forall_mem_cons.mp fine
    exact ⟨by simpa [isChild, isNode, other] using child, ih fine⟩
  | @node a n vs kids rest node _ _ ihBelow ihLater =>
    obtain ⟨_, fine⟩ := List.forall_mem_cons.mp fine
    have read := node?_eq_some.mp node
    exact ⟨(legible.attrs a n read).2, ihBelow (legible.children a n read).2, ihLater fine⟩

end Store

namespace Forest

/-- The names of attributes are texts at all nodes that are opened, or shown at the last level.
`levels` are those of the node that holds them. -/
def NamedWithin : Int → Forest → Prop
  | _, nil => True
  | levels, leaf _ rest => rest.NamedWithin levels
  | levels, node view kids rest =>
    (view.attrs.AreNamed ∧ (levels - 1 ≠ 0 → kids.NamedWithin (levels - 1))) ∧
      rest.NamedWithin levels

end Forest

theorem Store.Unfolds.namedWithin_iff {st : Store} {vs : List Value} {f : Forest}
    (unfolds : st.Unfolds vs f) (levels : Int) :
    f.NamedWithin levels ↔
      ∀ b, .ref b ∈ vs → st.isNode (.ref b) → st.NamedWithin b (levels - 1) := by
  induction unfolds generalizing levels with
  | nil => simp [Forest.NamedWithin]
  | @leaf v vs rest other _ ih =>
    rw [Forest.NamedWithin, ih levels]
    constructor
    · intro named b member isNode
      rcases List.mem_cons.mp member with rfl | later
      · simp [Store.isNode, other] at isNode
      · exact named b later isNode
    · exact fun named b member => named b (.tail _ member)
  | @node a n vs kids rest node _ _ ihBelow ihLater =>
    have inside : (levels - 1 ≠ 0 → kids.NamedWithin (levels - 1)) ↔
        (levels - 1 ≠ 0 → ∀ b, st.Parent a b → st.NamedWithin b (levels - 1 - 1)) := by
      simp only [ihBelow (levels - 1), Store.parent_iff node, and_imp]
    rw [Forest.NamedWithin, inside, ihLater levels, Store.viewOf,
      ← Store.namedWithin_iff node]
    constructor
    · rintro ⟨own, later⟩ b member isNode
      rcases List.mem_cons.mp member with same | member
      · cases same
        exact own
      · exact later b member isNode
    · intro named
      exact ⟨named a (.head _) (by simp [isNode, node]),
        fun b member => named b (.tail _ member)⟩

section Summary

variable {render : Renderer} (quotes : render.Quotes)
include quotes

theorem Tree.tellsIf_opened (t : Tree) (texts : ∀ e ∈ t.view.attrs, e.2.isText)
    (kids : t.kids.Legible) (levels : Int) {below : Eval String} {P : Prop} {s : Session}
    (inside : levels ≠ 0 → TellsIf P below s) :
    TellsIf (t.view.attrs.AreNamed ∧ (levels ≠ 0 → P))
      (t.opened render (.some levels) below) s := by
  by_cases last : levels = 0
  · have shown := Tree.tellsIf_shown quotes texts kids s
    rw [Tree.opened, if_pos (by simp [Levels.isZero, last])]
    exact shown.congr (by simp [last])
  · rw [Tree.opened, if_neg (by simpa [Levels.isZero] using last)]
    refine ((Display.tellsIf_attrWords quotes texts s).bind fun attrs =>
      (inside last).map _).congr ?_
    simp [last]

theorem Forest.tellsIf_summary {f : Forest} (legible : f.Legible) (levels : Int)
    (indent : String) (s : Session) :
    TellsIf (f.NamedWithin levels) (f.summary render indent (.some levels)) s := by
  induction f generalizing levels indent with
  | nil => exact .of_ok (exec_pure "" s)
  | leaf v rest ih =>
    obtain ⟨isText, later⟩ := legible
    obtain ⟨text, rfl⟩ := Value.eq_text_of_isText isText
    exact .after (quotes text s) ((ih later levels indent).map _)
  | node view kids rest ihKids ihRest =>
    obtain ⟨texts, below, later⟩ := legible
    have next : (liftM (Levels.some levels).next : Eval Levels).exec s =
        (.ok (.some (levels - 1)), s) := rfl
    have opened := Tree.tellsIf_opened quotes ⟨view, kids⟩ texts below (levels - 1)
      fun _ => ihKids below (levels - 1) (indent ++ "  ")
    exact .after next (opened.bind fun shown => (ihRest later levels indent).map _)

end Summary

theorem tellsIf_checkIndent (room indent : Int) (s : Session) :
    TellsIf (Display.checkIndent room indent = .ok ())
      (liftM (Display.checkIndent room indent) : Eval Unit) s := by
  rcases checked : Display.checkIndent room indent with fault | u
  · refine ⟨?_, fun _ => ⟨fault, s, exec_lift _ s⟩⟩
    intro same
    cases same
  · exact (TellsIf.of_ok (exec_lift _ s)).congr (by simp)

section Rendered

variable {s : Session} {a : Addr} {n : Node}

/-- Where no tree is found, none is shown or summarized. -/
theorem fails_without_tree (node : s.store.node? (.ref a) = some n) {fault : Fault}
    (tree : s.store.tree (.ref a) = .error fault) (levels indent : Value) :
    (display (.ref a)).exec s = (.error fault, s) ∧
      (summarize (.ref a) levels indent).exec s = (.error fault, s) := by
  have missing : (liftM (s.store.tree (.ref a)) : Eval Tree).exec s = (.error fault, s) := by
    rw [tree]
    exact exec_lift _ s
  rw [exec_display_node node, summarize, exec_bind_ok (exec_getStore s)]
  exact ⟨exec_bind_error missing _, exec_bind_error missing _⟩

theorem tellsIf_summarize {t : Tree} (tree : s.store.tree (.ref a) = .ok t)
    (texts : ∀ e ∈ t.view.attrs, e.2.isText) (kids : t.kids.Legible) (levels indent : Int) :
    TellsIf ((t.view.attrs.AreNamed ∧ (levels ≠ 0 → t.kids.NamedWithin levels)) ∧
        Display.checkIndent s.surroundings.room indent = .ok ())
      (summarize (.ref a) (.int levels) (.int indent)) s := by
  have quotes : display.Quotes := fun _ _ => rfl
  have found : (liftM (s.store.tree (.ref a)) : Eval Tree).exec s = (.ok t, s) := by
    rw [tree]
    exact exec_lift _ s
  have told := Tree.tellsIf_opened quotes t texts kids levels fun _ =>
    Forest.tellsIf_summary quotes kids levels (lineBreak indent ++ "  ") s
  have written := (tellsIf_checkIndent s.surroundings.room indent s).bind fun _ =>
    told.map Value.text
  exact .after (exec_getStore s)
    (.after found (.after (exec_get s) (written.congr and_comm)))

/-- A node of a legible store can be shown exactly if no node is below itself under it and the names
of its attributes are texts, and summarized exactly if this holds down to the last level and the
indentation is usable. -/
theorem tellsIf_rendered (legible : s.store.Legible) (node : s.store.node? (.ref a) = some n) :
    TellsIf (s.store.Acyclic a ∧ s.store.NamedWithin a 0) (display (.ref a)) s ∧
      ∀ levels indent : Int,
        TellsIf ((s.store.Acyclic a ∧ s.store.NamedWithin a levels) ∧
            Display.checkIndent s.surroundings.room indent = .ok ())
          (summarize (.ref a) (.int levels) (.int indent)) s := by
  -- A tree is found exactly if no node is below itself, and then the names alone decide.
  rcases tree : s.store.tree (.ref a) with fault | t
  · have cyclic : ¬ s.store.Acyclic a := by
      rw [← Store.exists_tree_iff node, tree]
      simp
    have fails := fails_without_tree node tree
    refine ⟨?_, ?_⟩
    · exact ⟨fun told => absurd told.1 cyclic, fun _ => ⟨fault, s, (fails .null .null).1⟩⟩
    · intro levels indent
      exact ⟨fun told => absurd told.1.1 cyclic, fun _ => ⟨fault, s, (fails _ _).2⟩⟩
  · have acyclic := (Store.exists_tree_iff node).mp ⟨t, tree⟩
    obtain ⟨n', node', view, unfolds⟩ := Store.tree_eq_ok tree
    cases node.symm.trans node'
    have read := Store.node?_eq_some.mp node
    have attrs : t.view.attrs = s.store.attrEntries n.attrs := by rw [view, Store.viewOf]
    have texts : ∀ e ∈ t.view.attrs, e.2.isText := attrs ▸ (legible.attrs a n read).2
    have kids := unfolds.legible legible (legible.children a n read).2
    refine ⟨(tellsIf_display tree texts kids).congr ?_, ?_⟩
    · simp [acyclic, Store.namedWithin_zero node, attrs]
    · intro levels indent
      refine (tellsIf_summarize tree texts kids levels indent).congr ?_
      have below : t.kids.NamedWithin levels ↔
          ∀ b, s.store.Parent a b → s.store.NamedWithin b (levels - 1) := by
        simp only [unfolds.namedWithin_iff levels, Store.parent_iff node, and_imp]
      simp [acyclic, Store.namedWithin_iff node, attrs, below]

end Rendered

namespace Node

/-- After any run of makings that are all accepted, a node can be shown exactly if no node is below
itself under it and the names of its attributes are texts. It can be summarized exactly if no node
is below itself, the names are texts at all nodes down to the last level, and the indentation is
usable. Otherwise both fail, and neither changes anything if it does not. -/
theorem built_nodes_render_iff {s u : Session} {ms : List Making} (empty : s.store = {})
    (built : build? ms s = some u) {a : Addr} {n : Node}
    (node : u.store.node? (.ref a) = some n) :
    TellsIf (u.store.Acyclic a ∧ u.store.NamedWithin a 0) (display (.ref a)) u ∧
      ∀ levels indent : Int,
        TellsIf ((u.store.Acyclic a ∧ u.store.NamedWithin a levels) ∧
            Display.checkIndent u.surroundings.room indent = .ok ())
          (summarize (.ref a) (.int levels) (.int indent)) u := by
  have start : s.store.Legible := empty ▸ Store.legible_empty
  exact tellsIf_rendered (legible_build? start built) node

def recordRun : List Making :=
  [.fresh (.dict []), .fresh (.tuple [.text "t"]),
    .call ⟨.text "b", .ref 0, [("x", .int 1)], .null, .ref 1, []⟩, .fresh (.list [.ref 3]),
    .fresh (.dict [(.text "tag", .text "a"), (.text "_", .ref 4)]), .record (.ref 5)]

theorem recordRun_renders_iff :
    ∃ u, (({} : Session).store = {} ∧ build? recordRun {} = some u ∧
        u.store.node? (.ref 10) = some ⟨"a", 8, 9⟩) ∧
      TellsIf (u.store.Acyclic 10 ∧ u.store.NamedWithin 10 0) (display (.ref 10)) u ∧
      ∀ levels indent : Int,
        TellsIf ((u.store.Acyclic 10 ∧ u.store.NamedWithin 10 levels) ∧
            Display.checkIndent u.surroundings.room indent = .ok ())
          (summarize (.ref 10) (.int levels) (.int indent)) u := by
  have found : ((build? recordRun {}).bind fun u => u.store.node? (.ref 10)) =
      some ⟨"a", 8, 9⟩ := by decide +kernel
  obtain ⟨u, built, node⟩ := Option.bind_eq_some_iff.mp found
  exact ⟨u, ⟨rfl, built, node⟩, built_nodes_render_iff rfl built node⟩

def unnamedRun : List Making :=
  [.fresh (.dict [(.int 1, .text "x")]), .fresh (.tuple []),
    .call ⟨.text "a", .ref 0, [], .null, .ref 1, []⟩]

def cyclicRun : List Making :=
  [.fresh (.list []), .call ⟨.text "a", .null, [], .null, .ref 0, []⟩,
    .call ⟨.text "b", .null, [], .null, .ref 0, [.ref 2]⟩]

def plainRun : List Making :=
  [.fresh (.tuple []), .call ⟨.text "a", .null, [], .null, .ref 0, []⟩]

/-- Nodes are accepted that cannot be shown, as the name of an attribute is no text or as there is a
node below itself, and an indentation can be too large to summarize a node that can be shown. -/
theorem accepted_nodes_fail :
    ((build? unnamedRun {}).map fun u =>
        (u.store.isNode (.ref 3), ((display (.ref 3)).exec u).1)) =
      some (true, .error (.wrongType "str")) ∧
    ((build? cyclicRun {}).map fun u =>
        (u.store.isNode (.ref 4), ((display (.ref 4)).exec u).1)) =
      some (true, .error .tooDeep) ∧
    ((build? plainRun {}).map fun u =>
        (u.store.isNode (.ref 3),
          ((summarize (.ref 3) (.int 1) (.int 4611686018427387904)).exec u).1)) =
      some (true, .error .tooLarge) := by
  decide +kernel

end Node

end TreeQuery
