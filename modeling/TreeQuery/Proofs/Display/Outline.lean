import TreeQuery.Proofs.Display.Summary
import TreeQuery.Proofs.Text.Lines

/-! Summaries of any number of levels, as texts of several lines: each child of a node that is
opened starts a new line, all else stands on the line where it starts, and the indentation comes
behind the line breaks and nowhere else. -/

namespace TreeQuery

open Eval Relation

namespace Display

theorem isLine_quoted (v : Value) : Text.IsLine (quoted v) := by
  cases v with
  | text s => exact Text.isLine_quote s
  | _ => exact Text.isLine_empty

theorem isLine_entryWord (e : Value × Value) : Text.IsLine (entryWord e) := by
  unfold entryWord
  split
  · next name text =>
    have space : Text.IsLine " " := by decide
    have sign : Text.IsLine "=" := by decide
    have name := Text.isLine_nameText name
    have value := Text.isLine_cut (Text.isLine_quote text) 32
    simp only [Text.isLine_append]
    exact ⟨⟨⟨space, name⟩, sign⟩, value⟩
  · exact Text.isLine_empty

theorem isLine_leafWord {v : Value} {word : String} (told : leafWord wordLimit v = .ok word) :
    Text.IsLine word := by
  cases v with
  | text s =>
    cases told
    rw [Text.isLine_append]
    exact ⟨by decide, Text.isLine_cut (Text.isLine_quote _) 32⟩
  | _ => cases told

theorem isLine_nodeWord {tag word : String} {kids : Forest} (line : Text.IsLine tag)
    (told : nodeWord wordLimit tag kids = .ok word) : Text.IsLine word := by
  have space : Text.IsLine " " := by decide
  obtain ⟨pieces, _, told⟩ := except_bind_eq_ok.mp told
  dsimp only at told
  split at told
  · cases told
    rw [Text.isLine_append]
    exact ⟨space, line⟩
  · cases told
    have colon : Text.IsLine ":" := by decide
    simp only [Text.isLine_append]
    exact ⟨⟨⟨space, line⟩, colon⟩, Text.isLine_cut (Text.isLine_quote _) 32⟩

end Display

namespace NodeView

def head (view : NodeView) : String :=
  "<" ++ view.tag ++ ":" ++ String.join (view.attrs.map Display.entryWord)

theorem openText_eq (view : NodeView) (below : String) :
    view.openText below = view.head ++ below ++ ">" := rfl

theorem isLine_head {view : NodeView} (tag : Text.IsLine view.tag) : Text.IsLine view.head := by
  have attrs : Text.IsLine (String.join (view.attrs.map Display.entryWord)) := by
    refine Text.isLine_join fun word member => ?_
    obtain ⟨e, _, rfl⟩ := List.mem_map.mp member
    exact Display.isLine_entryWord e
  have start : Text.IsLine "<" := by decide
  have colon : Text.IsLine ":" := by decide
  simp only [head, Text.isLine_append]
  exact ⟨⟨⟨start, tag⟩, colon⟩, attrs⟩

theorem isLine_close : Text.IsLine ">" := by decide

theorem isLine_openText {view : NodeView} {below : String} (tag : Text.IsLine view.tag)
    (line : Text.IsLine below) : Text.IsLine (view.openText below) := by
  simp only [openText_eq, Text.isLine_append]
  exact ⟨⟨isLine_head tag, line⟩, isLine_close⟩

theorem indented_openText {view : NodeView} (tag : Text.IsLine view.tag) (width : Nat)
    (below : String) :
    Text.indented width (view.openText below) = view.openText (Text.indented width below) := by
  simp only [openText_eq, Text.indented_append, Text.indented_of_isLine width (isLine_head tag),
    Text.indented_of_isLine width isLine_close]

theorem lineBreaks_openText {view : NodeView} (tag : Text.IsLine view.tag) (below : String) :
    Text.lineBreaks (view.openText below) = Text.lineBreaks below := by
  simp [openText_eq, Text.lineBreaks_eq_zero.mpr (isLine_head tag),
    Text.lineBreaks_eq_zero.mpr isLine_close]

end NodeView

namespace Forest

def wordText (f : Forest) : String :=
  match f.words with
  | .ok words => String.join words
  | .error _ => ""

/-- What is written of some children, each behind the same line break: nodes are opened as long as
levels are left, and are shown on one line where none is. `levels` are those of the node that holds
the children. -/
def outline (indent : String) (levels : Int) : Forest → String
  | nil => ""
  | leaf v rest => indent ++ Display.quoted v ++ rest.outline indent levels
  | node view kids rest =>
    indent ++ view.openText (if levels - 1 = 0 then kids.wordText
      else kids.outline (indent ++ "  ") (levels - 1)) ++ rest.outline indent levels

end Forest

def Tree.outline (indent : String) (levels : Int) (t : Tree) : String :=
  t.view.openText (if levels = 0 then t.kids.wordText else t.kids.outline indent levels)

section Written

variable {render : Renderer} (quotes : render.Quotes)
include quotes

theorem Tree.exec_shown {t : Tree} (texts : Entries.AreTexts t.view.attrs)
    (formed : t.kids.Formed) (s : Session) :
    (t.shown render).exec s = (.ok (t.view.openText t.kids.wordText), s) := by
  obtain ⟨words, told⟩ := formed.legible.exists_words
  have line : (t.line render).exec s = (.ok (t.view.openText t.kids.wordText), s) := by
    rw [Tree.line, exec_bind_ok (Display.exec_attrWords quotes texts s), told, Forest.wordText,
      told]
    rfl
  rw [Tree.shown, exec_tryCatch, line]

theorem Tree.exec_opened_within {t : Tree} (texts : Entries.AreTexts t.view.attrs)
    (formed : t.kids.Formed) (levels : Int) {below : Eval String} {told : String} {s : Session}
    (run : below.exec s = (.ok told, s)) : (t.opened render (.some levels) below).exec s =
      (.ok (t.view.openText (if levels = 0 then t.kids.wordText else told)), s) := by
  by_cases last : levels = 0
  · rw [Tree.opened, if_pos (by simp [Levels.isZero, last]), if_pos last]
    exact Tree.exec_shown quotes texts formed s
  · rw [Tree.opened, if_neg (by simpa [Levels.isZero] using last), if_neg last,
      exec_bind_ok (Display.exec_attrWords quotes texts s), exec_bind_ok run]
    rfl

theorem Forest.exec_summary_within {f : Forest} (formed : f.Formed) (levels : Int)
    (indent : String) (s : Session) :
    (f.summary render indent (.some levels)).exec s = (.ok (f.outline indent levels), s) := by
  induction f generalizing levels indent with
  | nil => rfl
  | leaf v rest ih =>
    obtain ⟨isText, later⟩ := formed
    obtain ⟨text, rfl⟩ := Value.eq_text_of_isText isText
    rw [summary, exec_bind_ok (quotes text s), exec_bind_ok (ih later levels indent)]
    rfl
  | node view kids rest ihKids ihRest =>
    obtain ⟨texts, below, later⟩ := formed
    have next : (liftM (Levels.some levels).next : Eval Levels).exec s =
        (.ok (.some (levels - 1)), s) := rfl
    have node := Tree.exec_opened_within quotes (t := ⟨view, kids⟩) texts below (levels - 1)
      (ihKids below (levels - 1) (indent ++ "  "))
    rw [summary, exec_bind_ok next, exec_bind_ok node, exec_bind_ok (ihRest later levels indent)]
    rfl

end Written

namespace Forest

def TagsAreLines (f : Forest) : Prop := ∀ m ∈ f.preorder, Text.IsLine m.tag

theorem tagsAreLines_node {view : NodeView} {kids rest : Forest} :
    (node view kids rest).TagsAreLines ↔
      Text.IsLine view.tag ∧ kids.TagsAreLines ∧ rest.TagsAreLines := by
  simp [TagsAreLines, preorder, or_imp, forall_and]

variable {f : Forest}

theorem isLine_wordText (lines : f.TagsAreLines) : Text.IsLine f.wordText := by
  have all : ∀ words, f.words = .ok words → ∀ word ∈ words, Text.IsLine word := by
    induction f with
    | nil =>
      intro words told
      cases told
      simp
    | leaf v rest ih =>
      intro words told
      obtain ⟨word, first, told⟩ := except_bind_eq_ok.mp told
      obtain ⟨others, later, told⟩ := except_bind_eq_ok.mp told
      cases told
      exact List.forall_mem_cons.mpr ⟨Display.isLine_leafWord first, ih lines others later⟩
    | node view kids rest _ ih =>
      obtain ⟨tag, _, behind⟩ := tagsAreLines_node.mp lines
      intro words told
      obtain ⟨word, first, told⟩ := except_bind_eq_ok.mp told
      obtain ⟨others, later, told⟩ := except_bind_eq_ok.mp told
      cases told
      exact List.forall_mem_cons.mpr ⟨Display.isLine_nodeWord tag first, ih behind others later⟩
  unfold wordText
  split
  · next words told => exact Text.isLine_join (all words told)
  · exact Text.isLine_empty

/-- Behind a wider line break, the same lines are indented. -/
theorem outline_indented (lines : f.TagsAreLines) (width : Nat) (indent : String) (levels : Int) :
    f.outline (Text.indented width indent) levels =
      Text.indented width (f.outline indent levels) := by
  induction f generalizing indent levels with
  | nil => rfl
  | leaf v rest ih =>
    have value := Text.indented_of_isLine width (Display.isLine_quoted v)
    simp only [outline, Text.indented_append, value, ih lines]
  | node view kids rest ihKids ihRest =>
    obtain ⟨tag, below, behind⟩ := tagsAreLines_node.mp lines
    have spaces : Text.indented width "  " = "  " := Text.indented_of_isLine width (by decide)
    have deeper := ihKids below (indent ++ "  ") (levels - 1)
    rw [Text.indented_append, spaces] at deeper
    simp only [outline, Text.indented_append, NodeView.indented_openText tag, ihRest behind,
      deeper]
    split
    · rw [Text.indented_of_isLine width (isLine_wordText below)]
    · rfl

def openedChildren (levels : Int) : Forest → Nat
  | nil => 0
  | leaf _ rest => 1 + rest.openedChildren levels
  | node _ kids rest =>
    1 + (if levels - 1 = 0 then 0 else kids.openedChildren (levels - 1)) +
      rest.openedChildren levels

theorem lineBreaks_outline (lines : f.TagsAreLines) {indent : String}
    (one : Text.lineBreaks indent = 1) (levels : Int) :
    Text.lineBreaks (f.outline indent levels) = f.openedChildren levels := by
  induction f generalizing indent levels with
  | nil => rfl
  | leaf v rest ih =>
    have value := Text.lineBreaks_eq_zero.mpr (Display.isLine_quoted v)
    simp only [outline, openedChildren, Text.lineBreaks_append, one, value, ih lines one]
  | node view kids rest ihKids ihRest =>
    obtain ⟨tag, below, behind⟩ := tagsAreLines_node.mp lines
    have deeper : Text.lineBreaks (indent ++ "  ") = 1 := by
      rw [Text.lineBreaks_append, one]
      decide
    simp only [outline, openedChildren, Text.lineBreaks_append, NodeView.lineBreaks_openText tag,
      one, ihRest behind one]
    split
    · rw [Text.lineBreaks_eq_zero.mpr (isLine_wordText below)]
    · rw [ihKids below deeper]

/-- Every node of a forest stands deeper than the node that holds it. -/
theorem length_lt_of_placesFrom {above : List Nat} {i : Nat} {p : Addr × List Nat}
    (member : p ∈ f.placesFrom above i) : above.length < p.2.length := by
  induction f generalizing above i with
  | nil => cases member
  | leaf v rest ih => exact ih member
  | node view kids rest ihKids ihRest =>
    rcases List.mem_cons.mp member with rfl | member
    · simp
    · rcases List.mem_append.mp member with inside | behind
      · have deeper := ihKids inside
        simp only [List.length_append, List.length_cons, List.length_nil] at deeper
        omega
      · exact ihRest behind

end Forest

/-- A node at a place is opened in a summary of so many levels: it stands less deep, or the levels
are negative. -/
def IsOpened (levels : Int) (place : List Nat) : Prop := levels < 0 ∨ (place.length : Int) < levels

instance (levels : Int) (place : List Nat) : Decidable (IsOpened levels place) :=
  inferInstanceAs (Decidable (levels < 0 ∨ (place.length : Int) < levels))

namespace Store

variable (st : Store)

def childCount (a : Addr) : Nat :=
  ((st.node? (.ref a)).map fun n => (st.childrenOf n).length).getD 0

/-- How many children those of the nodes have that are opened at their places. A node that stands at
several places counts at each. -/
def openedChildren (levels : Int) (places : List (Addr × List Nat)) : Nat :=
  ((places.filter fun p => IsOpened levels p.2).map fun p => st.childCount p.1).sum

variable {st}

theorem openedChildren_append (levels : Int) (ps qs : List (Addr × List Nat)) :
    st.openedChildren levels (ps ++ qs) =
      st.openedChildren levels ps + st.openedChildren levels qs := by
  simp [openedChildren]

theorem openedChildren_cons (levels : Int) (p : Addr × List Nat) (ps : List (Addr × List Nat)) :
    st.openedChildren levels (p :: ps) =
      (if IsOpened levels p.2 then st.childCount p.1 else 0) + st.openedChildren levels ps := by
  by_cases opened : IsOpened levels p.2 <;> simp [openedChildren, opened]

theorem openedChildren_eq_zero {levels : Int} {places : List (Addr × List Nat)}
    (closed : ∀ p ∈ places, ¬ IsOpened levels p.2) : st.openedChildren levels places = 0 := by
  have none : places.filter (fun p => IsOpened levels p.2) = [] := by
    simpa [List.filter_eq_nil_iff] using closed
  rw [openedChildren, none]
  rfl

theorem childCount_viewOf {a : Addr} {n : Node} (node : st.node? (.ref a) = some n) :
    st.childCount (st.viewOf a n).id = (st.childrenOf n).length := by
  simp [childCount, viewOf, node]

/-- The children that a summary goes over are those of the nodes at the places that are opened. -/
theorem Unfolds.openedChildren {vs : List Value} {f : Forest} (unfolds : st.Unfolds vs f)
    {levels : Int} {above : List Nat} (opened : IsOpened levels above) (i : Nat) :
    f.openedChildren (levels - above.length) =
      vs.length + st.openedChildren levels (f.placesFrom above i) := by
  induction unfolds generalizing above i with
  | nil => rfl
  | leaf other _ ih =>
    rw [Forest.openedChildren, Forest.placesFrom, ih opened (i + 1), List.length_cons]
    omega
  | @node a n vs kids rest node _ _ ihBelow ihLater =>
    have length : (above ++ [i]).length = above.length + 1 := by simp
    simp only [Forest.openedChildren, Forest.placesFrom, ihLater opened (i + 1),
      openedChildren_cons, openedChildren_append, childCount_viewOf node, List.length_cons]
    -- Each index of a place takes one of the levels, so a node is opened exactly if some are left.
    by_cases deeper : IsOpened levels (above ++ [i])
    · have left : levels - above.length - 1 ≠ 0 := by
        rcases deeper with negative | less <;> omega
      have same : levels - (above.length : Int) - 1 = levels - (above ++ [i]).length := by omega
      rw [if_neg left, if_pos deeper, same, ihBelow deeper 0]
      omega
    · have last : levels - above.length - 1 = 0 := by
        simp only [IsOpened] at opened deeper
        omega
      have closed : st.openedChildren levels (kids.placesFrom (above ++ [i]) 0) = 0 := by
        refine openedChildren_eq_zero fun p member shown => deeper ?_
        have further := Forest.length_lt_of_placesFrom member
        simp only [IsOpened] at shown ⊢
        omega
      rw [if_pos last, if_neg deeper, closed]
      omega

def TagsAreLines (st : Store) (root : Addr) : Prop :=
  ∀ a n, ReflTransGen st.Parent root a → st.node? (.ref a) = some n → Text.IsLine n.tag

theorem TagsAreLines.below {a b : Addr} (lines : st.TagsAreLines a)
    (path : ReflTransGen st.Parent a b) : st.TagsAreLines b :=
  fun _ _ further => lines _ _ (path.trans further)

theorem TagsAreLines.of_tree {a : Addr} {t : Tree} (lines : st.TagsAreLines a)
    (tree : st.tree (.ref a) = .ok t) : Text.IsLine t.view.tag ∧ t.kids.TagsAreLines := by
  have all : ∀ m ∈ t.preorder, Text.IsLine m.tag := by
    intro m member
    obtain ⟨b, n, path, node, rfl⟩ := ((preorder_of_tree tree).mem_iff m).mp member
    exact lines b n path node
  exact List.forall_mem_cons.mp all

end Store

namespace Tree

variable {t : Tree}

theorem outline_indented (tag : Text.IsLine t.view.tag) (lines : t.kids.TagsAreLines) (width : Nat)
    (indent : String) (levels : Int) :
    t.outline (Text.indented width indent) levels =
      Text.indented width (t.outline indent levels) := by
  rw [outline, outline, NodeView.indented_openText tag]
  split
  · rw [Text.indented_of_isLine width (Forest.isLine_wordText lines)]
  · rw [Forest.outline_indented lines]

theorem lineBreaks_outline {st : Store} {a : Addr} (tree : st.tree (.ref a) = .ok t)
    (lines : st.TagsAreLines a) {indent : String} (one : Text.lineBreaks indent = 1)
    (levels : Int) :
    Text.lineBreaks (t.outline indent levels) = st.openedChildren levels t.places := by
  obtain ⟨n, node, view, unfolds⟩ := Store.tree_eq_ok tree
  obtain ⟨tag, below⟩ := lines.of_tree tree
  rw [outline, NodeView.lineBreaks_openText tag, places, Store.openedChildren_cons]
  simp only [view, Store.childCount_viewOf node]
  by_cases last : levels = 0
  · have closed : ∀ place : List Nat, ¬ IsOpened levels place := by
      intro place
      simp only [IsOpened]
      omega
    rw [if_pos last, if_neg (closed []), Text.lineBreaks_eq_zero.mpr (Forest.isLine_wordText below),
      Store.openedChildren_eq_zero fun p _ => closed p.2]
  · have opened : IsOpened levels [] := by
      simp only [IsOpened, List.length_nil]
      omega
    have children := unfolds.openedChildren opened 0
    rw [List.length_nil, Int.ofNat_zero, Int.sub_zero] at children
    rw [if_neg last, if_pos opened, Forest.lineBreaks_outline below one, children]

end Tree

theorem Tree.isLine_outline {st : Store} {a : Addr} {t : Tree} (tree : st.tree (.ref a) = .ok t)
    (lines : st.TagsAreLines a) (indent : String) : Text.IsLine (t.outline indent 0) := by
  obtain ⟨tag, below⟩ := lines.of_tree tree
  rw [outline, if_pos rfl]
  exact NodeView.isLine_openText tag (Forest.isLine_wordText below)

theorem lineBreak_eq_indented (indent : Int) :
    lineBreak indent ++ "  " = Text.indented (2 * indent.toNat) (lineBreak 0 ++ "  ") := by
  have first : lineBreak 0 ++ "  " = "\n" ++ "  " := rfl
  have spaces : Text.IsLine "  " := by decide
  rw [first, Text.indented_append, Text.indented_of_isLine _ spaces]
  simp [lineBreak, Text.indented]

/-- What a summary of a well-formed tree comes to: the outline of the tree, if the indentation can
be made. -/
theorem exec_summarize_outline {s : Session} {a : Addr} {t : Tree} (formed : s.store.Formed a)
    (tree : s.store.tree (.ref a) = .ok t) (levels indent : Int) :
    (summarize (.ref a) (.int levels) (.int indent)).exec s =
      ((Display.checkIndent s.surroundings.room indent).map fun _ =>
        .text (t.outline (lineBreak indent ++ "  ") levels), s) := by
  obtain ⟨t', tree', texts, kids⟩ := formed.tree
  cases tree.symm.trans tree'
  have quotes : display.Quotes := fun _ _ => rfl
  have below := Forest.exec_summary_within quotes kids levels (lineBreak indent ++ "  ") s
  have opened := Tree.exec_opened_within quotes texts kids levels below
  have found : (liftM (s.store.tree (.ref a)) : Eval Tree).exec s = (.ok t, s) := by
    rw [tree]
    exact exec_lift _ s
  rw [summarize, exec_bind_ok (exec_getStore s), exec_bind_ok found]
  simp only [Store.index?]
  rw [exec_bind_ok (exec_get s), exec_bind, exec_lift]
  rcases Display.checkIndent s.surroundings.room indent with fault | ⟨⟩
  · rfl
  · exact exec_bind_ok opened _

theorem Display.quotes_valueWithin (fuel : Nat) (opened : List Addr) :
    Renderer.Quotes (valueWithin fuel opened) := by
  intro text s
  cases fuel <;> rfl

theorem Display.exec_valueWithin_outline {s : Session} {a : Addr} {t : Tree}
    (formed : s.store.Formed a) (tree : s.store.tree (.ref a) = .ok t) (indent : String)
    (fuel : Nat) (opened : List Addr) :
    (valueWithin (fuel + 1) opened (.ref a)).exec s = (.ok (t.outline indent 0), s) := by
  obtain ⟨t', tree', texts, kids⟩ := formed.tree
  cases tree.symm.trans tree'
  obtain ⟨n, node, _⟩ := Store.tree_eq_ok tree
  have found : (liftM (s.store.tree (.ref a)) : Eval Tree).exec s = (.ok t, s) := by
    rw [tree]
    exact exec_lift _ s
  rw [exec_valueWithin_node node, exec_bind_ok found,
    Tree.exec_shown (quotes_valueWithin fuel opened) texts kids s]
  rfl

/-- How the summaries of a node depend on the indentation: with an indentation that can be made, a
summary is the one without, with two spaces a level behind each line break, and there are as many
line breaks as children of nodes that are opened. -/
structure Indents (s : Session) (a : Addr) (t : Tree) (levels : Int) (text : String) : Prop where
  plain : (summarize (.ref a) (.int levels) (.int 0)).exec s = (.ok (.text text), s)
  indented (indent : Int) : Display.checkIndent s.surroundings.room indent = .ok () →
    (summarize (.ref a) (.int levels) (.int indent)).exec s =
        (.ok (.text (Text.indented (2 * indent.toNat) text)), s) ∧
      Text.lineBreaks (Text.indented (2 * indent.toNat) text) =
        s.store.openedChildren levels t.places
  refused (indent : Int) (fault : Fault) :
    Display.checkIndent s.surroundings.room indent = .error fault →
    (summarize (.ref a) (.int levels) (.int indent)).exec s = (.error fault, s)
  shown : levels = 0 → (display (.ref a)).exec s = (.ok text, s) ∧ Text.IsLine text

/-- Whatever the texts, names and values in a well-formed tree, if its tags have no line breaks then
the only line breaks in its summaries are those in front of the children of nodes that are opened,
and indentation comes right behind them. -/
theorem summaries_break_at_children (s : Session) (a : Addr) (formed : s.store.Formed a)
    (lines : s.store.TagsAreLines a) :
    ∃ t, s.store.tree (.ref a) = .ok t ∧ ∀ levels : Int, ∃ text, Indents s a t levels text := by
  obtain ⟨t, tree, texts, kids⟩ := formed.tree
  refine ⟨t, tree, fun levels => ⟨t.outline (lineBreak 0 ++ "  ") levels, ?_⟩⟩
  obtain ⟨tag, below⟩ := lines.of_tree tree
  have runs := exec_summarize_outline formed tree levels
  have one : Text.lineBreaks (lineBreak 0 ++ "  ") = 1 := by decide
  have breaks := Tree.lineBreaks_outline tree lines one levels
  constructor
  · rw [runs 0, Display.checkIndent_zero]
    rfl
  · intro indent usable
    have wider := Tree.outline_indented tag below (2 * indent.toNat) (lineBreak 0 ++ "  ") levels
    rw [← lineBreak_eq_indented] at wider
    refine ⟨?_, by rw [Text.lineBreaks_indented, breaks]⟩
    rw [runs indent, usable, ← wider]
    rfl
  · intro indent fault refused
    rw [runs indent, refused]
    rfl
  · rintro rfl
    refine ⟨Display.exec_valueWithin_outline formed tree _ 999 [], ?_⟩
    exact Tree.isLine_outline tree lines _

def Store.broken : Store where
  objects := #[.list [.text "u\nv"], .dict [(.text "a\nb", .text "x\ny")], .node ⟨"c", 1, 0⟩,
    .list [.ref 2, .text "\n", .ref 2], .dict [], .node ⟨"a", 4, 3⟩]

theorem Store.formed_broken : broken.Formed 5 :=
  formed_of_earlier rfl (by decide)

theorem Store.tagsAreLines_of_all {st : Store} {root : Addr}
    (all : ∀ a < st.size, ∀ n ∈ st.node? (.ref a), Text.IsLine n.tag) : st.TagsAreLines root :=
  fun a n _ node => all a (lt_of_node? node) n node

theorem Store.tagsAreLines_broken : broken.TagsAreLines 5 :=
  tagsAreLines_of_all (by decide)

theorem broken_summaries_break_at_children :
    Store.broken.Formed 5 ∧ Store.broken.TagsAreLines 5 ∧
      ∃ t, Store.broken.tree (.ref 5) = .ok t ∧
        ∀ levels : Int, ∃ text, Indents { store := .broken } 5 t levels text :=
  ⟨Store.formed_broken, Store.tagsAreLines_broken, summaries_break_at_children
    { store := .broken } 5 Store.formed_broken Store.tagsAreLines_broken⟩

/-- Not every indentation can be made: with one that is too wide, a tree is not summarized that has
summaries otherwise. -/
theorem too_wide_indentation_stops :
    Store.broken.Formed 5 ∧ Store.broken.TagsAreLines 5 ∧
      (∃ text, (summarize (.ref 5) (.int 1) (.int 0)).exec { store := .broken } =
        (.ok (.text text), { store := .broken })) ∧
      (summarize (.ref 5) (.int 1) (.int 4611686018427387904)).exec { store := .broken } =
        (.error .tooLarge, { store := .broken }) :=
  ⟨Store.formed_broken, Store.tagsAreLines_broken, ⟨_, rfl⟩, rfl⟩

end TreeQuery
