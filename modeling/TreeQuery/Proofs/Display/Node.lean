import TreeQuery.Display.Value
import TreeQuery.Proofs.Evaluation
import TreeQuery.Proofs.Store.TextKeys
import TreeQuery.Proofs.Tree.Formed

namespace TreeQuery

open Eval

def Entries.AreTexts (es : Entries) : Prop := ∀ e ∈ es, e.1.isText ∧ e.2.isText

def Entries.AreNamed (es : Entries) : Prop := ∀ e ∈ es, e.1.isText

/-- What is no node is a text, and so are the values of all attributes, whatever their names. -/
def Forest.Legible : Forest → Prop
  | .nil => True
  | .leaf v rest => v.isText ∧ rest.Legible
  | .node view kids rest => (∀ e ∈ view.attrs, e.2.isText) ∧ kids.Legible ∧ rest.Legible

def Forest.Formed : Forest → Prop
  | .nil => True
  | .leaf v rest => v.isText ∧ rest.Formed
  | .node view kids rest => Entries.AreTexts view.attrs ∧ kids.Formed ∧ rest.Formed

namespace Store

variable {st : Store}

def AreFormed (st : Store) (vs : List Value) : Prop :=
  ∀ v ∈ vs, st.isChild v ∧ ∀ a, v = .ref a → st.isNode v → st.Formed a

theorem Formed.areFormed {a : Addr} {n : Node} (formed : st.Formed a)
    (node : st.node? (.ref a) = some n) : st.AreFormed (st.childrenOf n) := by
  intro v member
  refine ⟨formed.children a n .refl node v member, ?_⟩
  rintro b rfl isNode
  exact formed.below (.single ⟨n, node, member, isNode⟩)

theorem Unfolds.formed {vs : List Value} {f : Forest} (unfolds : st.Unfolds vs f)
    (fine : st.AreFormed vs) : f.Formed := by
  induction unfolds with
  | nil => trivial
  | leaf other _ ih =>
    obtain ⟨⟨child, _⟩, fine'⟩ := List.forall_mem_cons.mp fine
    exact ⟨by simpa [isChild, isNode, other] using child, ih fine'⟩
  | @node a n vs kids rest node _ _ ihBelow ihLater =>
    obtain ⟨⟨_, trees⟩, fine'⟩ := List.forall_mem_cons.mp fine
    have formed := trees a rfl (by simp [isNode, node])
    exact ⟨formed.attrs a n .refl node, ihBelow (formed.areFormed node), ihLater fine'⟩

theorem Formed.tree {a : Addr} (formed : st.Formed a) :
    ∃ t, st.tree (.ref a) = .ok t ∧ Entries.AreTexts t.view.attrs ∧ t.kids.Formed := by
  obtain ⟨t, tree⟩ := formed.exists_tree
  obtain ⟨n, node, view, unfolds⟩ := tree_eq_ok tree
  refine ⟨t, tree, ?_, unfolds.formed (formed.areFormed node)⟩
  rw [view]
  exact formed.attrs a n .refl node

end Store

theorem Display.cutTo_wordLimit (shown : String) :
    Display.cutTo Display.wordLimit shown = .ok (Text.cut 32 shown) := rfl

namespace Forest

theorem Formed.legible {f : Forest} (formed : f.Formed) : f.Legible := by
  induction f with
  | nil => trivial
  | leaf v rest ih => exact ⟨formed.1, ih formed.2⟩
  | node view kids rest ihKids ihRest =>
    obtain ⟨texts, kids', rest'⟩ := formed
    exact ⟨fun e member => (texts e member).2, ihKids kids', ihRest rest'⟩

theorem Legible.exists_texts {f : Forest} (legible : f.Legible) :
    ∃ pieces, f.texts = .ok pieces := by
  induction f with
  | nil => exact ⟨[], rfl⟩
  | leaf v rest ih =>
    obtain ⟨isText, rest'⟩ := legible
    obtain ⟨text, rfl⟩ := Value.eq_text_of_isText isText
    obtain ⟨pieces, later⟩ := ih rest'
    exact ⟨text :: pieces, by rw [texts, later]; rfl⟩
  | node view kids rest ihKids ihRest =>
    obtain ⟨_, kids', rest'⟩ := legible
    obtain ⟨inside, inner⟩ := ihKids kids'
    obtain ⟨behind, later⟩ := ihRest rest'
    exact ⟨inside ++ behind, by rw [texts, inner, later]; rfl⟩

theorem Legible.exists_word {kids : Forest} (legible : kids.Legible) (tag : String) :
    ∃ word, Display.nodeWord Display.wordLimit tag kids = .ok word := by
  obtain ⟨pieces, inner⟩ := legible.exists_texts
  simp only [Display.nodeWord, inner, Display.cutTo_wordLimit, bind, Except.bind]
  split
  · exact ⟨_, rfl⟩
  · exact ⟨_, rfl⟩

theorem Legible.exists_words {f : Forest} (legible : f.Legible) :
    ∃ told, f.words = .ok told := by
  induction f with
  | nil => exact ⟨[], rfl⟩
  | leaf v rest ih =>
    obtain ⟨isText, rest'⟩ := legible
    obtain ⟨text, rfl⟩ := Value.eq_text_of_isText isText
    obtain ⟨told, later⟩ := ih rest'
    have word : Display.leafWord Display.wordLimit (.text text) =
        .ok (" " ++ Text.cut 32 (Text.quote (Display.collapsed text))) := rfl
    exact ⟨_, by rw [words, word, later]; rfl⟩
  | node view kids rest ihKids ihRest =>
    obtain ⟨_, kids', rest'⟩ := legible
    obtain ⟨word, first⟩ := kids'.exists_word view.tag
    obtain ⟨told, later⟩ := ihRest rest'
    exact ⟨word :: told, by rw [words, first, later]; rfl⟩

end Forest

namespace Eval

/-- In one session, an evaluation comes to a result and changes nothing if a condition is met, and
fails otherwise. -/
structure TellsIf {α : Type} (P : Prop) (x : Eval α) (s : Session) : Prop where
  tells : P → ∃ a, x.exec s = (.ok a, s)
  fails : ¬ P → ∃ fault t, x.exec s = (.error fault, t)

namespace TellsIf

variable {α β : Type} {P Q : Prop} {x : Eval α} {s : Session}

theorem of_ok {a : α} (done : x.exec s = (.ok a, s)) : TellsIf True x s :=
  ⟨fun _ => ⟨a, done⟩, fun not => absurd trivial not⟩

theorem congr (told : TellsIf P x s) (same : P ↔ Q) : TellsIf Q x s :=
  ⟨fun q => told.tells (same.mpr q), fun not => told.fails fun p => not (same.mp p)⟩

theorem bind {f : α → Eval β} (first : TellsIf P x s) (second : ∀ a, TellsIf Q (f a) s) :
    TellsIf (P ∧ Q) (x >>= f) s := by
  constructor
  · rintro ⟨p, q⟩
    obtain ⟨a, done⟩ := first.tells p
    rw [exec_bind_ok done]
    exact (second a).tells q
  · intro not
    by_cases p : P
    · obtain ⟨a, done⟩ := first.tells p
      rw [exec_bind_ok done]
      exact (second a).fails fun q => not ⟨p, q⟩
    · obtain ⟨fault, t, stops⟩ := first.fails p
      exact ⟨fault, t, exec_bind_error stops _⟩

theorem after {f : α → Eval β} {a : α} (first : x.exec s = (.ok a, s)) (told : TellsIf P (f a) s) :
    TellsIf P (x >>= f) s := by
  constructor <;> rw [exec_bind_ok first]
  · exact told.tells
  · exact told.fails

theorem map (told : TellsIf P x s) (f : α → β) : TellsIf P (x >>= fun a => pure (f a)) s :=
  (told.bind fun a => of_ok (exec_pure (f a) s)).congr (and_iff_left trivial)

end TellsIf

end Eval

def Renderer.Quotes (render : Renderer) : Prop :=
  ∀ text s, (render (.text text)).exec s = (.ok (Text.quote text), s)

namespace Display

def entryWord : Value × Value → String
  | (.text name, .text text) => " " ++ nameText name ++ "=" ++ Text.cut 32 (Text.quote text)
  | _ => ""

theorem exec_attrWord {render : Renderer} (quotes : render.Quotes) (name text : String)
    (s : Session) : (attrWord render wordLimit (.text name) (.text text)).exec s =
      (.ok (entryWord (.text name, .text text)), s) := by
  rw [attrWord, exec_bind_ok (quotes text s)]
  rfl

theorem exec_attrWords {render : Renderer} (quotes : render.Quotes) {es : Entries}
    (texts : Entries.AreTexts es) (s : Session) :
    (attrWords render es).exec s = (.ok (String.join (es.map entryWord)), s) := by
  have words : (es.mapM fun e => attrWord render wordLimit e.1 e.2).exec s =
      (.ok (es.map entryWord), s) := by
    induction es with
    | nil => rfl
    | cons e es ih =>
      obtain ⟨⟨isName, isText⟩, others⟩ := List.forall_mem_cons.mp texts
      obtain ⟨key, value⟩ := e
      obtain ⟨name, rfl⟩ := Value.eq_text_of_isText isName
      obtain ⟨text, rfl⟩ := Value.eq_text_of_isText isText
      rw [exec_mapM_cons, exec_bind_ok (exec_attrWord quotes name text s),
        exec_bind_ok (ih others)]
      rfl
  exact exec_bind_ok words _

end Display

theorem Display.exec_attrWords_unnamed {render : Renderer} (quotes : render.Quotes) {es : Entries}
    (texts : ∀ e ∈ es, e.2.isText) (unnamed : ¬ es.AreNamed) (s : Session) :
    (attrWords render es).exec s = (.error (.wrongType "str"), s) := by
  have stops : (es.mapM fun e => attrWord render wordLimit e.1 e.2).exec s =
      (.error (.wrongType "str"), s) := by
    induction es with
    | nil => exact absurd (by simp [Entries.AreNamed]) unnamed
    | cons e es ih =>
      obtain ⟨isText, others⟩ := List.forall_mem_cons.mp texts
      obtain ⟨key, value⟩ := e
      obtain ⟨text, rfl⟩ := Value.eq_text_of_isText isText
      by_cases isName : key.isText
      · obtain ⟨name, rfl⟩ := Value.eq_text_of_isText isName
        have later : ¬ Entries.AreNamed es := fun named =>
          unnamed (List.forall_mem_cons.mpr ⟨rfl, named⟩)
        rw [exec_mapM_cons, exec_bind_ok (exec_attrWord quotes name text s)]
        exact exec_bind_error (ih others later) _
      · have refused : (attrWord render wordLimit key (.text text)).exec s =
            (.error (.wrongType "str"), s) := by
          cases key with
          | text name => exact absurd rfl isName
          | _ => rfl
        rw [exec_mapM_cons]
        exact exec_bind_error refused _
  exact exec_bind_error stops _

section Shown

variable {render : Renderer} (quotes : render.Quotes)
include quotes

theorem Display.tellsIf_attrWords {es : Entries} (texts : ∀ e ∈ es, e.2.isText) (s : Session) :
    TellsIf es.AreNamed (attrWords render es) s where
  tells named := ⟨_, exec_attrWords quotes (fun e member => ⟨named e member, texts e member⟩) s⟩
  fails unnamed := ⟨_, _, exec_attrWords_unnamed quotes texts unnamed s⟩

theorem Tree.tellsIf_shown {t : Tree} (texts : ∀ e ∈ t.view.attrs, e.2.isText)
    (kids : t.kids.Legible) (s : Session) : TellsIf t.view.attrs.AreNamed (t.shown render) s := by
  obtain ⟨words, told⟩ := kids.exists_words
  constructor
  · intro named
    obtain ⟨attrs, written⟩ := (Display.tellsIf_attrWords quotes texts s).tells named
    have line : ∃ text, (t.line render).exec s = (.ok text, s) := by
      rw [Tree.line, exec_bind_ok written, told]
      exact ⟨_, rfl⟩
    obtain ⟨text, done⟩ := line
    refine ⟨text, ?_⟩
    rw [Tree.shown, exec_tryCatch, done]
  · intro unnamed
    have refused := Display.exec_attrWords_unnamed quotes texts unnamed s
    have line : (t.line render).exec s = (.error (.wrongType "str"), s) := by
      rw [Tree.line]
      exact exec_bind_error refused _
    refine ⟨.wrongType "str", s, ?_⟩
    rw [Tree.shown, exec_tryCatch, line]
    rfl

end Shown

/-- To show a node is to find its tree and to show this, inside whatever containers. -/
theorem Display.exec_valueWithin_node {a : Addr} {n : Node} {s : Session}
    (node : s.store.node? (.ref a) = some n) (fuel : Nat) (opened : List Addr) :
    (valueWithin (fuel + 1) opened (.ref a)).exec s =
      (liftM (s.store.tree (.ref a)) >>= Tree.shown (valueWithin fuel opened)).exec s := by
  have read : s.store.read? a = some (.node n) := Store.node?_eq_some.mp node
  rw [valueWithin, exec_bind_ok (exec_getStore s)]
  simp only [read, reopened?]
  rw [ofObject, exec_bind_ok (exec_getStore s)]

theorem exec_display_node {a : Addr} {n : Node} {s : Session}
    (node : s.store.node? (.ref a) = some n) : (display (.ref a)).exec s =
      (liftM (s.store.tree (.ref a)) >>= Tree.shown (Display.valueWithin 999 [])).exec s :=
  Display.exec_valueWithin_node node 999 []

/-- A node of a legible tree can be shown if its attributes have names. -/
theorem tellsIf_display {a : Addr} {s : Session} {t : Tree}
    (tree : s.store.tree (.ref a) = .ok t) (texts : ∀ e ∈ t.view.attrs, e.2.isText)
    (kids : t.kids.Legible) : TellsIf t.view.attrs.AreNamed (display (.ref a)) s := by
  obtain ⟨n, node, _⟩ := Store.tree_eq_ok tree
  have quotes : Renderer.Quotes (Display.valueWithin 999 []) := fun _ _ => rfl
  have found : (liftM (s.store.tree (.ref a)) : Eval Tree).exec s = (.ok t, s) := by
    rw [tree]
    exact exec_lift _ s
  have shown := TellsIf.after found (Tree.tellsIf_shown quotes texts kids s)
  constructor <;> rw [exec_display_node node]
  · exact shown.tells
  · exact shown.fails

/-- A node of a well-formed tree can be shown. -/
theorem exec_display_formed {a : Addr} {s : Session} (formed : s.store.Formed a) :
    ∃ text, (display (.ref a)).exec s = (.ok text, s) := by
  obtain ⟨t, tree, attrs, kids⟩ := formed.tree
  have shown := tellsIf_display tree (fun e member => (attrs e member).2) kids.legible
  exact shown.tells fun e member => (attrs e member).1

end TreeQuery
