import TreeQuery.Proofs.Display.Node

namespace TreeQuery

inductive Forest.Copies : Forest → Forest → Prop
  | nil : Copies .nil .nil
  | leaf (v : Value) {rest rest' : Forest} (later : Copies rest rest') :
      Copies (.leaf v rest) (.leaf v rest')
  | node {view view' : NodeView} {kids kids' rest rest' : Forest} (tag : view.tag = view'.tag)
      (attrs : view.attrs = view'.attrs) (below : Copies kids kids') (later : Copies rest rest') :
      Copies (.node view kids rest) (.node view' kids' rest')

namespace Store

/-- Values are equal texts, and nodes with the same tag, the same attributes in the same order, and
children of which the same holds. -/
inductive Copies (st st' : Store) : List Value → List Value → Prop
  | nil : Copies st st' [] []
  | text (text : String) {vs vs' : List Value} (later : Copies st st' vs vs') :
      Copies st st' (.text text :: vs) (.text text :: vs')
  | node {a a' : Addr} {n n' : Node} {vs vs' : List Value} (node : st.node? (.ref a) = some n)
      (node' : st'.node? (.ref a') = some n') (tag : n.tag = n'.tag)
      (attrs : st.attrEntries n.attrs = st'.attrEntries n'.attrs)
      (below : Copies st st' (st.childrenOf n) (st'.childrenOf n')) (later : Copies st st' vs vs') :
      Copies st st' (.ref a :: vs) (.ref a' :: vs')

variable {st st' : Store} {vs vs' : List Value} {f f' : Forest}

theorem Copies.forests (copies : st.Copies st' vs vs') (unfolds : st.Unfolds vs f)
    (unfolds' : st'.Unfolds vs' f') : f.Copies f' := by
  induction copies generalizing f f' with
  | nil =>
    cases unfolds
    cases unfolds'
    exact .nil
  | text text _ ih =>
    cases unfolds with
    | leaf _ later =>
    cases unfolds' with
    | leaf _ later' => exact .leaf _ (ih later later')
  | node node node' tag attrs _ _ ihBelow ihLater =>
    cases unfolds with
    | leaf other _ => exact absurd (other.symm.trans node) (by simp)
    | node same below later =>
    cases unfolds' with
    | leaf other _ => exact absurd (other.symm.trans node') (by simp)
    | node same' below' later' =>
      cases same.symm.trans node
      cases same'.symm.trans node'
      exact .node tag attrs (ihBelow below below') (ihLater later later')

theorem copies_of_forests (copies : f.Copies f') (unfolds : st.Unfolds vs f)
    (unfolds' : st'.Unfolds vs' f') (formed : f.Formed) : st.Copies st' vs vs' := by
  induction copies generalizing vs vs' with
  | nil =>
    cases unfolds
    cases unfolds'
    exact .nil
  | leaf v _ ih =>
    cases unfolds with
    | leaf _ later =>
    cases unfolds' with
    | leaf _ later' =>
      obtain ⟨isText, rest⟩ := formed
      obtain ⟨text, rfl⟩ := Value.eq_text_of_isText isText
      exact .text text (ih later later' rest)
  | node tag attrs _ _ ihBelow ihLater =>
    cases unfolds with
    | node node below later =>
    cases unfolds' with
    | node node' below' later' =>
      obtain ⟨_, kids, rest⟩ := formed
      exact .node node node' tag attrs (ihBelow below below' kids) (ihLater later later' rest)

end Store

end TreeQuery
