import TreeQuery.Node.Element
import TreeQuery.Proofs.Tree.Draft

namespace TreeQuery

/-- Elements of a document, each with its text, its children and its tail. No text, or no tail, is
the same as an empty one. -/
inductive Markup
  | nil
  | element (tag : ElementTag) (attrs : Entries) (text : String) (kids : Markup) (tail : String)
      (rest : Markup)
  deriving DecidableEq, Repr

namespace ElementTag

def IsUsual : ElementTag → Prop
  | named (.text s) => s ≠ "" ∧ s ≠ "!COMMENT" ∧ s ≠ "!PI"
  | named _ => False
  | comment | instruction => True

def mark : ElementTag → String
  | named (.text s) => s
  | named _ => ""
  | comment => "!COMMENT"
  | instruction => "!PI"

def ofMark (s : String) : ElementTag :=
  if s = "!COMMENT" then comment else if s = "!PI" then instruction else named (.text s)

variable {tag : ElementTag}

theorem IsUsual.elementTag (usual : tag.IsUsual) : Node.elementTag tag = .text tag.mark := by
  unfold IsUsual at usual
  split at usual
  · rfl
  · cases usual
  · rfl
  · rfl

theorem IsUsual.mark_ne (usual : tag.IsUsual) : tag.mark ≠ "" := by
  unfold IsUsual at usual
  split at usual
  · exact usual.1
  · cases usual
  · decide
  · decide

theorem IsUsual.ofMark_mark (usual : tag.IsUsual) : ofMark tag.mark = tag := by
  unfold IsUsual at usual
  split at usual
  · obtain ⟨_, comment, instruction⟩ := usual
    simp [mark, ofMark, comment, instruction]
  · cases usual
  · rfl
  · rfl

end ElementTag

namespace Draft

def withText (text : String) (draft : Draft) : Draft :=
  if text = "" then draft else .kept (.text text) draft

def lead : Draft → String
  | kept (.text s) _ => s
  | _ => ""

/-- Elements out of nodes: the text in front of the first node below one is its text, and the text
behind it is its tail. -/
def markup : Draft → Markup
  | nil => .nil
  | kept _ rest => rest.markup
  | node tag attrs kids rest =>
    .element (.ofMark tag) attrs kids.lead kids.markup rest.lead rest.markup

def keepsFirst : Draft → Bool
  | kept _ _ => true
  | _ => false

def Spaced : Draft → Prop
  | nil => True
  | kept v rest => (∃ s, v = .text s ∧ s ≠ "") ∧ rest.keepsFirst = false ∧ rest.Spaced
  | node _ _ kids rest => kids.Spaced ∧ rest.Spaced

variable (text : String) {draft : Draft}

theorem lead_withText (first : draft.keepsFirst = false) :
    (withText text draft).lead = text := by
  unfold withText
  split
  · next none =>
    cases draft with
    | kept v rest => cases first
    | _ => exact none.symm
  · rfl

theorem markup_withText : (withText text draft).markup = draft.markup := by
  unfold withText
  split <;> rfl

theorem spaced_withText (first : draft.keepsFirst = false) (spaced : draft.Spaced) :
    (withText text draft).Spaced := by
  unfold withText
  split
  · exact spaced
  · next some => exact ⟨⟨text, rfl, some⟩, first, spaced⟩

end Draft

namespace Markup

def IsUsual : Markup → Prop
  | nil => True
  | element tag attrs _ kids _ rest =>
    tag.IsUsual ∧ (∀ e ∈ attrs, e.2.isText) ∧ kids.IsUsual ∧ rest.IsUsual

def draft : Markup → Draft
  | nil => .nil
  | element tag attrs text kids tail rest =>
    .node tag.mark attrs (.withText text kids.draft) (.withText tail rest.draft)

theorem keepsFirst_draft (m : Markup) : m.draft.keepsFirst = false := by
  cases m <;> rfl

/-- Nothing gets lost on the way to nodes and back. -/
theorem markup_draft {m : Markup} (usual : m.IsUsual) : m.draft.markup = m := by
  induction m with
  | nil => rfl
  | element tag attrs text kids tail rest ihKids ihRest =>
    obtain ⟨tagged, _, kidsUsual, restUsual⟩ := usual
    simp only [draft, Draft.markup, tagged.ofMark_mark, Draft.markup_withText,
      Draft.lead_withText _ (keepsFirst_draft _), ihKids kidsUsual, ihRest restUsual]

theorem spaced_draft (m : Markup) : m.draft.Spaced := by
  induction m with
  | nil => trivial
  | element tag attrs text kids tail rest ihKids ihRest =>
    have below := Draft.spaced_withText text kids.keepsFirst_draft ihKids
    have behind := Draft.spaced_withText tail rest.keepsFirst_draft ihRest
    exact ⟨below, behind⟩

end Markup

end TreeQuery
