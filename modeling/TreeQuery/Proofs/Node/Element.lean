import TreeQuery.Proofs.Store.Rank
import TreeQuery.Proofs.Tree.Markup

/-! Nodes from elements. All that is in the elements is in the nodes, so that the elements can be
told from the nodes again, and the nodes share no container with the elements. -/

namespace TreeQuery

def Value.IsTextOrNone (v : Value) (text : String) : Prop := v = .text text ∨ v = .null ∧ text = ""

namespace Store

/-- The elements at some addresses, read with all below them. -/
inductive Elements (st : Store) : List Addr → Markup → Prop
  | nil : Elements st [] .nil
  | element {a : Addr} {e : Element} {attrs : Entries} {text tail : String} {kids rest : Markup}
      {as : List Addr} (read : st.read? a = some (.element e))
      (dict : st.read? e.attrs = some (.dict attrs)) (before : e.text.IsTextOrNone text)
      (behind : e.tail.IsTextOrNone tail) (below : Elements st e.children kids)
      (later : Elements st as rest) :
      Elements st (a :: as) (.element e.tag attrs text kids tail rest)

def Encloses (st : Store) (a b : Addr) : Prop :=
  ∃ e, st.read? a = some (.element e) ∧ b ∈ e.children

variable {st st' : Store} {as : List Addr} {m : Markup}

theorem lt_of_encloses (a b : Addr) (edge : st.Encloses a b) : a < st.size := by
  obtain ⟨_, read, _⟩ := edge
  exact lt_of_read? read

/-- Elements below each other come to an end if they can be read. -/
theorem Elements.acc (elements : st.Elements as m) {b : Addr} (member : b ∈ as) :
    Acc (flip st.Encloses) b := by
  induction elements generalizing b with
  | nil => cases member
  | element read _ _ _ _ _ ihBelow ihLater =>
    rcases List.mem_cons.mp member with rfl | member
    · constructor
      rintro c ⟨e, read', among⟩
      cases read.symm.trans read'
      exact ihBelow among
    · exact ihLater member

theorem Elements.ranked (elements : st.Elements as m) {b : Addr} (member : b ∈ as) :
    Ranked st.Encloses st.depth b := by
  have returnless : Returnless st.Encloses b := .of_acc (elements.acc member)
  exact returnless.ranked lt_of_encloses (Nat.lt_succ_self _)

end Store

namespace Node

open Eval

def textItems (text : String) : List Value := if text = "" then [] else [.text text]

theorem textChild_eq (st : Store) {v : Value} {text : String} (optional : v.IsTextOrNone text) :
    textChild st v = textItems text := by
  rcases optional with rfl | ⟨rfl, rfl⟩
  · by_cases none : text = "" <;> simp [textChild, textItems, Store.truthy, none]
  · rfl

theorem map_settledEntry {attrs : Entries} (texts : ∀ e ∈ attrs, e.2.isText) :
    attrs.map settledEntry = attrs := by
  have same : ∀ e ∈ attrs, settledEntry e = e := by
    intro e member
    simp [settledEntry, attrText?_of_isText (texts e member)]
  simpa using List.map_congr_left same

variable {s : Session} {a : Addr} {fuel : Nat}

theorem makes_withText {st st' : Store} {vs : List Value} {draft : Draft} {owned : List Addr}
    (makes : st.Makes st' vs draft owned) (text : String) :
    st.Makes st' (textItems text ++ vs) (.withText text draft) owned := by
  unfold textItems Draft.withText
  split
  · exact makes
  · have kept : st.Makes st [.text text] (.kept (.text text) .nil) [] := .kept rfl
    exact kept.append makes

theorem givesAll_withText {x : Eval (List Value)} {draft : Draft} (children : GivesAll s x draft)
    (text : String) :
    GivesAll s (x >>= fun vs => pure (textItems text ++ vs)) (.withText text draft) := by
  obtain ⟨vs, st, owned, done, makes⟩ := children
  exact ⟨textItems text ++ vs, st, owned, exec_bind_ok done _, makes_withText makes text⟩

theorem givesOne_element {e : Element} {attrs : Entries} {text : String} {kids : Draft}
    (read : s.store.read? a = some (.element e)) (usual : e.tag.IsUsual)
    (dict : s.store.read? e.attrs = some (.dict attrs)) (texts : ∀ x ∈ attrs, x.2.isText)
    (optional : e.text.IsTextOrNone text)
    (children : GivesAll s (elementChildren (ofElementWithin fuel) e.children) kids) :
    GivesOne s (ofElementWithin (fuel + 1) (.ref a))
      (.node e.tag.mark attrs (.withText text kids) .nil) := by
  have settles : ∀ x ∈ attrs, attrText? x.2 ≠ none := by
    intro x member
    simp [attrText?_of_isText (texts x member)]
  have made := (givesAll_withText children text).makeCopy usual.mark_ne settles
  rw [map_settledEntry texts] at made
  refine made.after ?_ (.refl s.store)
  unfold ofElementWithin
  rw [exec_bind_ok (exec_getStore s)]
  have object : s.store.object? (.ref a) = some (.element e) := read
  have entries : s.store.entries e.attrs = attrs := by simp [Store.entries, dict]
  simp only [object, entries, textChild_eq s.store optional, usual.elementTag, bind_assoc,
    pure_bind]
  rfl

theorem givesAll_elements {st : Store} {as : List Addr} {m : Markup} {below : Value → Eval Value}
    (elements : st.Elements as m) (usual : m.IsUsual) (grows : st.Grows s.store)
    (each : ∀ b tag attrs text kids tail, b ∈ as →
      st.Elements [b] (.element tag attrs text kids tail .nil) →
      (Markup.element tag attrs text kids tail .nil).IsUsual → ∀ t : Session, st.Grows t.store →
        GivesOne t (below (.ref b)) (Markup.element tag attrs text kids "" .nil).draft) :
    GivesAll s (elementChildren below as) m.draft := by
  induction elements generalizing s with
  | nil => exact givesAll_nil s
  | element read dict before behind below' _ _ ih =>
    obtain ⟨tagged, texts, kidsUsual, restUsual⟩ := usual
    have first := each _ _ _ _ _ _ (.head _) (.element read dict before behind below' .nil)
      ⟨tagged, texts, kidsUsual, trivial⟩ s grows
    obtain ⟨v, st', owned, done, makes⟩ := first
    have rest := ih (s := { s with store := st' }) restUsual (grows.trans makes.grows)
      fun b tag attrs text kids tail member => each b tag attrs text kids tail (.tail _ member)
    obtain ⟨vs, st'', owned', done', makes'⟩ := rest
    -- The tail is read when the child has been made, where the element is still the same.
    refine ⟨_, st'', owned ++ owned', ?_, makes.append (makes_withText makes' _)⟩
    have tail := textChild_eq st' behind
    have read' := (grows.trans makes.grows) _ _ read
    unfold elementChildren
    rw [exec_bind_ok done, exec_bind_ok (exec_getStore _), exec_bind_ok done']
    simp only [tailOf, read', tail]
    rfl

/-- The fuel lasts, as each level takes one of the steps that lead down. -/
theorem givesOne_ofElementWithin {st : Store} {tag : ElementTag} {attrs : Entries}
    {text tail : String} {kids : Markup} (ranked : Ranked st.Encloses fuel a)
    (elements : st.Elements [a] (.element tag attrs text kids tail .nil))
    (usual : (Markup.element tag attrs text kids tail .nil).IsUsual) (grows : st.Grows s.store) :
    GivesOne s (ofElementWithin fuel (.ref a))
      (Markup.element tag attrs text kids "" .nil).draft := by
  induction ranked generalizing s tag attrs text kids tail with
  | step _ ih =>
    obtain ⟨tagged, texts, kidsUsual, _⟩ := usual
    cases elements with
    | element read dict before _ below _ =>
      refine givesOne_element (grows _ _ read) tagged (grows _ _ dict) texts before ?_
      refine givesAll_elements below kidsUsual grows ?_
      intro b tag' attrs' text' kids' tail' member elements' usual' t grows'
      exact ih b ⟨_, read, member⟩ elements' usual' grows'

/-- Elements with whatever depth become nodes from which they can be told again, but for the tail
of the first. No child is an empty text, and no two texts are next to each other. All that was
there stays, and no container of the nodes was there before. -/
theorem element_becomes_node_that_tells_it {tag : ElementTag} {attrs : Entries}
    {text tail : String} {kids : Markup}
    (elements : s.store.Elements [a] (.element tag attrs text kids tail .nil))
    (usual : (Markup.element tag attrs text kids tail .nil).IsUsual) :
    ∃ b st draft owned, (ofElement (.ref a)).exec s = (.ok b, { s with store := st }) ∧
      s.store.Makes st [b] draft owned ∧ draft.markup = .element tag attrs text kids "" .nil ∧
      draft.Spaced := by
  have start : (ofElement (.ref a)).exec s = (ofElementWithin s.store.depth (.ref a)).exec s :=
    exec_bind_ok (exec_getStore s) _
  have made := givesOne_ofElementWithin (elements.ranked (.head _)) elements usual (.refl s.store)
  obtain ⟨b, st, owned, done, makes⟩ := made.after start (.refl s.store)
  obtain ⟨tagged, texts, kidsUsual, _⟩ := usual
  have without : (Markup.element tag attrs text kids "" .nil).IsUsual :=
    ⟨tagged, texts, kidsUsual, trivial⟩
  exact ⟨b, st, _, owned, done, makes, Markup.markup_draft without, Markup.spaced_draft _⟩

def mixedElements : Session where
  store := ⟨#[.dict [(.text "href", .text "u")], .dict [], .dict [], .dict [],
    .element ⟨.comment, 1, .text "c", .text "", []⟩,
    .element ⟨.instruction, 2, .null, .text "x", []⟩,
    .element ⟨.named (.text "b"), 3, .null, .null, [4]⟩,
    .element ⟨.named (.text "a"), 0, .text "t", .text "end", [6, 5]⟩], 0⟩

def mixedKids : Markup :=
  .element (.named (.text "b")) [] "" (.element .comment [] "c" .nil "" .nil) ""
    (.element .instruction [] "" .nil "x" .nil)

theorem mixedElements_become_node :
    (mixedElements.store.Elements [7]
        (.element (.named (.text "a")) [(.text "href", .text "u")] "t" mixedKids "end" .nil) ∧
      (Markup.element (.named (.text "a")) [(.text "href", .text "u")] "t" mixedKids "end"
        .nil).IsUsual) ∧
      ∃ b st draft owned, (ofElement (.ref 7)).exec mixedElements =
          (.ok b, { mixedElements with store := st }) ∧
        mixedElements.store.Makes st [b] draft owned ∧
        draft.markup = .element (.named (.text "a")) [(.text "href", .text "u")] "t" mixedKids ""
          .nil ∧ draft.Spaced := by
  have comment : mixedElements.store.Elements [4] (.element .comment [] "c" .nil "" .nil) :=
    .element (e := ⟨.comment, 1, .text "c", .text "", []⟩) rfl rfl (.inl rfl) (.inl rfl) .nil .nil
  have instruction : mixedElements.store.Elements [5] (.element .instruction [] "" .nil "x" .nil) :=
    .element (e := ⟨.instruction, 2, .null, .text "x", []⟩) rfl rfl (.inr ⟨rfl, rfl⟩) (.inl rfl)
      .nil .nil
  have kids : mixedElements.store.Elements [6, 5] mixedKids :=
    .element (e := ⟨.named (.text "b"), 3, .null, .null, [4]⟩) rfl rfl (.inr ⟨rfl, rfl⟩)
      (.inr ⟨rfl, rfl⟩) comment instruction
  have elements : mixedElements.store.Elements [7]
      (.element (.named (.text "a")) [(.text "href", .text "u")] "t" mixedKids "end" .nil) :=
    .element (e := ⟨.named (.text "a"), 0, .text "t", .text "end", [6, 5]⟩) rfl rfl (.inl rfl)
      (.inl rfl) kids .nil
  have usual : (Markup.element (.named (.text "a")) [(.text "href", .text "u")] "t" mixedKids "end"
      .nil).IsUsual := by
    simp [Markup.IsUsual, ElementTag.IsUsual, mixedKids, Value.isText]
  exact ⟨⟨elements, usual⟩, element_becomes_node_that_tells_it elements usual⟩

end Node

end TreeQuery
