import TreeQuery.Proofs.Node.Composed
import TreeQuery.Proofs.Node.Exact

namespace TreeQuery

namespace Store

def attrsAt (st : Store) (a : Addr) : Addr :=
  match st.read? a with
  | some (.element e) => e.attrs
  | _ => a

def HasTexts (st : Store) (a : Addr) : Prop := a < st.size ∧ ∀ e ∈ st.attrEntries a, e.2.isText

def HasChildren (st : Store) (c : Addr) : Prop := c < st.size ∧ ∀ v ∈ st.members c, st.isChild v

/-- The values of the attributes of every node are texts, and its children texts and nodes. The
attributes of every element are there. -/
structure Legible (st : Store) : Prop where
  elements (b : Addr) (e : Element) : st.read? b = some (.element e) → e.attrs < st.size
  attrs (b : Addr) (n : Node) : st.read? b = some (.node n) → st.HasTexts n.attrs
  children (b : Addr) (n : Node) : st.read? b = some (.node n) → st.HasChildren n.children

variable {st st' : Store} {a c : Addr} {o p : Object}

theorem legible_empty : ({} : Store).Legible where
  elements _ _ element := by simp [read?] at element
  attrs _ _ node := by simp [read?] at node
  children _ _ node := by simp [read?] at node

theorem Legible.anchored (legible : st.Legible) : st.Anchored :=
  fun b n node => ⟨(legible.attrs b n node).1, (legible.children b n node).1⟩

theorem ref_of_object? {v : Value} (object : st.object? v = some o) : ∃ b, v = .ref b := by
  cases v with
  | ref b => exact ⟨b, rfl⟩
  | _ => cases object

theorem attrEntries_eq (st : Store) (a : Addr) : st.attrEntries a = st.entries (st.attrsAt a) := by
  unfold attrEntries attrsAt
  rcases st.read? a with _ | o
  · rfl
  · cases o <;> rfl

theorem attrsAt_congr
    (same : ∀ e, st'.read? a = some (.element e) ↔ st.read? a = some (.element e)) :
    st'.attrsAt a = st.attrsAt a := by
  unfold attrsAt
  split
  · next e element => simp [(same e).mp element]
  · next other =>
    split
    · next e element => exact absurd ((same e).mpr element) (other e)
    · rfl

/-- All objects are the same but for containers, into which nothing has come but texts and what can
be a child. -/
structure Refills (st st' : Store) : Prop where
  size : st'.size = st.size
  others (a : Addr) (o : Object) : o.isContainer = false →
    (st'.read? a = some o ↔ st.read? a = some o)
  entries (a : Addr) : ∀ e ∈ st'.entries a, e ∈ st.entries a ∨ e.2.isText
  members (a : Addr) : ∀ v ∈ st'.members a, v ∈ st.members a ∨ st.isChild v

namespace Refills

theorem refl (st : Store) : st.Refills st where
  size := rfl
  others _ _ _ := .rfl
  entries _ _ := .inl
  members _ _ := .inl

variable (refills : st.Refills st')
include refills

theorem sameNodes : st.SameNodes st' := fun b n => refills.others b (.node n) rfl

theorem hasTexts (texts : st.HasTexts a) : st'.HasTexts a := by
  refine ⟨refills.size ▸ texts.1, ?_⟩
  intro e member
  rw [attrEntries_eq, attrsAt_congr fun e => refills.others a (.element e) rfl] at member
  rcases refills.entries _ e member with old | text
  · rw [← attrEntries_eq] at old
    exact texts.2 e old
  · exact text

theorem hasChildren (fine : st.HasChildren c) : st'.HasChildren c := by
  refine ⟨refills.size ▸ fine.1, ?_⟩
  intro v member
  rw [refills.sameNodes.isChild]
  rcases refills.members c v member with old | child
  · exact fine.2 v old
  · exact child

theorem legible (legible : st.Legible) : st'.Legible where
  elements b e element :=
    refills.size ▸ legible.elements b e ((refills.others b (.element e) rfl).mp element)
  attrs b n node := refills.hasTexts (legible.attrs b n ((refills.sameNodes b n).mp node))
  children b n node := refills.hasChildren (legible.children b n ((refills.sameNodes b n).mp node))

end Refills

theorem refills_write (read : st.read? a = some p) (container : p.isContainer)
    (container' : o.isContainer) (texts : ∀ es, o = .dict es → ∀ e ∈ es, e.2.isText)
    (fine : ∀ vs, o = .list vs → ∀ v ∈ vs, st.isChild v) : st.Refills (st.write a o) := by
  have here := read?_write_self st o (lt_of_read? read)
  have there : ∀ b, a ≠ b → (st.write a o).read? b = st.read? b := fun b =>
    read?_write_of_ne st o
  constructor
  · exact size_write st a o
  · intro b x other
    by_cases same : a = b
    · subst same
      have apart : ∀ y : Object, y.isContainer → y ≠ x := by
        rintro y isContainer rfl
        simp [isContainer] at other
      rw [here, read]
      simp [apart o container', apart p container]
    · rw [there b same]
  · intro b e member
    by_cases same : a = b
    · subst same
      unfold Store.entries at member
      rw [here] at member
      cases o with
      | dict es => exact .inr (texts es rfl e member)
      | _ => cases member
    · unfold Store.entries at member ⊢
      rw [there b same] at member
      exact .inl member
  · intro b v member
    by_cases same : a = b
    · subst same
      unfold Store.members at member
      rw [here] at member
      cases o with
      | list vs => exact .inr (fine vs rfl v member)
      | _ => cases member
    · unfold Store.members at member ⊢
      rw [there b same] at member
      exact .inl member

theorem refills_write_dict {es es' : Entries} (read : st.read? a = some (.dict es))
    (texts : ∀ e ∈ es', e.2.isText) : st.Refills (st.write a (.dict es')) := by
  refine refills_write read rfl rfl ?_ (by simp)
  rintro _ same
  cases same
  exact texts

theorem refills_write_list {vs vs' : List Value} (read : st.read? c = some (.list vs))
    (fine : ∀ v ∈ vs', st.isChild v) : st.Refills (st.write c (.list vs')) := by
  refine refills_write read rfl rfl (by simp) ?_
  rintro _ same
  cases same
  exact fine

theorem Drains.refills (drains : st.Drains st') : st.Refills st' := by
  have same : ∀ b, st'.entries b = st.entries b ∧ st'.members b = st.members b := by
    intro b
    rcases drains.2.2 b with same | ⟨xs, ys, before, after, _⟩
    · simp [Store.entries, Store.members, same]
    · simp [Store.entries, Store.members, before, after]
  constructor
  · exact drains.1
  · intro b x other
    refine drains.read?_iff ?_ b
    rintro xs rfl
    cases other
  · intro b e member
    rw [(same b).1] at member
    exact .inl member
  · intro b v member
    rw [(same b).2] at member
    exact .inl member

section Alloc

variable (o : Object)

theorem entries_alloc (inside : a < st.size) : (st.alloc o).2.entries a = st.entries a := by
  unfold Store.entries
  rw [read?_alloc_of_lt st o inside]

theorem HasTexts.alloc (texts : st.HasTexts a) (legible : st.Legible) :
    (st.alloc o).2.HasTexts a := by
  obtain ⟨inside, texts⟩ := texts
  have same : (st.alloc o).2.attrEntries a = st.attrEntries a := by
    unfold Store.attrEntries
    rw [read?_alloc_of_lt st o inside]
    split
    · next e found => exact entries_alloc o (legible.elements a e found)
    · exact entries_alloc o inside
  refine ⟨?_, same ▸ texts⟩
  rw [size_alloc]
  exact Nat.lt_succ_of_lt inside

theorem HasChildren.alloc (fine : st.HasChildren c) : (st.alloc o).2.HasChildren c := by
  obtain ⟨inside, fine⟩ := fine
  refine ⟨?_, ?_⟩
  · rw [size_alloc]
    exact Nat.lt_succ_of_lt inside
  · intro v member
    unfold Store.members at member
    rw [read?_alloc_of_lt st o inside] at member
    exact (grows_alloc st o).isChild (fine v member)

variable {o}

theorem Legible.alloc (legible : st.Legible) (element : ∀ e, o = .element e → e.attrs < st.size)
    (node : ∀ n, o = .node n → st.HasTexts n.attrs ∧ st.HasChildren n.children) :
    (st.alloc o).2.Legible where
  elements b e found := by
    rw [size_alloc]
    rcases read?_of_alloc found with old | new
    · exact Nat.lt_succ_of_lt (legible.elements b e old)
    · exact Nat.lt_succ_of_lt (element e new.symm)
  attrs b n found := by
    rcases read?_of_alloc found with old | new
    · exact (legible.attrs b n old).alloc o legible
    · exact (node n new.symm).1.alloc o legible
  children b n found := by
    rcases read?_of_alloc found with old | new
    · exact (legible.children b n old).alloc o
    · exact (node n new.symm).2.alloc o

theorem Legible.container (legible : st.Legible) (container : o.isContainer) :
    (st.alloc o).2.Legible := by
  refine legible.alloc ?_ ?_
  · rintro e rfl
    cases container
  · rintro n rfl
    cases container

end Alloc

end Store

namespace Node

open Eval

variable {s t : Session} {a : Addr} {el : Element}

section Element

variable (element : s.store.read? a = some (.element el))
include element

theorem exec_setItem_element (key : Value) (text : String) :
    ∃ fault, (setItem (.ref a) key (.text text)).exec s = (.error fault, s) := by
  unfold setItem
  rw [exec_bind_ok (exec_getStore s)]
  simp only [element]
  split
  · exact ⟨_, rfl⟩
  · split
    · exact ⟨_, rfl⟩
    · next same _ => cases same
    · exact ⟨_, rfl⟩

theorem isText_of_settleEntry {e : Value × Value}
    (done : (settleEntry a e).exec s = (.ok (), t)) : e.2.isText ∧ t = s := by
  unfold settleEntry at done
  by_cases text : e.2.isText
  · rw [if_neg (by simp [text])] at done
    cases done
    exact ⟨text, rfl⟩
  · rw [if_pos (by simp [text])] at done
    rcases settled : attrText? e.2 with _ | v
    · obtain ⟨fault, st, stops, _⟩ := failsAt_refuseAttr e s
      simp only [settled, stops] at done
      cases done
    · obtain ⟨text', rfl⟩ := Value.eq_text_of_isText (isText_of_attrText? settled)
      obtain ⟨fault, stops⟩ := exec_setItem_element element e.1 text'
      simp only [settled, stops] at done
      cases done

theorem areTexts_of_settleEntries {es : Entries}
    (done : (es.forM (settleEntry a)).exec s = (.ok (), t)) : (∀ e ∈ es, e.2.isText) ∧ t = s := by
  induction es with
  | nil =>
    cases done
    exact ⟨by simp, rfl⟩
  | cons e es ih =>
    obtain ⟨u, m, first, rest⟩ := exec_bind_eq_ok.mp done
    obtain ⟨text, rfl⟩ := isText_of_settleEntry element first
    obtain ⟨texts, rfl⟩ := ih rest
    exact ⟨List.forall_mem_cons.mpr ⟨text, texts⟩, rfl⟩

theorem exec_setItem_element_text (name : String) (v : Value) :
    (setItem (.ref a) (.text name) v).exec s = (.error .notIndexable, s) := by
  unfold setItem
  rw [exec_bind_ok (exec_getStore s)]
  simp only [element]
  rfl

theorem exec_addClass_element (className : Value) :
    (addClass (.ref a) className).exec s = (.error (.noAttribute "setdefault"), s) := by
  have noEntry : (getOrPut (.ref a) classAttr className).exec s =
      (.error (.noAttribute "setdefault"), s) := by
    unfold getOrPut
    rw [exec_bind_ok (exec_getStore s)]
    simp only [Store.object?, element]
    rfl
  exact exec_bind_error noEntry _

theorem settleAttrs_element {b : Addr} (done : (settleAttrs (.ref a)).exec s = (.ok b, t)) :
    b = a ∧ t = s ∧ ∀ e ∈ s.store.attrEntries a, e.2.isText := by
  unfold settleAttrs at done
  rw [exec_bind_ok (exec_getStore s)] at done
  simp only [Store.object?, element] at done
  obtain ⟨u, m, settled, done⟩ := exec_bind_eq_ok.mp done
  cases done
  obtain ⟨texts, rfl⟩ := areTexts_of_settleEntries element settled
  exact ⟨rfl, rfl, by simpa [Store.attrEntries, element] using texts⟩

theorem enterAttrs_element {parts : Parts} {b : Addr}
    (done : (parts.enterAttrs (.ref a)).exec s = (.ok b, t)) :
    b = a ∧ t = s ∧ ∀ e ∈ s.store.attrEntries a, e.2.isText := by
  -- Attributes by name are entered first and then a class, and an element takes neither.
  unfold Parts.enterAttrs Parts.enterClass at done
  rcases names : parts.named with _ | ⟨given, named⟩ <;> rw [names] at done
  · obtain ⟨u, m, none, done⟩ := exec_bind_eq_ok.mp done
    cases none
    obtain ⟨u, m, classed, done⟩ := exec_bind_eq_ok.mp done
    by_cases given : parts.className = .null
    · rw [if_neg (by simp [given])] at classed
      cases classed
      exact settleAttrs_element element done
    · rw [if_pos given, exec_addClass_element element] at classed
      cases classed
  · obtain ⟨u, m, entered, _⟩ := exec_bind_eq_ok.mp done
    obtain ⟨u', m', first, _⟩ := exec_bind_eq_ok.mp entered
    rw [exec_setItem_element_text element] at first
    cases first

end Element

/-- Attributes that are accepted are texts. -/
theorem refills_enterAttrs {parts : Parts} {attrs : Value}
    (done : (parts.enterAttrs attrs).exec s = (.ok a, t)) :
    s.store.Refills t.store ∧ t.store.HasTexts a := by
  by_cases dict : ∃ es, s.store.object? attrs = some (.dict es)
  · obtain ⟨es, dict⟩ := dict
    obtain ⟨b, rfl⟩ := Store.ref_of_object? dict
    have read : s.store.read? b = some (.dict es) := dict
    have accepted : ¬ (parts.conflicts s.store b es ∨ parts.spoilsDict s.store b es) := by
      intro refused
      obtain ⟨left, ⟨fault, st, stops, _⟩, _⟩ := Parts.enterAttrs_refuses read refused
      cases stops.symm.trans done
    obtain ⟨agrees, clean⟩ := not_or.mp accepted
    rw [Bool.not_eq_true] at agrees clean
    obtain ⟨left, entered, texts⟩ := Parts.enterAttrs_accepts read agrees clean
    cases entered.symm.trans done
    have inside := Store.lt_of_read? read
    have here := Store.read?_write_self s.store (.dict left) inside
    refine ⟨Store.refills_write_dict read texts, ?_, ?_⟩
    · simpa using inside
    · simpa [Store.attrEntries, Store.entries, here] using texts
  · by_cases element : ∃ el, s.store.object? attrs = some (.element el)
    · obtain ⟨el, element⟩ := element
      obtain ⟨b, rfl⟩ := Store.ref_of_object? element
      obtain ⟨rfl, rfl, texts⟩ := enterAttrs_element element done
      exact ⟨.refl _, Store.lt_of_read? element, texts⟩
    · obtain ⟨fault, st, stops, _⟩ :=
        Parts.failsAt_enterAttrs parts (not_exists.mp element) (not_exists.mp dict)
      cases stops.symm.trans done

/-- Children that are accepted are texts and nodes. -/
theorem refills_enterChildren {parts : Parts} {c : Addr} {vs : List Value}
    (list : s.store.read? c = some (.list vs))
    (done : (parts.enterChildren c).exec s = (.ok (), t)) :
    s.store.Refills t.store ∧ t.store.HasChildren c := by
  have accepted : ¬ ∃ v ∈ vs ++ parts.more, child? s.store v = none := by
    intro refused
    obtain ⟨left, ⟨fault, st, stops, _⟩, _⟩ := Parts.enterChildren_refuses list refused
    cases stops.symm.trans done
  have all : ∀ v ∈ vs ++ parts.more, child? s.store v ≠ none := fun v member none =>
    accepted ⟨v, member, none⟩
  obtain ⟨left, entered, fine⟩ := Parts.enterChildren_accepts list all
  cases entered.symm.trans done
  have inside := Store.lt_of_read? list
  have here := Store.read?_write_self s.store (.list left) inside
  have refills := Store.refills_write_list list fine
  refine ⟨refills, ?_, ?_⟩
  · simpa using inside
  · simpa [Store.members, here, refills.sameNodes.isChild] using fine

theorem legible_childList {content : Value} {c : Addr} (legible : s.store.Legible)
    (texts : s.store.HasTexts a) (done : (childList content).exec s = (.ok c, t)) :
    t.store.Legible ∧ t.store.HasTexts a ∧ ∃ vs, t.store.read? c = some (.list vs) := by
  by_cases list : ∃ vs, s.store.object? content = some (.list vs)
  · obtain ⟨vs, list⟩ := list
    obtain ⟨b, rfl⟩ := Store.ref_of_object? list
    cases (exec_childList_list list).symm.trans done
    exact ⟨legible, texts, vs, list⟩
  · rcases exec_childList_other (not_exists.mp list) with
      ⟨fault, st, stops, _⟩ | ⟨st, vs, drains, made⟩
    · cases stops.symm.trans done
    · cases made.symm.trans done
      have legible' := drains.refills.legible legible
      exact ⟨legible'.container rfl, (drains.refills.hasTexts texts).alloc _ legible', vs,
        Store.read?_alloc_self st _⟩

theorem legible_finish {parts : Parts} {tag : String} {v : Value} (legible : s.store.Legible)
    (texts : s.store.HasTexts a) (done : (parts.finish tag a).exec s = (.ok v, t)) :
    t.store.Legible := by
  unfold Parts.finish at done
  obtain ⟨c, m, listed, done⟩ := exec_bind_eq_ok.mp done
  obtain ⟨legible, texts, vs, list⟩ := legible_childList legible texts listed
  obtain ⟨u, m', entered, done⟩ := exec_bind_eq_ok.mp done
  obtain ⟨refills, fine⟩ := refills_enterChildren list entered
  cases done
  refine (refills.legible legible).alloc (by simp) ?_
  rintro n same
  cases same
  exact ⟨refills.hasTexts texts, fine⟩

/-- Whatever a call is given, all nodes are legible if it is accepted. -/
theorem legible_make {parts : Parts} {v : Value} (legible : s.store.Legible)
    (done : (make parts).exec s = (.ok v, t)) : t.store.Legible := by
  rw [Parts.make_eq, exec_bind_ok (exec_getStore s)] at done
  obtain ⟨tag, m, checked, done⟩ := exec_bind_eq_ok.mp done
  rw [exec_lift] at checked
  obtain ⟨_, rfl⟩ := Prod.mk.inj checked
  obtain ⟨attrs, m, held, done⟩ := exec_bind_eq_ok.mp done
  have legible' : m.store.Legible := by
    unfold Parts.attrsOrNew at held
    split at held
    · cases held
      exact legible.container rfl
    · cases held
      exact legible
  obtain ⟨b, m', entered, done⟩ := exec_bind_eq_ok.mp done
  obtain ⟨refills, texts⟩ := refills_enterAttrs entered
  exact legible_finish (refills.legible legible') texts done

def KeepsLegible {α : Type} (x : Eval α) : Prop :=
  ∀ (s t : Session) (y : α), s.store.Legible → x.exec s = (.ok y, t) → t.store.Legible

theorem composed_keepsLegible : Composed @KeepsLegible where
  quiet quiet s t y legible done := by
    obtain ⟨r, st, drains, runs⟩ := quiet s.store
    cases (runs s rfl).symm.trans done
    exact drains.refills.legible legible
  bind first second s t y legible done := by
    obtain ⟨x, m, begun, rest⟩ := exec_bind_eq_ok.mp done
    exact second x m t y (first s m x legible begun) rest
  container isContainer s t y legible done := by
    cases done
    exact legible.container isContainer
  visitLeft each a fuel := by
    induction fuel with
    | zero =>
      intro s t ys legible done
      cases done
      exact legible
    | succ fuel ih =>
      intro s t ys legible done
      unfold Eval.visitLeft at done
      rw [exec_bind_ok (exec_getStore s)] at done
      split at done
      · next x rest read =>
        -- To take an item out of an iterator is a write that puts nothing in.
        have taken := Store.refills_write (o := .iterator rest) read rfl rfl (by simp) (by simp)
        rw [exec_bind_ok (exec_write a _ s)] at done
        obtain ⟨y, m, first, done⟩ := exec_bind_eq_ok.mp done
        obtain ⟨ys', m', later, same⟩ := exec_bind_eq_ok.mp done
        cases same
        exact ih m _ ys' (each x _ m y (taken.legible legible) first) later
      · cases done
        exact legible

theorem keepsLegible_makeCopy (tag : Value) (es : Entries) (vs : List Value) :
    KeepsLegible (makeCopy tag es vs) := by
  refine composed_keepsLegible.bind (composed_keepsLegible.newContainer rfl) fun copied =>
    composed_keepsLegible.bind (composed_keepsLegible.newList vs) fun list => ?_
  exact fun s t v legible done => legible_make legible done

/-- An object is made that is no node, or a node is, out of parts, a record or an element. -/
inductive Making
  | fresh (o : Object)
  | call (parts : Parts)
  | record (v : Value)
  | element (v : Value)

namespace Making

def carryOut : Making → Eval Value
  | fresh o => alloc o
  | call parts => make parts
  | record v => ofRecord v
  | element v => ofElement v

def isProper (st : Store) : Making → Bool
  | fresh (.node _) => false
  | fresh (.element e) => e.attrs < st.size
  | _ => true

def accept? (m : Making) (s : Session) : Option Session :=
  if m.isProper s.store then
    match m.carryOut.exec s with
    | (.ok _, t) => some t
    | (.error _, _) => none
  else none

theorem accept?_eq_some {m : Making} : m.accept? s = some t ↔
    m.isProper s.store ∧ ∃ v, m.carryOut.exec s = (.ok v, t) := by
  unfold accept?
  by_cases proper : m.isProper s.store
  · rw [if_pos proper]
    rcases m.carryOut.exec s with ⟨(fault | v), u⟩ <;> simp [proper]
  · rw [if_neg proper]
    simp [proper]

theorem legible_accept? {m : Making} (legible : s.store.Legible) (accepted : m.accept? s = some t) :
    t.store.Legible := by
  obtain ⟨proper, v, done⟩ := accept?_eq_some.mp accepted
  cases m with
  | fresh o =>
    cases done
    refine legible.alloc ?_ ?_
    · rintro e rfl
      simpa [isProper] using proper
    · rintro n rfl
      cases proper
  | call parts => exact legible_make legible done
  | record v => exact composed_keepsLegible.ofRecord keepsLegible_makeCopy v s t _ legible done
  | element v => exact composed_keepsLegible.ofElement keepsLegible_makeCopy v s t _ legible done

end Making

def build? : List Making → Session → Option Session
  | [], s => some s
  | m :: ms, s => (m.accept? s).bind (build? ms)

theorem legible_build? {ms : List Making} (legible : s.store.Legible)
    (built : build? ms s = some t) : t.store.Legible := by
  induction ms generalizing s with
  | nil =>
    cases built
    exact legible
  | cons m ms ih =>
    obtain ⟨u, accepted, later⟩ := Option.bind_eq_some_iff.mp built
    exact ih (Making.legible_accept? legible accepted) later

end Node

end TreeQuery
