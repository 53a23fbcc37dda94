import TreeQuery.Proofs.Store.Rank
import TreeQuery.Proofs.Store.TextKeys
import TreeQuery.Proofs.Tree.Draft

/-! Nodes from records. A record that has the form it should have is copied on every level, so that
the nodes and the record share no container. -/

namespace TreeQuery

namespace Object

def dict? : Object → Option Entries
  | dict es => some es
  | _ => none

def list? : Object → Option (List Value)
  | list vs => some vs
  | _ => none

variable {o : Object}

theorem dict?_eq_some {es : Entries} : o.dict? = some es ↔ o = .dict es := by
  cases o <;> simp [dict?]

theorem list?_eq_some {vs : List Value} : o.list? = some vs ↔ o = .list vs := by
  cases o <;> simp [list?]

end Object

namespace Store

/-- What a container holds that a record has under a name. One that is left out is empty. -/
def held? {α : Type} (st : Store) (contents : Object → Option (List α)) (es : Entries)
    (name : String) : Option (List α) :=
  match under? es name with
  | none => some []
  | some v => (st.object? v).bind contents

def recordAttrs? (st : Store) (es : Entries) : Option Entries := st.held? Object.dict? es "attrs"

def recordItems? (st : Store) (es : Entries) : Option (List Value) := st.held? Object.list? es "_"

/-- Some values have the form of children in a record, and come to a draft: texts and nodes, and
records with a tag that is not empty, attributes that are texts and numbers, and children that have
this form again. -/
inductive Drafts (st : Store) : List Value → Draft → Prop
  | nil : Drafts st [] .nil
  | kept {v : Value} {vs : List Value} {rest : Draft} (fine : st.isChild v)
      (later : Drafts st vs rest) : Drafts st (v :: vs) (.kept v rest)
  | record {a : Addr} {es attrs : Entries} {tag : String} {items vs : List Value}
      {kids rest : Draft} (read : st.read? a = some (.dict es))
      (tagged : under? es "tag" = some (.text tag)) (nonempty : tag ≠ "")
      (dict : st.recordAttrs? es = some attrs)
      (fine : ∀ e ∈ attrs, e.1.isText ∧ Node.attrText? e.2 ≠ none)
      (list : st.recordItems? es = some items) (below : Drafts st items kids)
      (later : Drafts st vs rest) : Drafts st (.ref a :: vs) (.node tag attrs kids rest)

def Nests (st : Store) (a b : Addr) : Prop :=
  ∃ es items fs, st.read? a = some (.dict es) ∧ st.recordItems? es = some items ∧
    .ref b ∈ items ∧ st.read? b = some (.dict fs)

def withDefaults (st : Store) : Store := ((st.alloc (.dict [])).2.alloc (.list [])).2

variable {st st' : Store} {es attrs : Entries} {items vs : List Value} {draft : Draft}

theorem lt_of_nests (a b : Addr) (edge : st.Nests a b) : a < st.size := by
  obtain ⟨_, _, _, read, _⟩ := edge
  exact lt_of_read? read

theorem isChild_of_record {a : Addr} (read : st.read? a = some (.dict es)) :
    st.isChild (.ref a) = false := by
  simp [isChild, Value.isText, isNode, node?, object?, read]

/-- Records nested in each other come to an end if they come to a draft. -/
theorem Drafts.acc (drafts : st.Drafts vs draft) {b : Addr} (member : .ref b ∈ vs)
    (read : st.read? b = some (.dict es)) : Acc (flip st.Nests) b := by
  induction drafts generalizing b es with
  | nil => cases member
  | kept fine _ ih =>
    -- No record is kept as it is.
    rcases List.mem_cons.mp member with rfl | member
    · simp [isChild_of_record read] at fine
    · exact ih member read
  | record read' _ _ _ _ list _ _ ihBelow ihLater =>
    rcases List.mem_cons.mp member with same | member
    · cases same
      constructor
      rintro c ⟨es', items', fs, read'', list', among, inner⟩
      cases read'.symm.trans read''
      cases list.symm.trans list'
      exact ihBelow among inner
    · exact ihLater member read

theorem Drafts.ranked {a : Addr} {tag : String} {kids : Draft}
    (drafts : st.Drafts [.ref a] (.node tag attrs kids .nil)) : Ranked st.Nests st.depth a := by
  have whole := drafts
  cases drafts with
  | record read =>
    have returnless : Returnless st.Nests a := .of_acc (whole.acc (.head _) read)
    exact returnless.ranked lt_of_nests (Nat.lt_succ_self _)

section Held

variable {α : Type} {contents : Object → Option (List α)} {name : String} {xs : List α}

theorem held?_eq_some : st.held? contents es name = some xs ↔
    (under? es name = none ∧ xs = []) ∨
      ∃ v o, under? es name = some v ∧ st.object? v = some o ∧ contents o = some xs := by
  unfold held?
  rcases under? es name with _ | v
  · simp [eq_comm]
  · simp [Option.bind_eq_some_iff]

theorem Grows.held? (grows : st.Grows st') (held : st.held? contents es name = some xs) :
    st'.held? contents es name = some xs := by
  rcases held?_eq_some.mp held with absent | ⟨v, o, given, object, inner⟩
  · exact held?_eq_some.mpr (.inl absent)
  · exact held?_eq_some.mpr (.inr ⟨v, o, given, grows.object? object, inner⟩)

theorem exists_of_held? {d : Value} {o : Object} (held : st.held? contents es name = some xs)
    (standIn : st.object? d = some o) (empty : contents o = some []) :
    ∃ p, st.object? ((under? es name).getD d) = some p ∧ contents p = some xs := by
  rcases held?_eq_some.mp held with ⟨absent, rfl⟩ | ⟨v, p, given, object, inner⟩
  · rw [absent]
    exact ⟨o, standIn, empty⟩
  · rw [given]
    exact ⟨p, object, inner⟩

end Held

theorem Drafts.grows (drafts : st.Drafts vs draft) (grows : st.Grows st') :
    st'.Drafts vs draft := by
  induction drafts with
  | nil => exact .nil
  | kept fine _ ih => exact .kept (grows.isChild fine) ih
  | record read tagged nonempty dict fine list _ _ ihBelow ihLater =>
    exact .record (grows _ _ read) tagged nonempty (grows.held? dict) fine (grows.held? list)
      ihBelow ihLater

section Defaults

variable (st : Store)

theorem grows_withDefaults : st.Grows st.withDefaults :=
  (grows_alloc _ _).trans (grows_alloc _ _)

theorem object?_noAttrs : st.withDefaults.object? (.ref st.size) = some (.dict []) :=
  grows_alloc _ _ _ _ (read?_alloc_self st (.dict []))

theorem object?_noChildren : st.withDefaults.object? (.ref (st.size + 1)) = some (.list []) := by
  have made := read?_alloc_self (st.alloc (.dict [])).2 (.list [])
  have place : ((st.alloc (.dict [])).2.alloc (.list [])).1 = st.size + 1 := size_alloc st _
  rwa [place] at made

variable {st : Store}

theorem object?_recordAttrs (dict : st.recordAttrs? es = some attrs) :
    st.withDefaults.object? ((under? es "attrs").getD (.ref st.size)) = some (.dict attrs) := by
  have later := (grows_withDefaults st).held? dict
  obtain ⟨o, object, inner⟩ := exists_of_held? later (object?_noAttrs st) rfl
  rwa [Object.dict?_eq_some.mp inner] at object

theorem object?_recordItems (list : st.recordItems? es = some items) :
    st.withDefaults.object? ((under? es "_").getD (.ref (st.size + 1))) = some (.list items) := by
  have later := (grows_withDefaults st).held? list
  obtain ⟨o, object, inner⟩ := exists_of_held? later (object?_noChildren st) rfl
  rwa [Object.list?_eq_some.mp inner] at object

end Defaults

theorem sequence?_of_object? {v : Value} (object : st.object? v = some (.list items)) :
    st.sequence? v = some items := by
  cases v with
  | ref a => exact sequence?_of_list object
  | _ => cases object

end Store

namespace Node

open Eval

variable {s : Session} {a : Addr} {es attrs : Entries} {items : List Value} {fuel : Nat}

def fillRecord (fuel : Nat) (tag attrs content : Value) : Eval Value := do
  if !tag.isText then
    let shown ← display tag
    throw (.recordTag shown)
  let entries ← checkAttrs attrs
  let children ← visit content (recordChild (ofRecordWithin fuel))
  makeCopy tag entries children

theorem ofRecordWithin_succ (fuel : Nat) (record : Value) :
    ofRecordWithin (fuel + 1) record = (do
      let st ← getStore
      let tag ← st.item record tagKey
      let noAttrs ← alloc (.dict [])
      let attrs ← st.get record attrsKey noAttrs
      let noChildren ← alloc (.list [])
      let content ← st.get record childrenKey noChildren
      fillRecord fuel tag attrs content) := rfl

theorem fillRecord_text (fuel : Nat) (tag : String) (attrs content : Value) :
    fillRecord fuel (.text tag) attrs content = (do
      let entries ← checkAttrs attrs
      let children ← visit content (recordChild (ofRecordWithin fuel))
      makeCopy (.text tag) entries children) := rfl

theorem item_record {st : Store} (read : st.read? a = some (.dict es)) :
    st.item (.ref a) tagKey = match Store.under? es "tag" with
      | some tag => .ok tag
      | none => .error (.absentKey tagKey) := by
  simp only [Store.item, read, Store.entryAt, tagKey, Store.lookUp_text, Store.find?_text]
  rcases Store.under? es "tag" <;> rfl

theorem get_record {st : Store} (read : st.read? a = some (.dict es)) (name : String)
    (default : Value) :
    st.get (.ref a) (.text name) default = .ok ((Store.under? es name).getD default) := by
  simp only [Store.get, Store.object?, read, Store.lookUp_text, Store.find?_text]
  rfl

/-- A dictionary is filled in with what it leaves out, but for the tag. -/
theorem exec_ofRecordWithin (read : s.store.read? a = some (.dict es)) (fuel : Nat) :
    (ofRecordWithin (fuel + 1) (.ref a)).exec s = match Store.under? es "tag" with
      | some tag => (fillRecord fuel tag ((Store.under? es "attrs").getD (.ref s.store.size))
          ((Store.under? es "_").getD (.ref (s.store.size + 1)))).exec
          { s with store := s.store.withDefaults }
      | none => (.error (.absentKey tagKey), s) := by
  rw [ofRecordWithin_succ, exec_bind_ok (exec_getStore s), item_record read]
  rcases Store.under? es "tag" with _ | tag
  · exact exec_bind_error (exec_lift _ s) _
  · simp only [attrsKey, childrenKey, get_record read]
    rw [exec_bind_ok (exec_lift _ s), exec_bind_ok (exec_alloc _ s), exec_bind_ok (exec_lift _ _),
      exec_bind_ok (exec_alloc _ _), exec_bind_ok (exec_lift _ _), Store.size_alloc]
    rfl

theorem exec_checkEntry {e : Value × Value} (key : e.1.isText) (value : attrText? e.2 ≠ none) :
    (checkEntry e).exec s = (.ok (), s) := by
  have some : (attrText? e.2).isNone = false := Option.isNone_eq_false_iff.mpr
    (Option.isSome_iff_ne_none.mpr value)
  simp [checkEntry, key, some]

theorem exec_checkEntries (fine : ∀ e ∈ attrs, e.1.isText ∧ attrText? e.2 ≠ none) :
    (attrs.forM checkEntry).exec s = (.ok (), s) := by
  induction attrs with
  | nil => rfl
  | cons e attrs ih =>
    obtain ⟨⟨key, value⟩, fine⟩ := List.forall_mem_cons.mp fine
    change (checkEntry e >>= fun _ => attrs.forM checkEntry).exec s = _
    rw [exec_bind_ok (exec_checkEntry key value), ih fine]

theorem exec_checkAttrs {v : Value} (dict : s.store.object? v = some (.dict attrs))
    (fine : ∀ e ∈ attrs, e.1.isText ∧ attrText? e.2 ≠ none) :
    (checkAttrs v).exec s = (.ok attrs, s) := by
  unfold checkAttrs
  rw [exec_bind_ok (exec_getStore s)]
  simp only [dict]
  rw [exec_bind_ok (exec_checkEntries fine)]
  rfl

/-- One record, if its children can be made. -/
theorem givesOne_record {tag : String} {kids : Draft} (read : s.store.read? a = some (.dict es))
    (tagged : Store.under? es "tag" = some (.text tag)) (nonempty : tag ≠ "")
    (dict : s.store.recordAttrs? es = some attrs)
    (fine : ∀ e ∈ attrs, e.1.isText ∧ attrText? e.2 ≠ none)
    (list : s.store.recordItems? es = some items)
    (children : ∀ t : Session, s.store.Grows t.store →
      GivesAll t (items.mapM (recordChild (ofRecordWithin fuel))) kids) :
    GivesOne s (ofRecordWithin (fuel + 1) (.ref a))
      (.node tag (attrs.map settledEntry) kids .nil) := by
  have grows := Store.grows_withDefaults s.store
  have checked := exec_checkAttrs (s := { s with store := s.store.withDefaults })
    (Store.object?_recordAttrs dict) fine
  have sequence := Store.sequence?_of_object? (Store.object?_recordItems list)
  have visited := visit_of_sequence (s := { s with store := s.store.withDefaults })
    (recordChild (ofRecordWithin fuel)) sequence
  have made := (children { s with store := s.store.withDefaults } grows).makeCopy nonempty
    fun e member => (fine e member).2
  refine made.after ?_ grows
  rw [exec_ofRecordWithin read, tagged]
  simp only [fillRecord_text]
  rw [exec_bind_ok checked, exec_bind, exec_bind, visited]

theorem exec_recordChild_record {below : Value → Eval Value}
    (read : s.store.read? a = some (.dict es)) :
    (recordChild below (.ref a)).exec s = (below (.ref a)).exec s := by
  have other : s.store.isNode (.ref a) = false := by
    simp [Store.isNode, Store.node?, Store.object?, read]
  unfold recordChild
  rw [exec_bind_ok (exec_getStore s)]
  simp [other, Value.isText, Store.object?, read]

theorem givesOne_recordChild_kept {below : Value → Eval Value} {v : Value}
    (fine : s.store.isChild v) : GivesOne s (recordChild below v) (.kept v .nil) := by
  have kept : (recordChild below v).exec s = (pure v : Eval Value).exec s := by
    unfold recordChild
    rw [exec_bind_ok (exec_getStore s)]
    simp [show (v.isText || s.store.isNode v) = true from fine]
  exact (givesOne_kept fine).after kept (.refl s.store)

theorem givesAll_children {st : Store} {vs : List Value} {draft : Draft}
    {below : Value → Eval Value} (drafts : st.Drafts vs draft) (grows : st.Grows s.store)
    (each : ∀ b tag attrs kids, .ref b ∈ vs → st.Drafts [.ref b] (.node tag attrs kids .nil) →
      ∀ t : Session, st.Grows t.store →
        GivesOne t (below (.ref b)) (Draft.node tag attrs kids .nil).settled) :
    GivesAll s (vs.mapM (recordChild below)) draft.settled := by
  induction drafts generalizing s with
  | nil => exact givesAll_nil s
  | kept fine _ ih =>
    rw [List.mapM_cons]
    refine (givesOne_recordChild_kept (grows.isChild fine)).cons ?_
    intro t later
    exact ih (grows.trans later) fun b tag attrs kids member =>
      each b tag attrs kids (.tail _ member)
  | record read tagged nonempty dict fine list below' _ _ ih =>
    rw [List.mapM_cons]
    have first := each _ _ _ _ (.head _)
      (.record read tagged nonempty dict fine list below' .nil) s grows
    have child := first.after (exec_recordChild_record (grows _ _ read)) (.refl s.store)
    refine child.cons ?_
    intro t later
    exact ih (grows.trans later) fun b tag attrs kids member =>
      each b tag attrs kids (.tail _ member)

/-- The fuel lasts, as each level takes one of the steps that lead down. -/
theorem givesOne_ofRecordWithin {st : Store} {tag : String} {kids : Draft}
    (ranked : Ranked st.Nests fuel a) (drafts : st.Drafts [.ref a] (.node tag attrs kids .nil))
    (grows : st.Grows s.store) :
    GivesOne s (ofRecordWithin fuel (.ref a)) (Draft.node tag attrs kids .nil).settled := by
  induction ranked generalizing s tag attrs kids with
  | step _ ih =>
    cases drafts with
    | record read tagged nonempty dict fine list below _ =>
      refine givesOne_record (grows _ _ read) tagged nonempty (grows.held? dict) fine
        (grows.held? list) ?_
      intro t later
      refine givesAll_children below (grows.trans later) ?_
      intro b tag' attrs' kids' member drafts'
      have inner := drafts'
      cases inner with
      | record read' =>
        intro u grows'
        exact ih b ⟨_, _, _, read, list, member, read'⟩ drafts' grows'

theorem givesOne_ofRecord {tag : String} {kids : Draft}
    (drafts : s.store.Drafts [.ref a] (.node tag attrs kids .nil)) :
    GivesOne s (ofRecord (.ref a)) (Draft.node tag attrs kids .nil).settled := by
  have start : (ofRecord (.ref a)).exec s = (ofRecordWithin s.store.depth (.ref a)).exec s :=
    exec_bind_ok (exec_getStore s) _
  have made := givesOne_ofRecordWithin drafts.ranked drafts (.refl s.store)
  exact made.after start (.refl s.store)

/-- A record that has the form it should have, with whatever depth, becomes a node as it says:
what is left out is empty, numbers among the attributes are texts, and nodes among the children are
the same. All that was there stays. No container of the new nodes was there before, nor belongs to
two of them, so that what is done to either side later makes no difference to the other. -/
theorem record_becomes_node_of_its_own {tag : String} {kids : Draft}
    (drafts : s.store.Drafts [.ref a] (.node tag attrs kids .nil)) :
    ∃ b st owned, (ofRecord (.ref a)).exec s = (.ok b, { s with store := st }) ∧
      s.store.Makes st [b] (Draft.node tag attrs kids .nil).settled owned ∧
      (∀ st' : Store, (∀ o ∈ owned, st'.read? o = st.read? o) →
        st'.Stands [b] (Draft.node tag attrs kids .nil).settled owned) ∧
      ∀ st' : Store, (∀ o, o ∉ owned → st'.read? o = st.read? o) →
        st'.Drafts [.ref a] (.node tag attrs kids .nil) := by
  obtain ⟨b, st, owned, done, makes⟩ := givesOne_ofRecord drafts
  refine ⟨b, st, owned, done, makes, fun _ same => makes.stands.congr same, ?_⟩
  -- What the record is made of was there before, and so is not owned by the nodes.
  intro st' same
  refine drafts.grows ?_
  intro o object read
  have old : o ∉ owned := fun member =>
    absurd (Store.lt_of_read? read) (Nat.not_lt.mpr (makes.fresh o member))
  rw [same o old, makes.grows o object read]

def nestedRecord : Session where
  store := ⟨#[.dict [], .list [], .node ⟨"n", 0, 1⟩, .dict [(.text "tag", .text "b")],
    .dict [(.text "x", .int 1), (.text "y", .text "z")], .list [.text "t", .ref 2, .ref 3],
    .dict [(.text "tag", .text "a"), (.text "attrs", .ref 4), (.text "_", .ref 5)]], 0⟩

def nestedDraft : Draft :=
  .node "a" [(.text "x", .int 1), (.text "y", .text "z")]
    (.kept (.text "t") (.kept (.ref 2) (.node "b" [] .nil .nil))) .nil

theorem nestedRecord_becomes_node :
    nestedRecord.store.Drafts [.ref 6] nestedDraft ∧
      ∃ b st owned, (ofRecord (.ref 6)).exec nestedRecord =
          (.ok b, { nestedRecord with store := st }) ∧
        nestedRecord.store.Makes st [b] nestedDraft.settled owned ∧
        (∀ st' : Store, (∀ o ∈ owned, st'.read? o = st.read? o) →
          st'.Stands [b] nestedDraft.settled owned) ∧
        ∀ st' : Store, (∀ o, o ∉ owned → st'.read? o = st.read? o) →
          st'.Drafts [.ref 6] nestedDraft := by
  have inner : nestedRecord.store.Drafts [.ref 3] (.node "b" [] .nil .nil) :=
    .record rfl rfl (by decide) rfl (by simp) rfl .nil .nil
  have drafts : nestedRecord.store.Drafts [.ref 6] nestedDraft :=
    .record rfl rfl (by decide) rfl (by decide) rfl (.kept rfl (.kept rfl inner)) .nil
  exact ⟨drafts, record_becomes_node_of_its_own drafts⟩

end Node

end TreeQuery
