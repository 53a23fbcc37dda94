import TreeQuery.Proofs.Node.Fresh

/-! Trees of nodes as they are drafted, and as they stand in a store once they have been made: out
of objects of their own. -/

namespace TreeQuery

def Node.settledEntry (e : Value × Value) : Value × Value := (e.1, (attrText? e.2).getD e.2)

/-- Children as they are drafted: values that are kept as they are, and nodes to be made. -/
inductive Draft
  | nil
  | kept (v : Value) (rest : Draft)
  | node (tag : String) (attrs : Entries) (kids rest : Draft)

namespace Draft

def settled : Draft → Draft
  | nil => nil
  | kept v rest => kept v rest.settled
  | node tag attrs kids rest =>
    node tag (attrs.map Node.settledEntry) kids.settled rest.settled

def append : Draft → Draft → Draft
  | nil, later => later
  | kept v rest, later => kept v (rest.append later)
  | node tag attrs kids rest, later => node tag attrs kids (rest.append later)

end Draft

namespace Store

theorem Grows.isChild {st st' : Store} (grows : st.Grows st') {v : Value} (fine : st.isChild v) :
    st'.isChild v := by
  rcases Bool.or_eq_true_iff.mp fine with text | node
  · simp [Store.isChild, text]
  · simp [Store.isChild, grows.keeps.isNode node]

/-- Some values are the children that were drafted: those to keep, and nodes with the tags, the
attributes and the children of the draft. `owned` are the addresses of these nodes, of their
attributes and of their lists of children. -/
inductive Stands (st : Store) : List Value → Draft → List Addr → Prop
  | nil : Stands st [] .nil []
  | kept {v : Value} {vs : List Value} {rest : Draft} {owned : List Addr}
      (later : Stands st vs rest owned) : Stands st (v :: vs) (.kept v rest) owned
  | node {a : Addr} {n : Node} {attrs : Entries} {children vs : List Value} {kids rest : Draft}
      {inner outer : List Addr} (node : st.read? a = some (.node n))
      (dict : st.read? n.attrs = some (.dict attrs))
      (list : st.read? n.children = some (.list children)) (below : Stands st children kids inner)
      (later : Stands st vs rest outer) :
      Stands st (.ref a :: vs) (.node n.tag attrs kids rest)
        (a :: n.attrs :: n.children :: (inner ++ outer))

namespace Stands

variable {st st' : Store} {vs ws : List Value} {draft draft' : Draft} {owned owned' : List Addr}

theorem congr (stands : st.Stands vs draft owned)
    (same : ∀ a ∈ owned, st'.read? a = st.read? a) : st'.Stands vs draft owned := by
  induction stands with
  | nil => exact .nil
  | kept _ ih => exact .kept (ih same)
  | node node dict list _ _ ihBelow ihLater =>
    simp only [List.forall_mem_cons, List.forall_mem_append] at same
    obtain ⟨sameNode, sameDict, sameList, sameInner, sameOuter⟩ := same
    exact .node (sameNode.trans node) (sameDict.trans dict) (sameList.trans list)
      (ihBelow sameInner) (ihLater sameOuter)

theorem exists_read (stands : st.Stands vs draft owned) :
    ∀ a ∈ owned, ∃ o, st.read? a = some o := by
  induction stands with
  | nil => simp
  | kept _ ih => exact ih
  | node node dict list _ _ ihBelow ihLater =>
    simp only [List.forall_mem_cons, List.forall_mem_append]
    exact ⟨⟨_, node⟩, ⟨_, dict⟩, ⟨_, list⟩, ihBelow, ihLater⟩

theorem lt_size (stands : st.Stands vs draft owned) : ∀ a ∈ owned, a < st.size := by
  intro a member
  obtain ⟨o, read⟩ := stands.exists_read a member
  exact lt_of_read? read

theorem grows (stands : st.Stands vs draft owned) (grows : st.Grows st') :
    st'.Stands vs draft owned := by
  apply stands.congr
  intro a member
  obtain ⟨o, read⟩ := stands.exists_read a member
  rw [read, grows a o read]

theorem append (first : st.Stands vs draft owned) (second : st.Stands ws draft' owned') :
    st.Stands (vs ++ ws) (draft.append draft') (owned ++ owned') := by
  induction first with
  | nil => exact second
  | kept _ ih => exact .kept ih
  | node node dict list below _ _ ih =>
    simp only [List.cons_append, List.append_assoc]
    exact .node node dict list below ih

end Stands

/-- Between two stores, children have been made as they were drafted. All that they own is new and
belongs to one of them alone. -/
structure Makes (st st' : Store) (vs : List Value) (draft : Draft) (owned : List Addr) : Prop where
  grows : st.Grows st'
  stands : st'.Stands vs draft owned
  nodup : owned.Nodup
  fresh : ∀ a ∈ owned, st.size ≤ a
  children : ∀ v ∈ vs, st'.isChild v

namespace Makes

variable {st st' st'' : Store} {vs ws : List Value} {draft draft' : Draft}
  {owned owned' : List Addr}

theorem nil (st : Store) : st.Makes st [] .nil [] :=
  ⟨.refl st, .nil, .nil, by simp, by simp⟩

theorem kept {v : Value} (fine : st.isChild v) : st.Makes st [v] (.kept v .nil) [] :=
  ⟨.refl st, .kept .nil, .nil, by simp, by simpa using fine⟩

theorem after (makes : st'.Makes st'' vs draft owned) (grows : st.Grows st') :
    st.Makes st'' vs draft owned where
  grows := grows.trans makes.grows
  stands := makes.stands
  nodup := makes.nodup
  fresh a member := Nat.le_trans grows.size_le (makes.fresh a member)
  children := makes.children

theorem append (first : st.Makes st' vs draft owned) (second : st'.Makes st'' ws draft' owned') :
    st.Makes st'' (vs ++ ws) (draft.append draft') (owned ++ owned') where
  grows := first.grows.trans second.grows
  stands := (first.stands.grows second.grows).append second.stands
  nodup := by
    refine List.nodup_append.mpr ⟨first.nodup, second.nodup, ?_⟩
    rintro a member _ member' rfl
    have old := first.stands.lt_size a member
    have new := second.fresh a member'
    exact absurd old (Nat.not_lt.mpr new)
  fresh := by
    rw [List.forall_mem_append]
    exact ⟨first.fresh, fun a member => Nat.le_trans first.grows.size_le (second.fresh a member)⟩
  children := by
    rw [List.forall_mem_append]
    exact ⟨fun v member => second.grows.isChild (first.children v member), second.children⟩

theorem withNode (makes : st.Makes st' vs draft owned) (tag : String) (es : Entries) :
    st.Makes (st'.withNode tag es vs) [.ref (st'.size + 2)] (.node tag es draft .nil)
      ((st'.size + 2) :: st'.size :: (st'.size + 1) :: (owned ++ [])) where
  grows := makes.grows.trans (grows_withNode st' tag es vs)
  stands := by
    have below := makes.stands.grows (grows_withNode st' tag es vs)
    have node := node?_eq_some.mp (node?_withNode st' tag es vs)
    exact .node node (read?_withNode_attrs st' tag es vs) (read?_withNode_children st' tag es vs)
      below .nil
  nodup := by
    have far : ∀ i, st'.size + i ∉ owned := by
      intro i member
      have inside := makes.stands.lt_size _ member
      exact absurd inside (Nat.not_lt.mpr (Nat.le_add_right _ i))
    have apart : st'.size ∉ owned := far 0
    simp [far 1, far 2, apart, makes.nodup]
  fresh := by
    have later := makes.grows.size_le
    simp only [List.append_nil, List.forall_mem_cons]
    exact ⟨by omega, later, by omega, makes.fresh⟩
  children := by
    have node := node?_withNode st' tag es vs
    simp [isChild, isNode, node]

end Makes

end Store

namespace Node

theorem filterMap_settled? {es : Entries} (all : ∀ e ∈ es, attrText? e.2 ≠ none) :
    es.filterMap settled? = es.map settledEntry := by
  apply List.filterMap_eq_map_iff_forall_eq_some.mpr
  intro e member
  obtain ⟨v, text⟩ := Option.ne_none_iff_exists'.mp (all e member)
  simp [settled?, settledEntry, text]

end Node

namespace Eval

def GivesOne (s : Session) (x : Eval Value) (draft : Draft) : Prop :=
  ∃ v st owned, x.exec s = (.ok v, { s with store := st }) ∧ s.store.Makes st [v] draft owned

def GivesAll (s : Session) (x : Eval (List Value)) (draft : Draft) : Prop :=
  ∃ vs st owned, x.exec s = (.ok vs, { s with store := st }) ∧ s.store.Makes st vs draft owned

variable {s : Session} {draft draft' : Draft}

theorem givesAll_nil (s : Session) : GivesAll s (pure []) .nil :=
  ⟨[], s.store, [], rfl, .nil s.store⟩

theorem givesOne_kept {v : Value} (fine : s.store.isChild v) :
    GivesOne s (pure v) (.kept v .nil) :=
  ⟨v, s.store, [], rfl, .kept fine⟩

theorem GivesOne.cons {x : Eval Value} {rest : Eval (List Value)} (first : GivesOne s x draft)
    (later : ∀ t : Session, s.store.Grows t.store → GivesAll t rest draft') :
    GivesAll s (x >>= fun v => rest >>= fun vs => pure (v :: vs)) (draft.append draft') := by
  obtain ⟨v, st, owned, done, makes⟩ := first
  obtain ⟨vs, st', owned', done', makes'⟩ := later { s with store := st } makes.grows
  refine ⟨v :: vs, st', owned ++ owned', ?_, makes.append makes'⟩
  rw [exec_bind_ok done, exec_bind_ok done']
  rfl

/-- Objects that are made first make no difference. -/
theorem GivesOne.after {x y : Eval Value} {st : Store}
    (given : GivesOne { s with store := st } x draft)
    (same : y.exec s = x.exec { s with store := st }) (grows : s.store.Grows st) :
    GivesOne s y draft := by
  obtain ⟨v, st', owned, done, makes⟩ := given
  exact ⟨v, st', owned, same.trans done, makes.after grows⟩

theorem GivesAll.makeCopy {x : Eval (List Value)} {tag : String} {es : Entries}
    (children : GivesAll s x draft) (tagged : tag ≠ "")
    (all : ∀ e ∈ es, Node.attrText? e.2 ≠ none) :
    GivesOne s (x >>= Node.makeCopy (.text tag) es)
      (.node tag (es.map Node.settledEntry) draft .nil) := by
  obtain ⟨vs, st, inner, done, makes⟩ := children
  have made := Node.exec_makeCopy { s with store := st } tagged all makes.children
  rw [Node.filterMap_settled? all] at made
  exact ⟨_, _, _, (exec_bind_ok done _).trans made, makes.withNode tag (es.map Node.settledEntry)⟩

end Eval

end TreeQuery
