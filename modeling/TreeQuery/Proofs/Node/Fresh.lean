import TreeQuery.Node.Element
import TreeQuery.Node.Record
import TreeQuery.Proofs.Keeping
import TreeQuery.Proofs.Node.Make

namespace TreeQuery

namespace Store

def withNode (st : Store) (tag : String) (es : Entries) (vs : List Value) : Store :=
  (((st.alloc (.dict es)).2.alloc (.list vs)).2.alloc (.node ⟨tag, st.size, st.size + 1⟩)).2

section WithNode

variable (st : Store) (tag : String) (es : Entries) (vs : List Value)

theorem grows_withNode : st.Grows (st.withNode tag es vs) :=
  ((grows_alloc _ _).trans (grows_alloc _ _)).trans (grows_alloc _ _)

theorem read?_withNode_attrs : (st.withNode tag es vs).read? st.size = some (.dict es) := by
  have later : st.size < ((st.alloc (.dict es)).2.alloc (.list vs)).2.size := by
    rw [size_alloc, size_alloc]
    omega
  unfold withNode
  rw [read?_alloc_of_lt _ _ later, read?_alloc_of_lt]
  · exact read?_alloc_self st _
  · simp

theorem read?_withNode_children :
    (st.withNode tag es vs).read? (st.size + 1) = some (.list vs) := by
  have made := read?_alloc_self (st.alloc (.dict es)).2 (.list vs)
  have place : ((st.alloc (.dict es)).2.alloc (.list vs)).1 = st.size + 1 := size_alloc st _
  rw [place] at made
  unfold withNode
  rw [read?_alloc_of_lt]
  · exact made
  · simp

theorem node?_withNode : (st.withNode tag es vs).node? (.ref (st.size + 2)) =
    some ⟨tag, st.size, st.size + 1⟩ := by
  have made := read?_alloc_self ((st.alloc (.dict es)).2.alloc (.list vs)).2
    (.node ⟨tag, st.size, st.size + 1⟩)
  have place : (((st.alloc (.dict es)).2.alloc (.list vs)).2.alloc
      (.node ⟨tag, st.size, st.size + 1⟩)).1 = st.size + 2 := by
    change ((st.alloc (.dict es)).2.alloc (.list vs)).2.size = st.size + 2
    simp
  rw [place] at made
  exact node?_eq_some.mpr made

end WithNode

end Store

namespace Node

open Eval

theorem replaceUntil_eq_filterMap {α : Type} {f : α → Option α} {xs : List α}
    (all : ∀ x ∈ xs, f x ≠ none) : replaceUntil f xs = (xs.filterMap f, none) := by
  induction xs with
  | nil => rfl
  | cons x xs ih =>
    obtain ⟨y, replaced⟩ := Option.ne_none_iff_exists'.mp (all x (.head _))
    have rest := ih fun x' member => all x' (.tail _ member)
    simp [replaceUntil, replaced, rest]

def makeCopy (tag : Value) (es : Entries) (vs : List Value) : Eval Value := do
  let copied ← alloc (.dict es)
  let list ← newList vs
  make ⟨tag, copied, [], .null, list, []⟩

section Keeping

variable {st : Store} {s : Session} {a c : Addr} {es : Entries} {vs : List Value}

theorem keeps_finish {parts : Parts} (keeps : st.Keeps s.store) (fresh : st.size ≤ c)
    (given : parts.content = .ref c) (list : s.store.read? c = some (.list vs)) (tag : String) :
    st.Keeps ((parts.finish tag a).exec s).2.store := by
  unfold Parts.finish
  rw [given, exec_bind_ok (exec_childList_list list)]
  by_cases refused : ∃ v ∈ vs ++ parts.more, child? s.store v = none
  · obtain ⟨left, fails, _⟩ := Parts.enterChildren_refuses list refused
    obtain ⟨fault, st', stops, drains⟩ := fails.bind fun _ => alloc (.node ⟨tag, a, c⟩)
    rw [stops]
    exact (keeps.write fresh _).trans drains.keeps
  · have all : ∀ v ∈ vs ++ parts.more, child? s.store v ≠ none := by
      intro v member none
      exact refused ⟨v, member, none⟩
    obtain ⟨left, done, _⟩ := Parts.enterChildren_accepts list all
    rw [exec_bind_ok done, exec_alloc]
    exact (keeps.write fresh _).trans (Store.grows_alloc _ _).keeps

theorem keeps_make (keeps : st.Keeps s.store) (fresh : st.size ≤ a) (fresh' : st.size ≤ c)
    (dict : s.store.read? a = some (.dict es)) (list : s.store.read? c = some (.list vs))
    (tag : Value) :
    st.Keeps ((make ⟨tag, .ref a, [], .null, .ref c, []⟩).exec s).2.store := by
  rw [Parts.make_eq, exec_bind_ok (exec_getStore s), exec_bind, exec_lift]
  rcases checkTag s.store tag with fault | tag'
  · exact keeps
  · have given : (Parts.attrsOrNew (.ref a)).exec s = (.ok (.ref a), s) := rfl
    simp only
    rw [exec_bind_ok given]
    generalize named : (⟨tag, .ref a, [], .null, .ref c, []⟩ : Parts) = parts
    have content : parts.content = .ref c := by rw [← named]
    by_cases refused : parts.conflicts s.store a es ∨ parts.spoilsDict s.store a es
    · obtain ⟨left, fails, _⟩ := Parts.enterAttrs_refuses dict refused
      obtain ⟨fault, st', stops, drains⟩ := fails.bind (parts.finish tag')
      rw [stops]
      exact (keeps.write fresh _).trans drains.keeps
    · obtain ⟨agrees, clean⟩ := not_or.mp refused
      rw [Bool.not_eq_true] at agrees clean
      obtain ⟨left, done, _⟩ := Parts.enterAttrs_accepts dict agrees clean
      have apart : a ≠ c := by
        rintro rfl
        cases dict.symm.trans list
      have list' : (s.store.write a (.dict left)).read? c = some (.list vs) := by
        rw [Store.read?_write_of_ne _ _ apart, list]
      rw [exec_bind_ok done]
      exact keeps_finish (keeps.write fresh _) fresh' content list' tag'

/-- Whatever is to be copied, nothing changes but the copies. -/
theorem keeps_makeCopy (tag : Value) (es : Entries) (vs : List Value) (s : Session) :
    KeepsFrom s (makeCopy tag es vs) := by
  have dict := Store.read?_alloc_self s.store (.dict es)
  have list := Store.read?_alloc_self (s.store.alloc (.dict es)).2 (.list vs)
  have grows := (Store.grows_alloc s.store (.dict es)).trans (Store.grows_alloc _ (.list vs))
  have later : s.store.size ≤ (s.store.alloc (.dict es)).2.size := by simp
  unfold KeepsFrom makeCopy newList
  rw [exec_bind_ok (exec_alloc _ _), exec_bind_ok (exec_alloc _ _)]
  exact keeps_make (s := { s with store := _ }) grows.keeps (Nat.le_refl _) later
    (Store.grows_alloc _ _ _ _ dict) list tag

end Keeping

section Accepted

variable {s : Session} {a c : Addr} {es : Entries} {vs : List Value} {tag : String}

theorem exec_settleAttrs (dict : s.store.read? a = some (.dict es))
    (all : ∀ e ∈ es, attrText? e.2 ≠ none) :
    (settleAttrs (.ref a)).exec s =
      (.ok a, { s with store := s.store.write a (.dict (es.filterMap settled?)) }) := by
  have done := replaceUntil_eq_filterMap fun e member => settled?_eq_none.not.mpr (all e member)
  unfold settleAttrs
  rw [exec_bind_ok (exec_getStore s)]
  simp only [Store.object?, dict, settleDict_eq, done]
  rfl

theorem filterMap_child? {st : Store} (all : ∀ v ∈ vs, st.isNode v || v.isTextOrNumber) :
    vs.filterMap (child? st) = vs.map Value.written := by
  apply List.filterMap_eq_map_iff_forall_eq_some.mpr
  intro v member
  rw [child?_eq, if_pos (all v member)]

theorem exec_settleChildren_written (list : s.store.read? c = some (.list vs))
    (all : ∀ v ∈ vs, s.store.isNode v || v.isTextOrNumber) :
    (settleChildren c).exec s =
      (.ok (), { s with store := s.store.write c (.list (vs.map Value.written)) }) := by
  have members : s.store.members c = vs := by simp [Store.members, list]
  have fine : ∀ v ∈ vs, child? s.store v ≠ none := by
    intro v member
    simp [child?_eq, all v member]
  unfold settleChildren
  rw [exec_bind_ok (exec_getStore s), members]
  simp only [replaceUntil_eq_filterMap fine, filterMap_child? all]
  rfl

theorem exec_settleChildren (list : s.store.read? c = some (.list vs))
    (fine : ∀ v ∈ vs, s.store.isChild v) : (settleChildren c).exec s = (.ok (), s) := by
  have good : ∀ v ∈ vs, s.store.isNode v || v.isTextOrNumber := fun v member =>
    (written_of_isChild (fine v member)).1
  have same : vs.map Value.written = vs := by
    simpa using List.map_congr_left fun v member => (written_of_isChild (fine v member)).2
  rw [exec_settleChildren_written list good, same, Store.write_of_read? list]

theorem checkTag_text (st : Store) (tagged : tag ≠ "") : checkTag st (.text tag) = .ok tag := by
  simp [checkTag, Store.truthy, tagged]

theorem exec_make (tagged : tag ≠ "") (dict : s.store.read? a = some (.dict es))
    (list : s.store.read? c = some (.list vs)) (all : ∀ e ∈ es, attrText? e.2 ≠ none)
    (fine : ∀ v ∈ vs, s.store.isChild v) :
    (make ⟨.text tag, .ref a, [], .null, .ref c, []⟩).exec s = (.ok (.ref s.store.size), { s with
      store := ((s.store.write a (.dict (es.filterMap settled?))).alloc
        (.node ⟨tag, a, c⟩)).2 }) := by
  -- The dictionary and the list are different objects, so that to settle one leaves the other.
  have apart : a ≠ c := by
    rintro rfl
    cases dict.symm.trans list
  have nodes : s.store.SameNodes (s.store.write a (.dict (es.filterMap settled?))) :=
    Store.sameNodes_write dict rfl rfl
  have list' : (s.store.write a (.dict (es.filterMap settled?))).read? c = some (.list vs) := by
    rw [Store.read?_write_of_ne _ _ apart, list]
  have fine' : ∀ v ∈ vs, (s.store.write a (.dict (es.filterMap settled?))).isChild v := by
    intro v member
    rw [nodes.isChild]
    exact fine v member
  have start : (liftM (checkTag s.store (.text tag)) : Eval String).exec s = (.ok tag, s) := by
    rw [checkTag_text s.store tagged]
    exact exec_lift _ s
  have given : (Parts.attrsOrNew (.ref a)).exec s = (.ok (.ref a), s) := rfl
  have entered : (Parts.enterAttrs ⟨.text tag, .ref a, [], .null, .ref c, []⟩ (.ref a)).exec s =
      (.ok a, { s with store := s.store.write a (.dict (es.filterMap settled?)) }) := by
    simpa [Parts.enterAttrs, Parts.enterClass] using exec_settleAttrs dict all
  have filled : (Parts.enterChildren ⟨.text tag, .ref a, [], .null, .ref c, []⟩ c).exec
      { s with store := s.store.write a (.dict (es.filterMap settled?)) } =
      (.ok (), { s with store := s.store.write a (.dict (es.filterMap settled?)) }) := by
    rw [Parts.exec_enterChildren list']
    simp only [List.append_nil, Store.write_of_read? list']
    exact exec_settleChildren list' fine'
  rw [Parts.make_eq, exec_bind_ok (exec_getStore s), exec_bind_ok start, exec_bind_ok given,
    exec_bind_ok entered]
  unfold Parts.finish
  rw [exec_bind_ok (exec_childList_list list'), exec_bind_ok filled, exec_alloc, Store.size_write]

/-- If the copies are accepted, numbers among the attributes have become texts, and nothing has been
made but what belongs to the node. -/
theorem exec_makeCopy (s : Session) (tagged : tag ≠ "") (all : ∀ e ∈ es, attrText? e.2 ≠ none)
    (fine : ∀ v ∈ vs, s.store.isChild v) :
    (makeCopy (.text tag) es vs).exec s = (.ok (.ref (s.store.size + 2)), { s with
      store := s.store.withNode tag (es.filterMap settled?) vs }) := by
  have dict := Store.read?_alloc_self s.store (.dict es)
  have dict' := Store.grows_alloc _ (.list vs) _ _ dict
  have list := Store.read?_alloc_self (s.store.alloc (.dict es)).2 (.list vs)
  have older : s.store.size < (s.store.alloc (.dict es)).2.size := by simp
  have nodes : s.store.SameNodes ((s.store.alloc (.dict es)).2.alloc (.list vs)).2 := fun b n =>
    (Store.sameNodes_alloc rfl b n).trans (Store.sameNodes_alloc rfl b n)
  have fine' : ∀ v ∈ vs, ((s.store.alloc (.dict es)).2.alloc (.list vs)).2.isChild v := by
    intro v member
    rw [nodes.isChild]
    exact fine v member
  -- The dictionary is settled in place, behind the list, as if it had been made so.
  have settled : ((s.store.alloc (.dict es)).2.alloc (.list vs)).2.write s.store.size
      (.dict (es.filterMap settled?)) =
      ((s.store.alloc (.dict (es.filterMap settled?))).2.alloc (.list vs)).2 := by
    rw [Store.alloc_write_old _ _ _ older, Store.alloc_write_new]
  have place : ((s.store.alloc (.dict es)).2.alloc (.list vs)).1 = s.store.size + 1 :=
    Store.size_alloc s.store _
  have made := exec_make (s := { s with
    store := ((s.store.alloc (.dict es)).2.alloc (.list vs)).2 }) tagged dict' list all fine'
  rw [place] at made
  change _ = (_, { s with store := ((Store.write _ s.store.size _).alloc _).2 }) at made
  rw [settled, Store.size_alloc, Store.size_alloc] at made
  unfold makeCopy newList
  rw [exec_bind_ok (exec_alloc _ _), exec_bind_ok (exec_alloc _ _), Store.size_alloc]
  exact made

end Accepted

end Node

end TreeQuery
