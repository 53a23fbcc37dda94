import TreeQuery.Proofs.Node.Calls

namespace TreeQuery

namespace Store

theorem read?_of_tupleItems? {st : Store} {v : Value} {vs : List Value}
    (items : st.tupleItems? v = some vs) : ∃ a o, v = .ref a ∧ st.read? a = some o ∧
      (o = .tuple vs ∨ ∃ step, o = .step step ∧ step.toList = vs) := by
  cases v with
  | ref a =>
    rcases read : st.read? a with _ | o
    · simp [tupleItems?, object?, read] at items
    · refine ⟨a, o, rfl, read, ?_⟩
      cases o <;> simp_all [tupleItems?, object?]
  | _ => cases items

end Store

namespace Eval

variable {s : Session}

theorem exec_visitLeft_pure {a : Addr} {xs : List Value} {fuel : Nat}
    (enough : xs.length ≤ fuel) (read : s.store.read? a = some (.iterator xs)) :
    (visitLeft a pure fuel).exec s =
      (.ok xs, { s with store := s.store.write a (.iterator []) }) := by
  induction fuel generalizing xs s with
  | zero =>
    obtain rfl : xs = [] := List.length_eq_zero_iff.mp (Nat.le_zero.mp enough)
    rw [Store.write_of_read? read]
    rfl
  | succ fuel ih =>
    unfold visitLeft
    rw [exec_bind_ok (exec_getStore s), read]
    cases xs with
    | nil =>
      rw [Store.write_of_read? read]
      rfl
    | cons x xs =>
      have left := Store.read?_write_self s.store (.iterator xs) (Store.lt_of_read? read)
      have rest := ih (s := { s with store := s.store.write a (.iterator xs) })
        (by simpa using enough) left
      simp only [Store.write_write] at rest
      simp only
      rw [exec_bind_ok (exec_write a _ s), exec_bind_ok (exec_pure x _), exec_bind_ok rest]
      rfl

theorem exec_items_iterator {a : Addr} {xs : List Value}
    (read : s.store.read? a = some (.iterator xs)) :
    (items (.ref a)).exec s = (.ok xs, { s with store := s.store.write a (.iterator []) }) := by
  unfold items visit
  rw [exec_bind_ok (exec_getStore s)]
  simp only [Store.items?, read]
  exact exec_visitLeft_pure (Nat.le_refl _) read

theorem exec_items {v : Value} {xs : List Value} (given : s.store.items? v = some xs) :
    ∃ t, (items v).exec s = (.ok xs, t) := by
  have either : s.store.sequence? v = some xs ∨
      ∃ a, v = .ref a ∧ s.store.read? a = some (.iterator xs) := by
    unfold Store.sequence?
    split
    · next ys object =>
      cases v with
      | ref a =>
        have read : s.store.read? a = some (.iterator ys) := object
        have same : ys = xs := by simpa [Store.items?, read] using given
        exact .inr ⟨a, rfl, same ▸ read⟩
      | _ => cases object
    · exact .inl given
  rcases either with sequence | ⟨a, rfl, read⟩
  · exact ⟨s, items_of_sequence sequence⟩
  · exact ⟨_, exec_items_iterator read⟩

end Eval

namespace Node

open Eval

/-- The list in which the children of a new node are to be, the items that are given for it, and
the store in which it is there: the list that is given, or a new one. -/
inductive Lists (st : Store) : Value → List Value → Addr → Store → Prop
  | one {v : Value} (single : st.isNode v || v.isTextOrNumber) :
      Lists st v [v] st.size (st.alloc (.list [v])).2
  | list {c : Addr} {vs : List Value} (read : st.read? c = some (.list vs)) :
      Lists st (.ref c) vs c st
  | tuple {v : Value} {vs : List Value} (items : st.tupleItems? v = some vs) :
      Lists st v vs st.size (st.alloc (.list vs)).2
  | iterator {b : Addr} {vs : List Value} (read : st.read? b = some (.iterator vs)) :
      Lists st (.ref b) vs st.size ((st.write b (.iterator [])).alloc (.list vs)).2

namespace Lists

variable {st st' : Store} {content : Value} {vs : List Value} {c : Addr}

theorem read (lists : Lists st content vs c st') : st'.read? c = some (.list vs) := by
  cases lists with
  | one => exact Store.read?_alloc_self st _
  | list read => exact read
  | tuple => exact Store.read?_alloc_self st _
  | @iterator b _ read =>
    have made := Store.read?_alloc_self (st.write b (.iterator [])) (.list vs)
    rwa [Store.alloc, Store.size_write] at made

theorem sameNodes (lists : Lists st content vs c st') : st.SameNodes st' := by
  cases lists with
  | one => exact Store.sameNodes_alloc rfl
  | list => exact fun _ _ => .rfl
  | tuple => exact Store.sameNodes_alloc rfl
  | iterator read =>
    intro b n
    exact (Store.sameNodes_alloc rfl b n).trans (Store.sameNodes_write read rfl rfl b n)

theorem read?_dict (lists : Lists st content vs c st') {a : Addr} {es : Entries}
    (dict : st.read? a = some (.dict es)) : st'.read? a = some (.dict es) := by
  cases lists with
  | one => exact Store.grows_alloc st _ a _ dict
  | list => exact dict
  | tuple => exact Store.grows_alloc st _ a _ dict
  | @iterator b _ read =>
    have other : b ≠ a := by
      rintro rfl
      cases read.symm.trans dict
    exact Store.grows_alloc _ _ a _ ((Store.read?_write_of_ne st _ other).trans dict)

theorem given_or_new (lists : Lists st content vs c st') :
    content = .ref c ∧ (∃ vs, st.read? c = some (.list vs)) ∨
      (∀ vs, st.object? content ≠ some (.list vs)) ∧ st.size ≤ c := by
  cases lists with
  | one single =>
    refine .inr ⟨?_, Nat.le_refl _⟩
    intro vs list
    cases content with
    | ref b => simp [Store.isNode, Store.node?, list, Value.isTextOrNumber] at single
    | _ => cases list
  | list read => exact .inl ⟨rfl, vs, read⟩
  | tuple items =>
    refine .inr ⟨?_, Nat.le_refl _⟩
    intro ws list
    simp [Store.tupleItems?, list] at items
  | iterator read =>
    refine .inr ⟨?_, Nat.le_refl _⟩
    intro ws list
    cases read.symm.trans list

theorem eq_of_list {b : Addr} {ws : List Value} (lists : Lists st (.ref b) vs c st')
    (read : st.read? b = some (.list ws)) : c = b := by
  rcases lists.given_or_new with ⟨same, _⟩ | ⟨other, _⟩
  · exact Value.ref.inj same.symm
  · exact absurd read (other ws)

theorem exec_childList_items {s t : Session} (several : child? s.store content = none)
    (other : ∀ vs, s.store.object? content ≠ some (.list vs))
    (gone : (items content).exec s = (.ok vs, t)) :
    (childList content).exec s =
      (.ok t.store.size, { t with store := (t.store.alloc (.list vs)).2 }) := by
  unfold childList
  rw [exec_bind_ok (exec_getStore s), several]
  simp only [Option.isSome_none, Bool.false_eq_true, if_false]
  split
  · next a ws list => exact absurd list (other ws)
  · rw [exec_bind_ok gone, exec_allocAt]

theorem exec {s : Session} (lists : Lists s.store content vs c st') :
    (childList content).exec s = (.ok c, { s with store := st' }) := by
  cases lists with
  | one single =>
    have some_ : (child? s.store content).isSome := by
      rw [child?_eq, if_pos single]
      rfl
    unfold childList
    rw [exec_bind_ok (exec_getStore s), if_pos some_, exec_allocAt]
  | list read => exact exec_childList_list read
  | tuple items =>
    have gone := items_of_sequence (Store.sequence?_of_tupleItems? items)
    refine exec_childList_items ?_ ?_ gone
    · obtain ⟨b, o, rfl, read, rfl | ⟨step, rfl, _⟩⟩ := Store.read?_of_tupleItems? items <;>
        simp [child?_eq, Store.isNode, Store.node?, Store.object?, read, Value.isTextOrNumber]
    · intro ws list
      simp [Store.tupleItems?, list] at items
  | @iterator b _ read =>
    have several : child? s.store (.ref b) = none := by
      simp [child?_eq, Store.isNode, Store.node?, Store.object?, read, Value.isTextOrNumber]
    have other : ∀ vs, s.store.object? (.ref b) ≠ some (.list vs) := by
      intro ws list
      cases read.symm.trans list
    have made := exec_childList_items several other (exec_items_iterator read)
    simpa only [Store.size_write] using made

theorem size_le (lists : Lists st content vs c st') : st.size ≤ st'.size := by
  cases lists with
  | one => simp
  | list => exact Nat.le_refl _
  | tuple => simp
  | iterator => simp

end Lists

/-- What is given as children, and the items that are to be the children. -/
inductive Gives (st : Store) : Value → List Value → Prop
  | one {v : Value} (single : st.isNode v || v.isTextOrNumber) : Gives st v [v]
  | list {c : Addr} {vs : List Value} (read : st.read? c = some (.list vs)) : Gives st (.ref c) vs
  | tuple {v : Value} {vs : List Value} (items : st.tupleItems? v = some vs) : Gives st v vs
  | iterator {b : Addr} {vs : List Value} (read : st.read? b = some (.iterator vs)) :
    Gives st (.ref b) vs

theorem Gives.exists_lists {st : Store} {content : Value} {vs : List Value}
    (gives : Gives st content vs) : ∃ c st', Lists st content vs c st' := by
  cases gives with
  | one single => exact ⟨_, _, .one single⟩
  | list read => exact ⟨_, _, .list read⟩
  | tuple items => exact ⟨_, _, .tuple items⟩
  | iterator read => exact ⟨_, _, .iterator read⟩

namespace Holds

variable {st st' : Store} {attrs : Value} {a b : Addr} {es : Entries}

theorem size_le (holds : Holds st attrs a es st') : st.size ≤ st'.size := by
  cases holds with
  | fresh => simp
  | given => exact Nat.le_refl _

theorem eq_of_ref (holds : Holds st (.ref b) a es st') : a = b := by
  cases holds
  rfl

theorem eq_of_null (holds : Holds st .null a es st') : a = st.size := by
  cases holds
  rfl

theorem read?_iff (holds : Holds st attrs a es st') (fs : Entries) {o : Object}
    (other : ∀ es, o ≠ .dict es) :
    (st'.write a (.dict fs)).read? b = some o ↔ st.read? b = some o := by
  have apart : ∀ {st : Store} {fs : Entries}, st.read? a = some (.dict fs) →
      st.read? b = some o → a ≠ b := by
    rintro st fs dict read rfl
    exact other fs (Option.some.inj (read.symm.trans dict))
  have written := Store.read?_write_self st' (.dict fs) (Store.lt_of_read? holds.read)
  constructor
  · intro read
    rw [Store.read?_write_of_ne st' _ (apart written read)] at read
    cases holds with
    | given => exact read
    | fresh =>
      rcases Store.read?_of_alloc read with old | rfl
      · exact old
      · exact absurd rfl (other [])
  · intro read
    have read' : st'.read? b = some o := by
      cases holds with
      | given => exact read
      | fresh => exact Store.grows_alloc st _ b o read
    rw [Store.read?_write_of_ne st' _ (apart holds.read read'), read']

theorem sameNodes_write (holds : Holds st attrs a es st') (fs : Entries) :
    st.SameNodes (st'.write a (.dict fs)) :=
  fun _ _ => holds.read?_iff fs (by simp)

theorem gives (holds : Holds st attrs a es st') (fs : Entries) {content : Value}
    {vs : List Value} (gives : Gives st content vs) :
    Gives (st'.write a (.dict fs)) content vs := by
  cases gives with
  | one single =>
    rw [← (holds.sameNodes_write fs).isNode] at single
    exact .one single
  | list read => exact .list ((holds.read?_iff fs (by simp)).mpr read)
  | tuple items =>
    obtain ⟨b, o, rfl, read, is⟩ := Store.read?_of_tupleItems? items
    have kept := (holds.read?_iff fs (by rcases is with rfl | ⟨step, rfl, _⟩ <;> simp)).mpr read
    refine .tuple ?_
    rcases is with rfl | ⟨step, rfl, rfl⟩ <;> simp [Store.tupleItems?, Store.object?, kept]
  | iterator read => exact .iterator ((holds.read?_iff fs (by simp)).mpr read)

end Holds

end Node

end TreeQuery
