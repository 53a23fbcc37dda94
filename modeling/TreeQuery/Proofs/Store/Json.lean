import TreeQuery.Proofs.Evaluation
import TreeQuery.Proofs.Node.Sound
import TreeQuery.Proofs.Store.TextKeys

namespace TreeQuery

def Value.isPlain : Value → Bool
  | .null | .bool _ | .int _ | .float _ | .text _ => true
  | _ => false

namespace Store

/-- A plain value, or a list or dictionary of such data, with texts as keys. It is nested in no more
levels than are allowed for. -/
inductive IsJson (st : Store) : Nat → Value → Prop
  | plain {n : Nat} {v : Value} (plain : v.isPlain) : IsJson st n v
  | list {n : Nat} {a : Addr} {vs : List Value} (read : st.read? a = some (.list vs))
      (items : ∀ v ∈ vs, IsJson st n v) : IsJson st (n + 1) (.ref a)
  | dict {n : Nat} {a : Addr} {es : Entries} (read : st.read? a = some (.dict es))
      (keys : ∀ e ∈ es, e.1.isText) (values : ∀ e ∈ es, IsJson st n e.2) :
      IsJson st (n + 1) (.ref a)

variable {st st' : Store} {n : Nat} {a : Addr} {v : Value} {es : Entries}

theorem IsJson.list_items {vs : List Value} (json : st.IsJson n (.ref a))
    (read : st.read? a = some (.list vs)) : ∃ m, n = m + 1 ∧ ∀ v ∈ vs, st.IsJson m v := by
  cases json with
  | plain plain => cases plain
  | list read' items =>
    cases read.symm.trans read'
    exact ⟨_, rfl, items⟩
  | dict read' _ _ => cases read.symm.trans read'

theorem IsJson.dict_entries (json : st.IsJson n (.ref a))
    (read : st.read? a = some (.dict es)) :
    ∃ m, n = m + 1 ∧ (∀ e ∈ es, e.1.isText) ∧ ∀ e ∈ es, st.IsJson m e.2 := by
  cases json with
  | plain plain => cases plain
  | list read' _ => cases read.symm.trans read'
  | dict read' keys values =>
    cases read.symm.trans read'
    exact ⟨_, rfl, keys, values⟩

theorem IsJson.object? (json : st.IsJson n v) (grows : st.Grows st') :
    st'.object? v = st.object? v := by
  cases json with
  | plain plain => cases v <;> first | rfl | cases plain
  | list read _ => exact (grows _ _ read).trans read.symm
  | dict read _ _ => exact (grows _ _ read).trans read.symm

theorem IsJson.isNode (json : st.IsJson n v) : st.isNode v = false := by
  cases json with
  | plain plain => cases v <;> first | rfl | cases plain
  | list read _ => simp [Store.isNode, node?, Store.object?, read]
  | dict read _ _ => simp [Store.isNode, node?, Store.object?, read]

theorem IsJson.items? (json : st.IsJson n v) (grows : st.Grows st') :
    st'.items? v = st.items? v := by
  cases json with
  | plain plain => cases v <;> first | rfl | cases plain
  | list read _ => simp [Store.items?, read, grows _ _ read]
  | dict read _ _ => simp [Store.items?, read, grows _ _ read]

theorem IsJson.sequence? (json : st.IsJson n v) (grows : st.Grows st') :
    st'.sequence? v = st.items? v := by
  rw [← json.items? grows]
  cases json with
  | plain plain => cases v <;> first | rfl | cases plain
  | list read _ => simp [Store.sequence?, Store.object?, grows _ _ read]
  | dict read _ _ => simp [Store.sequence?, Store.object?, grows _ _ read]

theorem IsJson.under? {name : String} (json : st.IsJson n (.ref a))
    (read : st.read? a = some (.dict es)) (given : Store.under? es name = some v) :
    ∃ m, n = m + 1 ∧ st.IsJson m v := by
  obtain ⟨m, rfl, _, values⟩ := json.dict_entries read
  exact ⟨m, rfl, values _ (mem_of_under? given)⟩

theorem IsJson.item {vs : List Value} {w : Value} (json : st.IsJson n v)
    (items : st.items? v = some vs) (member : w ∈ vs) :
    (∃ text, w = .text text) ∨
      ∃ m, n = m + 1 ∧ st.IsJson m w ∧ st.object? v = some (.list vs) := by
  cases json with
  | plain plain =>
    cases v with
    | text s =>
      cases items
      obtain ⟨c, _, rfl⟩ := List.mem_map.mp member
      exact .inl ⟨_, rfl⟩
    | ref a => cases plain
    | bytes b => cases plain
    | _ => cases items
  | list read each =>
    simp only [Store.items?, read, Option.some.injEq] at items
    subst items
    exact .inr ⟨_, rfl, each w member, read⟩
  | dict read keys _ =>
    simp only [Store.items?, read, Option.some.injEq] at items
    subst items
    obtain ⟨e, among, rfl⟩ := List.mem_map.mp member
    exact .inl (Value.eq_text_of_isText (keys e among))

end Store

end TreeQuery
