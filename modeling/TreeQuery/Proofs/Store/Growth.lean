import TreeQuery.Store

namespace TreeQuery.Store

theorem lt_of_read? {st : Store} {a : Addr} {o : Object} (read : st.read? a = some o) :
    a < st.size := by
  simpa [read?, size] using (Array.getElem?_eq_some_iff.mp read).1

theorem read?_of_lt {st : Store} {a : Addr} (lt : a < st.size) : ∃ o, st.read? a = some o :=
  ⟨_, Array.getElem?_eq_getElem lt⟩

@[simp]
theorem size_write (st : Store) (a : Addr) (o : Object) : (st.write a o).size = st.size := by
  simp [write, size]

@[simp]
theorem size_alloc (st : Store) (o : Object) : (st.alloc o).2.size = st.size + 1 := by
  simp [alloc, size]

theorem read?_alloc (st : Store) (o : Object) (a : Addr) :
    (st.alloc o).2.read? a = if a = st.size then some o else st.read? a := by
  simp only [alloc, read?, size, Array.getElem?_push]
  rfl

theorem read?_of_alloc {st : Store} {a : Addr} {o p : Object}
    (read : (st.alloc o).2.read? a = some p) : st.read? a = some p ∨ p = o := by
  have inside : a < st.size + 1 := by simpa using lt_of_read? read
  rcases Nat.lt_succ_iff_lt_or_eq.mp inside with old | new
  · rw [read?_alloc_of_lt st o old] at read
    exact .inl read
  · subst new
    have made := (read?_alloc_self st o).symm.trans read
    exact .inr (Option.some.inj made).symm

theorem write_write (st : Store) (a : Addr) (o o' : Object) :
    (st.write a o).write a o' = st.write a o' := by
  simp [write]

/-- Writing what is there changes nothing. -/
theorem write_of_read? {st : Store} {a : Addr} {o : Object} (read : st.read? a = some o) :
    st.write a o = st := by
  obtain ⟨inside, rfl⟩ := Array.getElem?_eq_some_iff.mp read
  simp [write, Array.setIfInBounds, inside]

theorem alloc_write_new (st : Store) (o o' : Object) :
    (st.alloc o).2.write st.size o' = (st.alloc o').2 := by
  simp only [alloc, write, size, Store.mk.injEq, and_true]
  apply Array.ext_getElem?
  intro i
  rw [Array.getElem?_setIfInBounds, Array.getElem?_push, Array.getElem?_push]
  by_cases new : st.objects.size = i
  · subst new
    simp
  · have other : i ≠ st.objects.size := fun same => new same.symm
    simp [new, other]

theorem alloc_write_old (st : Store) (o o' : Object) {a : Addr} (old : a < st.size) :
    (st.alloc o).2.write a o' = ((st.write a o').alloc o).2 := by
  simp only [alloc, write, size, Store.mk.injEq, and_true]
  have inside : a < st.objects.size := old
  apply Array.ext_getElem?
  intro i
  rw [Array.getElem?_setIfInBounds, Array.getElem?_push, Array.getElem?_push,
    Array.getElem?_setIfInBounds, Array.size_setIfInBounds, Array.size_push]
  by_cases here : a = i
  · subst here
    have other : a ≠ st.objects.size := Nat.ne_of_lt inside
    have within : a < st.objects.size + 1 := Nat.lt_succ_of_lt inside
    simp [other, inside, within]
  · simp [here]

/-- Objects may have been made; all that were there before are the same. -/
def Grows (st st' : Store) : Prop := ∀ a o, st.read? a = some o → st'.read? a = some o

theorem Grows.refl (st : Store) : st.Grows st := fun _ _ read => read

theorem Grows.trans {st st' st'' : Store} (first : st.Grows st') (second : st'.Grows st'') :
    st.Grows st'' :=
  fun a o read => second a o (first a o read)

theorem grows_alloc (st : Store) (o : Object) : st.Grows (st.alloc o).2 := by
  intro a p read
  rw [read?_alloc_of_lt st o (lt_of_read? read), read]

theorem Grows.size_le {st st' : Store} (grows : st.Grows st') : st.size ≤ st'.size := by
  rcases Nat.lt_or_ge st'.size st.size with shrunk | more
  · obtain ⟨o, read⟩ := read?_of_lt shrunk
    exact absurd (lt_of_read? (grows _ o read)) (Nat.lt_irrefl _)
  · exact more

theorem Grows.object? {st st' : Store} (grows : st.Grows st') {v : Value} {o : Object}
    (object : st.object? v = some o) : st'.object? v = some o := by
  cases v with
  | ref a => exact grows a o object
  | _ => cases object

def Live (st : Store) (v : Value) : Prop := ∀ a, v = .ref a → a < st.size

theorem Grows.live {st st' : Store} (grows : st.Grows st') {v : Value} (live : st.Live v) :
    st'.Live v := by
  intro a same
  obtain ⟨o, read⟩ := read?_of_lt (live a same)
  exact lt_of_read? (grows a o read)

theorem Grows.tupleItems? {st st' : Store} (grows : st.Grows st') {v : Value}
    (live : st.Live v) : st'.tupleItems? v = st.tupleItems? v := by
  cases v with
  | ref a =>
    obtain ⟨o, read⟩ := read?_of_lt (live a rfl)
    simp [Store.tupleItems?, Store.object?, read, grows a o read]
  | _ => rfl

end TreeQuery.Store
