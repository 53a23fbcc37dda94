import TreeQuery.Sequence
import Mathlib.Data.List.Forall2

/-! Evaluations as functions of the session: what each gives, and the session it leaves. -/

namespace TreeQuery

theorem except_bind_eq_ok {ε α β : Type} {x : Except ε α} {f : α → Except ε β} {b : β} :
    x >>= f = .ok b ↔ ∃ a, x = .ok a ∧ f a = .ok b := by
  cases x with
  | error e =>
    constructor
    · intro stops
      cases stops
    · rintro ⟨a, none, _⟩
      cases none
  | ok a =>
    constructor
    · intro goes
      exact ⟨a, rfl, goes⟩
    · rintro ⟨_, ⟨⟩, goes⟩
      exact goes

namespace Eval

variable {α β : Type}

def exec (x : Eval α) (s : Session) : Except Fault α × Session := x s

@[simp]
theorem exec_pure (a : α) (s : Session) : (pure a : Eval α).exec s = (.ok a, s) := rfl

@[simp]
theorem exec_throw (e : Fault) (s : Session) : (throw e : Eval α).exec s = (.error e, s) := rfl

@[simp]
theorem exec_lift (r : Except Fault α) (s : Session) : (liftM r : Eval α).exec s = (r, s) := by
  cases r <;> rfl

theorem exec_bind (x : Eval α) (f : α → Eval β) (s : Session) :
    (x >>= f).exec s = match x.exec s with
      | (.ok a, t) => (f a).exec t
      | (.error e, t) => (.error e, t) := by
  change (ExceptT.bindCont f (x.exec s).1 : StateM Session _) (x.exec s).2 = _
  rcases x.exec s with ⟨(e | a), t⟩ <;> rfl

theorem exec_bind_ok {x : Eval α} {s t : Session} {a : α} (h : x.exec s = (.ok a, t))
    (f : α → Eval β) : (x >>= f).exec s = (f a).exec t := by
  rw [exec_bind, h]

theorem exec_bind_error {x : Eval α} {s t : Session} {e : Fault} (h : x.exec s = (.error e, t))
    (f : α → Eval β) : (x >>= f).exec s = (.error e, t) := by
  rw [exec_bind, h]

/-- An evaluation in two parts gives a value exactly if both parts do. -/
theorem exec_bind_eq_ok {x : Eval α} {f : α → Eval β} {s t : Session} {b : β} :
    (x >>= f).exec s = (.ok b, t) ↔
      ∃ a m, x.exec s = (.ok a, m) ∧ (f a).exec m = (.ok b, t) := by
  rw [exec_bind]
  rcases x.exec s with ⟨(e | a), m⟩ <;> simp

theorem exec_bind_eq_error {x : Eval α} {f : α → Eval β} {s t : Session} {e : Fault} :
    (x >>= f).exec s = (.error e, t) ↔ x.exec s = (.error e, t) ∨
      ∃ a m, x.exec s = (.ok a, m) ∧ (f a).exec m = (.error e, t) := by
  rw [exec_bind]
  rcases x.exec s with ⟨(e' | a), m⟩ <;> simp

theorem exec_tryCatch (x : Eval α) (f : Fault → Eval α) (s : Session) :
    (tryCatch x f).exec s = match x.exec s with
      | (.ok a, t) => (.ok a, t)
      | (.error e, t) => (f e).exec t := by
  change exec (ExceptT.tryCatch x f) s = _
  rcases h : x.exec s with ⟨(e | a), t⟩
  · have run : x s = (.error e, t) := h
    simp [exec, ExceptT.tryCatch, ExceptT.mk, bind, StateT.bind, run]
  · have run : x s = (.ok a, t) := h
    simp only [exec, ExceptT.tryCatch, ExceptT.mk, bind, StateT.bind, run]
    rfl

@[simp]
theorem exec_getStore (s : Session) : getStore.exec s = (.ok s.store, s) := rfl

@[simp]
theorem exec_get (s : Session) : (get : Eval Session).exec s = (.ok s, s) := rfl

@[simp]
theorem exec_allocAt (o : Object) (s : Session) :
    (allocAt o).exec s = (.ok s.store.size, { s with store := (s.store.alloc o).2 }) := rfl

@[simp]
theorem exec_alloc (o : Object) (s : Session) :
    (alloc o).exec s = (.ok (.ref s.store.size), { s with store := (s.store.alloc o).2 }) := rfl

@[simp]
theorem exec_write (a : Addr) (o : Object) (s : Session) :
    (write a o).exec s = (.ok (), { s with store := s.store.write a o }) := rfl

@[simp]
theorem exec_emit (text : String) (s : Session) :
    (emit text).exec s = (.ok (), { s with log := s.log ++ text }) := rfl

theorem exec_mapM_cons (f : α → Eval β) (x : α) (xs : List α) (s : Session) :
    ((x :: xs).mapM f).exec s =
      (f x >>= fun y => xs.mapM f >>= fun ys => pure (y :: ys)).exec s := by
  rw [List.mapM_cons]

end Eval

namespace Store

/-- The items of a value that can be gone over again and again: of all but an iterator. -/
def sequence? (st : Store) (v : Value) : Option (List Value) :=
  match st.object? v with
  | some (.iterator _) => none
  | _ => st.items? v

theorem items?_of_sequence? {st : Store} {v : Value} {xs : List Value}
    (h : st.sequence? v = some xs) : st.items? v = some xs := by
  unfold sequence? at h
  split at h
  · cases h
  · exact h

theorem sequence?_of_list {st : Store} {a : Addr} {vs : List Value}
    (list : st.read? a = some (.list vs)) : st.sequence? (.ref a) = some vs := by
  simp [sequence?, object?, items?, list]

theorem sequence?_of_tupleItems? {st : Store} {v : Value} {items : List Value}
    (tuple : st.tupleItems? v = some items) : st.sequence? v = some items := by
  cases v with
  | ref a =>
    revert tuple
    simp only [tupleItems?, sequence?, object?, items?]
    rcases st.read? a with _ | o
    · simp
    · cases o <;> simp
  | _ => cases tuple

theorem read?_ne_iterator_of_sequence? {st : Store} {a : Addr} {xs ys : List Value}
    (h : st.sequence? (.ref a) = some xs) : st.read? a ≠ some (.iterator ys) := by
  intro read
  simp [sequence?, object?, read] at h

end Store

namespace Eval

variable {α : Type}

theorem visit_of_sequence {v : Value} {xs : List Value} {s : Session} (f : Value → Eval α)
    (h : s.store.sequence? v = some xs) : (visit v f).exec s = (xs.mapM f).exec s := by
  have items := Store.items?_of_sequence? h
  unfold visit
  rw [exec_bind_ok (exec_getStore s)]
  cases v with
  | ref a =>
    simp only [items]
    split
    · next ys read => exact absurd read (Store.read?_ne_iterator_of_sequence? h)
    · rfl
  | _ => simp only [items]

theorem items_of_sequence {v : Value} {xs : List Value} {s : Session}
    (sequence : s.store.sequence? v = some xs) : (items v).exec s = (.ok xs, s) := by
  rw [items, visit_of_sequence pure sequence, List.mapM_pure]
  simp

/-- Only an iterator is changed by taking items out of it. -/
theorem leave_of_sequence {v : Value} {xs : List Value} {s : Session} (rest : List Value)
    (h : s.store.sequence? v = some xs) : (leave v rest).exec s = (.ok (), s) := by
  cases v with
  | ref a =>
    unfold leave
    simp only
    rw [exec_bind_ok (exec_getStore s)]
    split
    · next ys read => exact absurd read (Store.read?_ne_iterator_of_sequence? h)
    · rfl
  | _ => rfl

theorem pair_of_sequence {v x y : Value} {s : Session}
    (h : s.store.sequence? v = some [x, y]) : (pair v).exec s = (.ok (x, y), s) := by
  unfold pair
  rw [exec_bind_ok (exec_getStore s)]
  simp only [Store.items?_of_sequence? h]
  rw [exec_bind_ok (leave_of_sequence [] h)]
  rfl

end Eval

end TreeQuery
