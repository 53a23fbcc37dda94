import TreeQuery.Proofs.Evaluation
import TreeQuery.Proofs.Store.Growth

/-! Evaluations that look at the store and nothing else of a session, and that change nothing
but by taking items out of iterators. -/

namespace TreeQuery

namespace Store

/-- Items may have been taken out of iterators, from the front; nothing else has changed. -/
def Drains (st st' : Store) : Prop :=
  st'.size = st.size ∧ st'.marks = st.marks ∧ ∀ a, st'.read? a = st.read? a ∨
    ∃ xs ys, st.read? a = some (.iterator xs) ∧ st'.read? a = some (.iterator ys) ∧ ys <:+ xs

theorem Drains.refl (st : Store) : st.Drains st :=
  ⟨rfl, rfl, fun _ => .inl rfl⟩

theorem Drains.trans {st st' st'' : Store} (first : st.Drains st') (second : st'.Drains st'') :
    st.Drains st'' := by
  obtain ⟨size, marks, reads⟩ := first
  obtain ⟨size', marks', reads'⟩ := second
  refine ⟨size'.trans size, marks'.trans marks, ?_⟩
  intro a
  rcases reads a with same | ⟨xs, ys, before, middle, suffix⟩
  · rcases reads' a with same' | ⟨xs, ys, middle, after, suffix⟩
    · exact .inl (same'.trans same)
    · exact .inr ⟨xs, ys, same ▸ middle, after, suffix⟩
  · rcases reads' a with same' | ⟨xs', ys', middle', after, suffix'⟩
    · exact .inr ⟨xs, ys, before, same'.trans middle, suffix⟩
    · have same : ys = xs' := by simpa using middle.symm.trans middle'
      subst same
      exact .inr ⟨xs, ys', before, after, suffix'.trans suffix⟩

theorem drains_write {st : Store} {a : Addr} {xs ys : List Value}
    (read : st.read? a = some (.iterator xs)) (suffix : ys <:+ xs) :
    st.Drains (st.write a (.iterator ys)) := by
  refine ⟨size_write st a _, rfl, ?_⟩
  intro b
  by_cases same : a = b
  · subst same
    exact .inr ⟨xs, ys, read, read?_write_self st _ (lt_of_read? read), suffix⟩
  · exact .inl (read?_write_of_ne st _ same)

end Store

namespace Eval

variable {α β : Type}

/-- On one store, what comes out depends on the store alone, and only iterators are changed. -/
def QuietOn (st : Store) (x : Eval α) : Prop :=
  ∃ r st', st.Drains st' ∧ ∀ s : Session, s.store = st → x.exec s = (r, { s with store := st' })

/-- Nothing of a session but its store is looked at, and only iterators are changed. -/
def Quiet (x : Eval α) : Prop := ∀ st, QuietOn st x

namespace QuietOn

variable {st : Store}

theorem bind {x : Eval α} {f : α → Eval β} (first : QuietOn st x)
    (second : ∀ a, Quiet (f a)) : QuietOn st (x >>= f) := by
  obtain ⟨r, st', drains, runs⟩ := first
  cases r with
  | error e =>
    exact ⟨.error e, st', drains, fun s at_ => exec_bind_error (runs s at_) f⟩
  | ok a =>
    obtain ⟨r', st'', drains', runs'⟩ := second a st'
    refine ⟨r', st'', drains.trans drains', ?_⟩
    intro s at_
    rw [exec_bind_ok (runs s at_)]
    exact runs' _ rfl

theorem getStore_bind {f : Store → Eval β} (rest : QuietOn st (f st)) :
    QuietOn st (getStore >>= f) := by
  obtain ⟨r, st', drains, runs⟩ := rest
  refine ⟨r, st', drains, ?_⟩
  intro s at_
  rw [exec_bind_ok (exec_getStore s), at_]
  exact runs s at_

end QuietOn

namespace Quiet

theorem pure (a : α) : Quiet (pure a : Eval α) :=
  fun st => ⟨.ok a, st, .refl st, fun s at_ => by subst at_; rfl⟩

theorem throw (e : Fault) : Quiet (throw e : Eval α) :=
  fun st => ⟨.error e, st, .refl st, fun s at_ => by subst at_; rfl⟩

theorem lift (r : Except Fault α) : Quiet (liftM r : Eval α) :=
  fun st => ⟨r, st, .refl st, fun s at_ => by subst at_; exact exec_lift r s⟩

theorem exec_eq {x : Eval α} (quiet : Quiet x) (s : Session) :
    x.exec s = ((x.exec s).1, { s with store := (x.exec s).2.store }) := by
  obtain ⟨r, st, _, runs⟩ := quiet s.store
  rw [runs s rfl]

theorem drains {x : Eval α} (quiet : Quiet x) (s : Session) :
    s.store.Drains (x.exec s).2.store := by
  obtain ⟨r, st, drains, runs⟩ := quiet s.store
  rw [runs s rfl]
  exact drains

theorem bind {x : Eval α} {f : α → Eval β} (first : Quiet x) (second : ∀ a, Quiet (f a)) :
    Quiet (x >>= f) :=
  fun st => (first st).bind second

theorem getStore_bind {f : Store → Eval β} (rest : ∀ st, Quiet (f st)) :
    Quiet (getStore >>= f) :=
  fun st => .getStore_bind (rest st st)

theorem tryCatch {x : Eval α} {f : Fault → Eval α} (first : Quiet x)
    (second : ∀ e, Quiet (f e)) : Quiet (tryCatch x f) := by
  intro st
  obtain ⟨r, st', drains, runs⟩ := first st
  cases r with
  | ok a =>
    exact ⟨.ok a, st', drains, fun s at_ => by rw [exec_tryCatch, runs s at_]⟩
  | error e =>
    obtain ⟨r', st'', drains', runs'⟩ := second e st'
    refine ⟨r', st'', drains.trans drains', ?_⟩
    intro s at_
    rw [exec_tryCatch, runs s at_]
    exact runs' _ rfl

theorem mapM {f : α → Eval β} (each : ∀ a, Quiet (f a)) (xs : List α) : Quiet (xs.mapM f) := by
  induction xs with
  | nil => exact pure []
  | cons x xs ih =>
    rw [List.mapM_cons]
    exact bind (each x) fun _ => bind ih fun _ => pure _

theorem leave {st : Store} {v : Value} {xs rest : List Value} (items : st.items? v = some xs)
    (suffix : rest <:+ xs) : QuietOn st (leave v rest) := by
  cases v with
  | ref a =>
    refine .getStore_bind ?_
    cases read : st.read? a with
    | none => exact pure () st
    | some o =>
      cases o with
      | iterator ys =>
        have same : ys = xs := by simpa [Store.items?, read] using items
        subst same
        exact ⟨.ok (), _, Store.drains_write read suffix, fun s at_ => by subst at_; rfl⟩
      | _ => exact pure () st
  | _ => exact pure () st

theorem visitLeft {f : Value → Eval β} (each : ∀ v, Quiet (f v)) (a : Addr) (fuel : Nat) :
    Quiet (visitLeft a f fuel) := by
  induction fuel with
  | zero => exact pure []
  | succ fuel ih =>
    intro st
    refine .getStore_bind ?_
    split
    · next x rest read =>
      have taken : QuietOn st (write a (.iterator rest)) :=
        ⟨.ok (), _, Store.drains_write read (List.suffix_cons x rest),
          fun s at_ => by subst at_; rfl⟩
      exact taken.bind fun _ => bind (each x) fun _ => bind ih fun _ => pure _
    · exact pure [] st

theorem visit {f : Value → Eval β} (each : ∀ v, Quiet (f v)) (v : Value) :
    Quiet (visit v f) := by
  refine getStore_bind ?_
  intro st
  split
  · exact throw _
  · split
    · exact visitLeft each _ _
    · exact mapM each _
  · exact mapM each _

theorem items (v : Value) : Quiet (items v) := visit pure v

theorem pair (v : Value) : Quiet (pair v) := by
  intro st
  refine .getStore_bind ?_
  split
  · exact throw _ st
  · next x y items => exact (leave items (List.nil_suffix)).bind fun _ => pure _
  · next x y z rest items =>
    exact (leave items ⟨[x, y, z], rfl⟩).bind fun _ => throw _
  · next few _ _ items => exact (leave items (List.nil_suffix)).bind fun _ => throw _

end Quiet

end Eval

end TreeQuery
