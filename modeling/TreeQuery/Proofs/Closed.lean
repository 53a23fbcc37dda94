import TreeQuery.Proofs.Quiet

/-! Properties that evaluations keep when they are put together: out of parts that look at a
session, make objects, write to the diagnostics, or take items out of iterators. -/

namespace TreeQuery

def Object.isContainer : Object → Bool
  | .dict _ | .list _ | .iterator _ => true
  | _ => false

namespace Eval

/-- The property holds of all evaluations that are put together from parts of which it holds, one
behind the other, and that make nothing but containers. It may be one of accepted evaluations. -/
structure Composed (P : {α : Type} → Eval α → Prop) : Prop where
  quiet {α : Type} {x : Eval α} : Quiet x → P x
  bind {α β : Type} {x : Eval α} {f : α → Eval β} : P x → (∀ a, P (f a)) → P (x >>= f)
  container {o : Object} : o.isContainer → P (Eval.allocAt o)
  visitLeft {β : Type} {f : Value → Eval β} :
    (∀ v, P (f v)) → ∀ a fuel, P (Eval.visitLeft a f fuel)

/-- The property holds of all evaluations that are put together from parts of which it holds, and
that do not write over objects themselves. What is written to the diagnostics is not read. -/
structure Closed (P : {α : Type} → Eval α → Prop) : Prop extends Composed @P where
  tryCatch {α : Type} {x : Eval α} {f : Fault → Eval α} :
    P x → (∀ e, P (f e)) → P (MonadExcept.tryCatch x f)
  get_bind {β : Type} {f : Session → Eval β} :
    (∀ s log, f { s with log := log } = f s) → (∀ s, P (f s)) → P (get >>= f)
  modify {g : Session → Session} : (∀ s, (g s).store = s.store) →
    (∀ s log, g { s with log := log } = { g s with log := log }) → P (modify g : Eval PUnit)
  emit (text : String) : P (Eval.emit text)
  allocAt (o : Object) : P (Eval.allocAt o)

namespace Composed

variable {P : {α : Type} → Eval α → Prop} (closed : Composed @P) {α β : Type}
include closed

theorem pure (a : α) : P (pure a : Eval α) := closed.quiet (.pure a)

theorem throw (e : Fault) : P (throw e : Eval α) := closed.quiet (.throw e)

theorem lift (r : Except Fault α) : P (liftM r : Eval α) := closed.quiet (.lift r)

theorem lift_bind {r : Except Fault α} {f : α → Eval β} (rest : ∀ a, r = .ok a → P (f a)) :
    P (liftM r >>= f) := by
  cases r with
  | error fault => exact closed.throw fault
  | ok a => exact rest a rfl

theorem getStore_bind {f : Store → Eval β} (rest : ∀ st, P (f st)) : P (getStore >>= f) :=
  closed.bind (closed.quiet (.getStore_bind fun st => .pure st)) rest

/-- What follows a refusal, whether anything is refused or not. -/
theorem refuse_bind {c : Prop} [Decidable c] {fault : Fault} {f : PUnit → Eval β}
    (rest : P (f ⟨⟩)) :
    P (if c then (MonadExcept.throw fault : Eval PUnit) >>= f else f ⟨⟩) := by
  split
  · exact closed.bind (closed.throw fault) fun _ => rest
  · exact rest

theorem map (f : α → β) {x : Eval α} (inner : P x) : P (f <$> x) := by
  rw [← bind_pure_comp]
  exact closed.bind inner fun _ => closed.pure _

theorem mapM {f : α → Eval β} (each : ∀ a, P (f a)) (xs : List α) : P (xs.mapM f) := by
  induction xs with
  | nil => exact closed.pure []
  | cons x xs ih =>
    rw [List.mapM_cons]
    exact closed.bind (each x) fun _ => closed.bind ih fun _ => closed.pure _

theorem forM {f : α → Eval Unit} (each : ∀ a, P (f a)) (xs : List α) : P (xs.forM f) := by
  induction xs with
  | nil => exact closed.pure ()
  | cons x xs ih => exact closed.bind (each x) fun _ => ih

theorem visit {f : Value → Eval β} (each : ∀ v, P (f v)) (v : Value) : P (visit v f) := by
  refine closed.getStore_bind ?_
  intro st
  split
  · exact closed.throw _
  · split
    · exact closed.visitLeft each _ _
    · exact closed.mapM each _
  · exact closed.mapM each _

theorem newContainer {o : Object} (container : o.isContainer) : P (alloc o) :=
  closed.bind (closed.container container) fun _ => closed.pure _

theorem newList (vs : List Value) : P (newList vs) := closed.newContainer rfl

end Composed

theorem Closed.alloc {P : {α : Type} → Eval α → Prop} (closed : Closed @P) (o : Object) :
    P (alloc o) := closed.bind (closed.allocAt o) fun _ => closed.pure _

end Eval

end TreeQuery
