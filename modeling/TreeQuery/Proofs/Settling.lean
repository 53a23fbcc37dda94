import TreeQuery.Proofs.Evaluation
import TreeQuery.Proofs.Store.Growth

/-! Evaluations that settle a question: they come to something if nothing is wrong, and stop with an
error that tells what is wrong otherwise. -/

namespace TreeQuery.Eval

variable {α β : Type} {P : Fault → Prop} {s : Session} {k : ErrorClass} {deep : Prop}

/-- The session stays as it is, and what may stop the evaluation has a property. -/
def Steady (P : Fault → Prop) (s : Session) (x : Eval α) : Prop :=
  ∃ r, x.exec s = (r, s) ∧ ∀ fault, r = .error fault → P fault

theorem steady_pure (a : α) : Steady P s (pure a : Eval α) :=
  ⟨.ok a, rfl, fun _ stops => by cases stops⟩

theorem steady_throw {fault : Fault} (allowed : P fault) : Steady P s (throw fault : Eval α) :=
  ⟨.error fault, rfl, fun _ stops => by cases stops; exact allowed⟩

theorem Steady.bind {x : Eval α} {f : α → Eval β} (first : Steady P s x)
    (second : ∀ a, Steady P s (f a)) : Steady P s (x >>= f) := by
  obtain ⟨r, done, allowed⟩ := first
  cases r with
  | error fault => exact ⟨.error fault, exec_bind_error done f, fun _ stops => by
      cases stops
      exact allowed fault rfl⟩
  | ok a =>
    obtain ⟨r', done', allowed'⟩ := second a
    exact ⟨r', (exec_bind_ok done f).trans done', allowed'⟩

theorem steady_mapM {f : α → Eval β} {xs : List α} (each : ∀ x ∈ xs, Steady P s (f x)) :
    Steady P s (xs.mapM f) := by
  induction xs with
  | nil => exact steady_pure []
  | cons x xs ih =>
    obtain ⟨first, later⟩ := List.forall_mem_cons.mp each
    rw [List.mapM_cons]
    exact first.bind fun _ => (ih later).bind fun _ => steady_pure _

def Refuses (k : ErrorClass) (deep : Prop) (s : Session) (x : Eval α) : Prop :=
  ∃ fault t, x.exec s = (.error fault, t) ∧ (fault.kind = k ∨ fault = .tooDeep ∧ deep)

theorem refuses_throw {fault : Fault} (kind : fault.kind = k) :
    Refuses k deep s (throw fault : Eval α) :=
  ⟨fault, s, rfl, .inl kind⟩

theorem Refuses.bind {x : Eval α} (refuses : Refuses k deep s x) (f : α → Eval β) :
    Refuses k deep s (x >>= f) := by
  obtain ⟨fault, t, stops, kind⟩ := refuses
  exact ⟨fault, t, exec_bind_error stops f, kind⟩

theorem Refuses.later {x : Eval α} {f : α → Eval β} {a : α} {t : Session}
    (done : x.exec s = (.ok a, t)) (refuses : Refuses k deep t (f a)) :
    Refuses k deep s (x >>= f) := by
  obtain ⟨fault, u, stops, kind⟩ := refuses
  exact ⟨fault, u, (exec_bind_ok done f).trans stops, kind⟩

theorem Refuses.shown {x : Eval α} {f : α → Eval β}
    (steady : Steady (fun fault => fault = .tooDeep ∧ deep) s x)
    (refuses : ∀ a, Refuses k deep s (f a)) : Refuses k deep s (x >>= f) := by
  obtain ⟨r, done, allowed⟩ := steady
  cases r with
  | error fault => exact ⟨fault, s, exec_bind_error done f, .inr (allowed fault rfl)⟩
  | ok a => exact (refuses a).later done

/-- An evaluation gives something fine if there is no flaw, and is refused for a flaw if there is
any. -/
def Settles (s : Session) (x : Eval α) (fine : Store → α → Prop) (flaw : ErrorClass → Prop)
    (deep : Prop) : Prop :=
  (∃ a st, x.exec s = (.ok a, { s with store := st }) ∧ s.store.Grows st ∧ fine st a ∧
    ∀ k, ¬ flaw k) ∨ ∃ k, flaw k ∧ Refuses k deep s x

namespace Settles

variable {x y : Eval α} {fine : Store → α → Prop} {flaw flaw' : ErrorClass → Prop}

theorem of_ok {a : α} (done : x.exec s = (.ok a, s)) (holds : fine s.store a)
    (none : ∀ k, ¬ flaw k) : Settles s x fine flaw deep :=
  .inl ⟨a, s.store, done, .refl s.store, holds, none⟩

theorem congr (settles : Settles s x fine flaw deep) (same : ∀ k, flaw k ↔ flaw' k) :
    Settles s x fine flaw' deep := by
  have equal : flaw = flaw' := funext fun k => propext (same k)
  exact equal ▸ settles

theorem after {st : Store} (settles : Settles { s with store := st } x fine flaw deep)
    (same : y.exec s = x.exec { s with store := st }) (grows : s.store.Grows st) :
    Settles s y fine flaw deep := by
  rcases settles with ⟨a, st', done, grows', holds, none⟩ | ⟨k, wrong, fault, t, stops, kind⟩
  · exact .inl ⟨a, st', same.trans done, grows.trans grows', holds, none⟩
  · exact .inr ⟨k, wrong, fault, t, same.trans stops, kind⟩

theorem bind {f : α → Eval β} {fine' : Store → β → Prop} (first : Settles s x fine flaw deep)
    (second : ∀ a st, s.store.Grows st → fine st a →
      Settles { s with store := st } (f a) fine' flaw' deep) :
    Settles s (x >>= f) fine' (fun k => flaw k ∨ flaw' k) deep := by
  rcases first with ⟨a, st, done, grows, holds, none⟩ | ⟨k, wrong, refuses⟩
  · rcases second a st grows holds with ⟨b, st', done', grows', holds', none'⟩ | ⟨k, wrong, refuses⟩
    · refine .inl ⟨b, st', (exec_bind_ok done f).trans done', grows.trans grows', holds', ?_⟩
      exact fun k flawed => flawed.elim (none k) (none' k)
    · exact .inr ⟨k, .inr wrong, refuses.later done⟩
  · exact .inr ⟨k, .inl wrong, refuses.bind f⟩

theorem mapM {f : α → Eval β} {fine : Store → β → Prop} {flaw : α → ErrorClass → Prop} {xs : List α}
    (lasts : ∀ st st' y, st.Grows st' → fine st y → fine st' y)
    (each : ∀ x ∈ xs, ∀ t : Session, s.store.Grows t.store → Settles t (f x) fine (flaw x) deep) :
    Settles s (xs.mapM f) (fun st ys => ∀ y ∈ ys, fine st y) (fun k => ∃ x ∈ xs, flaw x k)
      deep := by
  induction xs generalizing s with
  | nil => exact of_ok rfl (by simp) (by simp)
  | cons x xs ih =>
    obtain ⟨first, later⟩ := List.forall_mem_cons.mp each
    rw [List.mapM_cons]
    have whole : Settles s (f x >>= fun y => xs.mapM f >>= fun ys => pure (y :: ys))
        (fun st ys => ∀ y ∈ ys, fine st y) (fun k => flaw x k ∨ (∃ x ∈ xs, flaw x k) ∨ False)
        deep := by
      refine (first s (.refl s.store)).bind ?_
      intro y st grows holds
      have rest := ih (s := { s with store := st }) fun x member t grows' =>
        later x member t (grows.trans grows')
      refine rest.bind ?_
      intro ys st' grows' all
      exact of_ok rfl (List.forall_mem_cons.mpr ⟨lasts _ _ y grows' holds, all⟩) fun _ => id
    exact whole.congr fun k => by simp

end Settles

end TreeQuery.Eval
