import TreeQuery.Proofs.Evaluation
import TreeQuery.Proofs.Store.Growth
import TreeQuery.Query.Run

namespace TreeQuery

namespace Store

theorem step?_eq_some {st : Store} {v : Value} {step : Step} :
    st.step? v = some step ↔ st.object? v = some (.step step) := by
  unfold step?
  split
  · next s object => simp [object]
  · next other =>
    constructor
    · intro h
      cases h
    · intro h
      exact absurd h (other step)

/-- How a step can be given: as one, or as a plain pair of a selector and what it is matched
with, where a tuple is the form of a branch. -/
inductive Reads (st : Store) : Value → Step → Prop
  | typed {v : Value} {step : Step} (given : st.step? v = some step) : Reads st v step
  | pair {v attr wanted : Value} (given : st.object? v = some (.tuple [attr, wanted]))
      (live : st.Live wanted) : Reads st v (Step.ofPair st attr wanted)

theorem Grows.reads {st st' : Store} (grows : st.Grows st') {v : Value} {step : Step}
    (reads : st.Reads v step) : st'.Reads v step := by
  cases reads with
  | typed given => exact .typed (step?_eq_some.mpr (grows.object? (step?_eq_some.mp given)))
  | @pair attr wanted given live =>
    have same : Step.ofPair st' attr wanted = Step.ofPair st attr wanted := by
      simp only [Step.ofPair, grows.tupleItems? live]
    rw [← same]
    exact .pair (grows.object? given) (grows.live live)

end Store

namespace Step

open Eval

theorem exec_readValue {s : Session} {v : Value} {step : Step} (reads : s.store.Reads v step) :
    ∃ w st, (readValue v).exec s = (.ok w, { s with store := st }) ∧ s.store.Grows st ∧
      st.step? w = some step := by
  unfold readValue
  rw [exec_bind_ok (exec_getStore s)]
  cases reads with
  | typed given =>
    refine ⟨v, s.store, ?_, .refl _, given⟩
    simp only [given]
    rfl
  | @pair attr wanted given live =>
    have plain : s.store.step? v = none := by simp [Store.step?, given]
    have items : s.store.sequence? v = some [attr, wanted] := by
      cases v with
      | ref a =>
        have read : s.store.read? a = some (.tuple [attr, wanted]) := given
        simp [Store.sequence?, Store.object?, Store.items?, read]
      | _ => cases given
    have readStep : (read v).exec s = (.ok (ofPair s.store attr wanted), s) := by
      unfold read
      rw [exec_bind_ok (exec_getStore s)]
      simp only [plain]
      rw [exec_bind_ok (pair_of_sequence items), exec_bind_ok (exec_getStore s)]
      rfl
    refine ⟨.ref s.store.size, (s.store.alloc (.step (ofPair s.store attr wanted))).2, ?_,
      Store.grows_alloc _ _, ?_⟩
    · simp only [plain]
      rw [exec_bind_ok readStep, exec_alloc]
    · exact Store.step?_eq_some.mpr (Store.read?_alloc_self _ _)

theorem exec_readAll {vs : List Value} {steps : List Step} {s : Session}
    (reads : List.Forall₂ s.store.Reads vs steps) :
    ∃ ws st, (vs.mapM readValue).exec s = (.ok ws, { s with store := st }) ∧ s.store.Grows st ∧
      List.Forall₂ (fun w step => st.step? w = some step) ws steps := by
  induction vs generalizing steps s with
  | nil =>
    cases reads
    exact ⟨[], s.store, rfl, .refl _, .nil⟩
  | cons v vs ih =>
    cases reads with
    | cons first rest =>
      obtain ⟨w, st, runs, grows, found⟩ := exec_readValue first
      have later := rest.imp fun _ _ reads => grows.reads reads
      obtain ⟨ws, st', runs', grows', found'⟩ := ih (s := { s with store := st }) later
      refine ⟨w :: ws, st', ?_, grows.trans grows', .cons ?_ found'⟩
      · rw [exec_mapM_cons, exec_bind_ok runs, exec_bind_ok runs']
        rfl
      · exact Store.step?_eq_some.mpr (grows'.object? (Store.step?_eq_some.mp found))

theorem filterMap_step? {st : Store} {ws : List Value} {steps : List Step}
    (found : List.Forall₂ (fun w step => st.step? w = some step) ws steps) :
    ws.filterMap st.step? = steps := by
  induction found with
  | nil => rfl
  | cons first _ ih => rw [List.filterMap_cons_some first, ih]

end Step

namespace Query

open Eval

def traceValue : Option Bool → Value
  | some b => .bool b
  | none => .null

def isTraced (settings : List (String × String)) : Option Bool → Bool
  | some b => b
  | none => Settings.isOn settings Settings.traceName

/-- A query is made from a list of steps without anything but new objects coming of it. -/
theorem exec_ofSteps {s : Session} {given : Value} {vs : List Value} {steps : List Step}
    (trace : Option Bool) (list : s.store.sequence? given = some vs)
    (reads : List.Forall₂ s.store.Reads vs steps) :
    ∃ q st, (ofSteps given (traceValue trace)).exec s = (.ok q, { s with store := st }) ∧
      s.store.Grows st ∧ q.steps = steps ∧ q.traced = isTraced s.settings trace := by
  obtain ⟨ws, st, runs, grows, found⟩ := Step.exec_readAll reads
  have visited := (visit_of_sequence Step.readValue list).trans runs
  have kept : ws.filterMap (st.alloc (.tuple ws)).2.step? = steps := by
    refine Step.filterMap_step? (found.imp fun w step h => ?_)
    exact Store.step?_eq_some.mpr
      ((Store.grows_alloc _ _).object? (Store.step?_eq_some.mp h))
  have made : ∀ b : Bool, (allocAt (.tuple ws) >>= fun tuple => getStore >>= fun st =>
      pure (Query.mk (ws.filterMap st.step?) tuple (.bool b) (st.truthy (.bool b)))).exec
        { s with store := st } =
      (.ok ⟨steps, st.size, .bool b, b⟩, { s with store := (st.alloc (.tuple ws)).2 }) := by
    intro b
    rw [exec_bind_ok (exec_allocAt _ _), exec_bind_ok (exec_getStore _)]
    simp only [kept]
    rfl
  refine ⟨⟨steps, st.size, .bool (isTraced s.settings trace), isTraced s.settings trace⟩,
    (st.alloc (.tuple ws)).2, ?_, grows.trans (Store.grows_alloc _ _), rfl, rfl⟩
  unfold ofSteps
  rw [exec_bind_ok visited]
  cases trace with
  | some b => exact made b
  | none => exact made (isTraced s.settings none)

end Query

end TreeQuery
