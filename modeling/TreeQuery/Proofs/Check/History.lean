import TreeQuery.Call
import TreeQuery.Proofs.Check.Calls

/-! The tally of checks after any history of calls, and the exit code that it gives. -/

namespace TreeQuery

open Eval

structure CheckEvent where
  call : CheckCall
  before : Session
  result : Except Fault Unit
  after : Session

def CheckEvent.isFailure (e : CheckEvent) : Bool :=
  e.after.tally.failures == e.before.tally.failures + 1

/-- Checks are called one after another, also after one that did not end well. In between and at
the end anything may happen that does not change the tally. -/
inductive History (call : NamedCaller) : Session → List CheckEvent → Session → Prop
  | done {s t : Session} (idle : t.tally = s.tally) : History call s [] t
  | check {s t : Session} {e : CheckEvent} {events : List CheckEvent}
      (idle : e.before.tally = s.tally)
      (run : (e.call.perform call).exec e.before = (e.result, e.after))
      (rest : History call e.after events t) : History call s (e :: events) t

namespace History

variable {call : NamedCaller} {s t : Session} {events : List CheckEvent}

theorem obeys (history : History call s events t)
    (keeps : ∀ e ∈ events, e.call.KeepsTally call) :
    ∀ e ∈ events, CheckCall.Obeys call e.call e.before e.result e.after := by
  induction history with
  | done => simp
  | check idle run _ ih =>
    have first := CheckCall.obeys_perform (keeps _ List.mem_cons_self) run
    have others := ih fun e member => keeps e (List.mem_cons_of_mem _ member)
    exact List.forall_mem_cons.mpr ⟨first, others⟩

/-- The tally of a history is that of its calls. -/
theorem tally_eq (history : History call s events t)
    (obeys : ∀ e ∈ events, CheckCall.Obeys call e.call e.before e.result e.after) :
    t.tally.tests = s.tally.tests + events.length ∧
      t.tally.failures = s.tally.failures + events.countP CheckEvent.isFailure := by
  induction history with
  | done idle => simp [idle]
  | @check s t e events idle run rest ih =>
    have first := obeys e List.mem_cons_self
    obtain ⟨tests, failures⟩ := ih fun e member => obeys e (List.mem_cons_of_mem _ member)
    have one := first.tests
    rw [idle] at one
    rw [tests, failures, List.length_cons, List.countP_cons]
    constructor
    · omega
    · rcases first.failures with ⟨same, _⟩ | ⟨grows, _⟩
      · have passed : e.isFailure = false := by simp [CheckEvent.isFailure, same]
        rw [idle] at same
        simp [passed, same]
      · have failed : e.isFailure = true := by simp [CheckEvent.isFailure, grows]
        rw [idle] at grows
        simp only [failed, grows, if_true]
        omega

theorem exec_report (t : Session) :
    ∃ u, Check.report.exec t = (.ok (if 0 < t.tally.failures then [1] else []), u) := by
  have reads : Check.report.exec t = (if t.tally.failures = 0 then (return []) else (do
      emitLine ("\nutest ran: " ++ toString t.tally.tests ++ "; failed: " ++
        toString t.tally.failures)
      return [1]) : Eval (List Nat)).exec t := rfl
  rw [reads]
  by_cases none : t.tally.failures = 0
  · simp [none]
  · have some : 0 < t.tally.failures := Nat.pos_of_ne_zero none
    rw [if_neg none, if_pos some]
    exact ⟨_, rfl⟩

def eventsOf (call : NamedCaller) (s : Session) : List CheckCall → List CheckEvent
  | [] => []
  | c :: cs =>
    let ended := (c.perform call).exec s
    ⟨c, s, ended.1, ended.2⟩ :: eventsOf call ended.2 cs

def sessionAfter (call : NamedCaller) (s : Session) (cs : List CheckCall) : Session :=
  cs.foldl (fun s c => ((c.perform call).exec s).2) s

theorem of_calls (call : NamedCaller) (s : Session) (cs : List CheckCall) :
    History call s (eventsOf call s cs) (sessionAfter call s cs) := by
  induction cs generalizing s with
  | nil => exact .done rfl
  | cons c cs ih => exact .check rfl rfl (ih _)

/-- Whatever checks are made in whatever order, and however they end: all are counted, no more
failures than checks, each call obeys the law, and the exit code tells of a failure exactly if one
was counted. -/
theorem tally_tells_failures {call : NamedCaller} {s t : Session} {events : List CheckEvent}
    (fresh : s.tally = {}) (keeps : ∀ e ∈ events, e.call.KeepsTally call)
    (history : History call s events t) :
    t.tally.tests = events.length ∧ t.tally.failures ≤ t.tally.tests ∧
      t.tally.failures = events.countP CheckEvent.isFailure ∧
      (∀ e ∈ events, CheckCall.Obeys call e.call e.before e.result e.after) ∧
      ∃ u, Check.report.exec t = (.ok (if 0 < t.tally.failures then [1] else []), u) := by
  have obeys := history.obeys keeps
  obtain ⟨tests, failures⟩ := history.tally_eq obeys
  have few : events.countP CheckEvent.isFailure ≤ events.length := List.countP_le_length
  rw [fresh] at tests failures
  simp only [Nat.zero_add] at tests failures
  refine ⟨tests, ?_, failures, obeys, exec_report t⟩
  rw [tests, failures]
  exact few

def threeCalls : List CheckCall :=
  [.ofFunction .value (.int 1) (.function (.script .nothing)) [] [],
   .ofFunction .error (.errorClass .value) (.function (.script .boom)) [] [],
   .ofValues (.int 1) (.int 1) (.text "one")]

theorem threeCalls_tally :
    ∃ t, History Eval.call {} (eventsOf Eval.call {} threeCalls) t ∧
      t.tally.tests = 3 ∧ t.tally.failures = 1 ∧ ∃ u, Check.report.exec t = (.ok [1], u) := by
  have history := of_calls Eval.call {} threeCalls
  have keeps : ∀ e ∈ eventsOf Eval.call {} threeCalls, e.call.KeepsTally Eval.call := by
    have nothing : ∀ s,
        ((Eval.call (.function (.script .nothing)) [] []).exec s).2.tally = s.tally :=
      fun s => rfl
    have boom : ∀ s, ((Eval.call (.function (.script .boom)) [] []).exec s).2.tally = s.tally :=
      fun s => rfl
    intro e member
    simp only [eventsOf, threeCalls, List.mem_cons, List.not_mem_nil, or_false] at member
    rcases member with rfl | rfl | rfl
    · exact nothing
    · exact boom
    · exact trivial
  obtain ⟨tests, few, _, _, report⟩ := tally_tells_failures rfl keeps history
  have failures : (sessionAfter Eval.call {} threeCalls).tally.failures = 1 := by
    rfl
  rw [failures] at report
  exact ⟨_, history, tests, failures, report⟩

end History

end TreeQuery
