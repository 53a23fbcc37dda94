import TreeQuery.Proofs.Check.Trial

/-! One call of a check: how it comes to be judged, and what it adds to the tally and to the
diagnostics. -/

namespace TreeQuery

open Eval

def Session.counted (s : Session) : Session := { s with tally := s.tally.addTest }

def Session.holding (s : Session) (vs : List Value) : Session :=
  { s with store := (s.store.alloc (.list vs)).2 }

/-- A call of a check: of a function with its arguments, or of a value. -/
inductive CheckCall
  | ofFunction (check : Check) (expected fn : Value) (args : List Value) (named : Keywords)
      (depth : Value := .int 0)
  | ofValues (expected actual description : Value)

/-- What there is to be judged: what was expected and what came out, with the sessions in which
the tested function was called, which it left, and in which it is judged. -/
structure Trial where
  expected : Value
  outcome : Outcome
  start : Session
  left : Session
  judged : Session

def Session.caught {α : Type} (s : Session) (r : Except Fault α) : Except Fault α :=
  r.mapError fun fault => fault.caught s.surroundings.wording

theorem Eval.exec_attempt {α : Type} {x : Eval α} {s t : Session} {r : Except Fault α}
    (run : x.exec s = (r, t)) : (attempt x).exec s = (.ok (t.caught r), t) := by
  unfold attempt
  rw [exec_tryCatch, ← bind_pure_comp, exec_bind, run]
  cases r <;> rfl

namespace CheckCall

def perform (call : NamedCaller) : CheckCall → Eval Unit
  | ofFunction check expected fn args named depth => check.run call expected fn args named depth
  | ofValues expected actual description => Check.runValue expected actual description

/-- The tested function makes no checks. -/
def KeepsTally (call : NamedCaller) : CheckCall → Prop
  | ofFunction _ _ fn args named _ => ∀ s, ((call fn args named).exec s).2.tally = s.tally
  | ofValues _ _ _ => True

def check : CheckCall → Check
  | ofFunction check _ _ _ _ _ => check
  | ofValues _ _ _ => .value

def args : CheckCall → List Value
  | ofFunction _ _ _ args _ _ => args
  | ofValues _ _ _ => []

def named : CheckCall → Keywords
  | ofFunction _ _ _ _ named _ => named
  | ofValues _ _ _ => []

def naming : CheckCall → Eval String
  | ofFunction _ _ fn _ _ _ => Check.subjectName fn
  | ofValues _ _ description => display description

/-- How a call comes to be judged. A check of items makes lists of the expected ones and of those
that came out; that there are none of the latter is an outcome, too. -/
inductive Tries (call : NamedCaller) (s : Session) : CheckCall → Trial → Prop
  | called {check : Check} {expected fn : Value} {args : List Value} {named : Keywords}
      {depth : Value} {outcome : Outcome} {left : Session} (whole : check ≠ .items)
      (run : (call fn args named).exec s = (outcome, left)) :
      Tries call s (ofFunction check expected fn args named depth)
        ⟨expected, left.caught outcome, s, left, left⟩
  | raised {expected fn depth : Value} {args : List Value} {named : Keywords} {xs : List Value}
      {m left : Session} {fault : Fault} (wanted : (items expected).exec s = (.ok xs, m))
      (run : (call fn args named).exec (m.holding xs) = (.error fault, left)) :
      Tries call s (ofFunction .items expected fn args named depth)
        ⟨.ref m.store.size, left.caught (.error fault), m.holding xs, left, left⟩
  | broken {expected fn v depth : Value} {args : List Value} {named : Keywords} {xs : List Value}
      {m left t : Session} {fault : Fault} (wanted : (items expected).exec s = (.ok xs, m))
      (run : (call fn args named).exec (m.holding xs) = (.ok v, left))
      (breaks : (items v).exec left = (.error fault, t)) :
      Tries call s (ofFunction .items expected fn args named depth)
        ⟨.ref m.store.size, t.caught (.error fault), m.holding xs, left, t⟩
  | listed {expected fn v depth : Value} {args : List Value} {named : Keywords} {xs ys : List Value}
      {m left t : Session} (wanted : (items expected).exec s = (.ok xs, m))
      (run : (call fn args named).exec (m.holding xs) = (.ok v, left))
      (given : (items v).exec left = (.ok ys, t)) :
      Tries call s (ofFunction .items expected fn args named depth)
        ⟨.ref m.store.size, .ok (.ref t.store.size), m.holding xs, left, t.holding ys⟩
  | compared {expected actual description : Value} :
      Tries call s (ofValues expected actual description) ⟨expected, .ok actual, s, s, s⟩

def failure (c : CheckCall) (trial : Trial) (name : String) : Failure :=
  ⟨name, c.args, c.named, c.check.label, trial.expected, c.check.returnedLabel, trial.outcome⟩

def told (c : CheckCall) (trial : Trial) : Eval String := do
  let _ ← c.check.passes trial.expected trial.outcome
  let name ← c.naming
  (c.failure trial name).block

def Fails (c : CheckCall) (trial : Trial) : Prop :=
  c.check.Fails trial.judged trial.expected trial.outcome

def accuse (c : CheckCall) (told : String → Failure) : Eval Unit :=
  match c with
  | ofFunction _ _ fn _ _ depth => Check.fail fn told depth
  | ofValues _ _ description => do Check.fail (.text (← display description)) told

def judge (c : CheckCall) (trial : Trial) : Eval Unit := do
  let passed ← c.check.passes trial.expected trial.outcome
  if !passed then c.accuse (c.failure trial)

variable {call : NamedCaller} {c : CheckCall} {s t : Session} {trial : Trial}

theorem items_keeps {v : Value} {r : Except Fault (List Value)}
    (run : (items v).exec s = (r, t)) : t.log = s.log ∧ t.tally = s.tally :=
  ⟨(Quiet.items v).log_eq run, (Quiet.items v).tally_eq run⟩

theorem KeepsTally.tally_eq {check : Check} {expected fn : Value} {args : List Value}
    {named : Keywords} {depth : Value}
    (keeps : KeepsTally call (ofFunction check expected fn args named depth)) {outcome : Outcome}
    (run : (call fn args named).exec s = (outcome, t)) :
    t.tally = s.tally := by
  have same := keeps s
  rwa [run] at same

theorem Tries.keeps (tries : c.Tries call s trial) (keeps : c.KeepsTally call) :
    trial.start.log = s.log ∧ trial.judged.log = trial.left.log ∧
      trial.judged.tally = s.tally := by
  cases tries with
  | called whole run => exact ⟨rfl, rfl, keeps.tally_eq run⟩
  | raised wanted run =>
    have sooner := items_keeps wanted
    exact ⟨sooner.1, rfl, (keeps.tally_eq run).trans sooner.2⟩
  | broken wanted run breaks =>
    have sooner := items_keeps wanted
    have later := items_keeps breaks
    exact ⟨sooner.1, later.1, later.2.trans ((keeps.tally_eq run).trans sooner.2)⟩
  | listed wanted run given =>
    have sooner := items_keeps wanted
    have later := items_keeps given
    exact ⟨sooner.1, later.1, later.2.trans ((keeps.tally_eq run).trans sooner.2)⟩
  | compared => exact ⟨rfl, rfl, rfl⟩

theorem exec_collected {v : Value} {xs : List Value} (run : (items v).exec s = (.ok xs, t)) :
    (Check.items.collected v).exec s = (.ok (.ref t.store.size), t.holding xs) :=
  exec_bind_ok run newList

theorem collected_of_ne {check : Check} (whole : check ≠ .items) (v : Value) :
    check.collected v = pure v := by
  cases check with
  | items => exact absurd rfl whole
  | _ => rfl

section Functions

variable {expected fn depth : Value} {args : List Value} {named : Keywords}

theorem exec_perform_whole {check : Check} (whole : check ≠ .items) :
    ∃ trial, Tries call s.counted (ofFunction check expected fn args named depth) trial ∧
      ((ofFunction check expected fn args named depth).perform call).exec s =
        ((ofFunction check expected fn args named depth).judge trial).exec trial.judged := by
  have count : countTest.exec s = (.ok (), s.counted) := rfl
  rcases run : (call fn args named).exec s.counted with ⟨outcome, left⟩
  refine ⟨_, .called whole run, ?_⟩
  unfold perform Check.run
  simp only [collected_of_ne whole, bind_pure, pure_bind]
  rw [exec_bind_ok count, exec_bind_ok (exec_attempt run)]
  rfl

theorem exec_perform_items {xs : List Value} {m : Session}
    (wanted : (items expected).exec s.counted = (.ok xs, m)) :
    ∃ trial, Tries call s.counted (ofFunction .items expected fn args named depth) trial ∧
      ((ofFunction .items expected fn args named depth).perform call).exec s =
        ((ofFunction .items expected fn args named depth).judge trial).exec trial.judged := by
  have count : countTest.exec s = (.ok (), s.counted) := rfl
  unfold perform Check.run
  rw [exec_bind_ok count, exec_bind_ok (exec_collected wanted)]
  rcases run : (call fn args named).exec (m.holding xs) with ⟨(fault | v), left⟩
  · refine ⟨_, .raised wanted run, ?_⟩
    rw [exec_bind_ok (exec_attempt (exec_bind_error run _))]
    rfl
  · rcases given : (items v).exec left with ⟨(fault | ys), t⟩
    · refine ⟨_, .broken wanted run given, ?_⟩
      have stops : (Check.items.collected v).exec left = (.error fault, t) :=
        exec_bind_error given newList
      rw [exec_bind_ok (exec_attempt ((exec_bind_ok run _).trans stops))]
      rfl
    · refine ⟨_, .listed wanted run given, ?_⟩
      rw [exec_bind_ok (exec_attempt ((exec_bind_ok run _).trans (exec_collected given)))]
      rfl

end Functions

/-- What is called is counted, tried and judged, unless the expected items cannot be had. -/
theorem exec_perform (call : NamedCaller) (c : CheckCall) (s : Session) :
    (∃ trial, c.Tries call s.counted trial ∧
      (c.perform call).exec s = (c.judge trial).exec trial.judged) ∨
    ∃ fault t, (c.perform call).exec s = (.error fault, t) ∧ t.tally = s.counted.tally ∧
      t.log = s.log := by
  have count : countTest.exec s = (.ok (), s.counted) := rfl
  cases c with
  | ofValues expected actual description =>
    refine .inl ⟨_, .compared, ?_⟩
    unfold perform Check.runValue
    rw [exec_bind_ok count, exec_bind_ok (exec_getStore _)]
    rfl
  | ofFunction check expected fn args named depth =>
    by_cases whole : check = .items
    · subst whole
      rcases wanted : (items expected).exec s.counted with ⟨(fault | xs), m⟩
      · obtain ⟨log, tally⟩ := items_keeps wanted
        have stops : (Check.items.collected expected).exec s.counted = (.error fault, m) :=
          exec_bind_error wanted newList
        exact .inr ⟨fault, m, (exec_bind_ok count _).trans (exec_bind_error stops _), tally, log⟩
      · exact .inl (exec_perform_items wanted)
    · exact .inl (exec_perform_whole whole)

theorem exec_lookBack (depth : Value) (s : Session) :
    (∃ fault, (lookBack depth).exec s = (.error fault, s)) ∨
      (lookBack depth).exec s = (.ok (), s) := by
  unfold lookBack
  rw [exec_bind_ok (exec_get s)]
  dsimp only
  split
  · exact .inl ⟨_, rfl⟩
  · split
    · exact .inl ⟨_, rfl⟩
    · exact .inr rfl

theorem exec_lookBack_zero (s : Session) : (lookBack (.int 0)).exec s = (.ok (), s) := by
  have there : Store.position? (s.surroundings.callers + 3) 2 ≠ none := by
    simp [Store.position?]
    omega
  unfold lookBack
  rw [exec_bind_ok (exec_get s)]
  simp [Store.index?, there]

/-- A failure is counted before it is told. Nothing at all cannot be what failed, and a place that
is not there cannot be told. -/
theorem exec_fail (subject : Value) (told : String → Failure) (depth : Value) (s : Session) :
    (Check.fail subject told depth).exec s = (.error .noSubject, s) ∨
      (∃ fault, (Check.fail subject told depth).exec s =
        (.error fault, { s with tally := s.tally.addFailure })) ∨
      (Check.fail subject told depth).exec s =
        (do (told (← Check.subjectName subject)).report : Eval Unit).exec
          { s with tally := s.tally.addFailure } := by
  let counted := { s with tally := s.tally.addFailure }
  have count : countFailure.exec s = (.ok (), counted) := rfl
  unfold Check.fail
  split
  · exact .inl (exec_bind_error (exec_throw _ _) _)
  · rcases exec_lookBack depth counted with ⟨fault, stops⟩ | found
    · exact .inr (.inl ⟨fault, (exec_bind_ok count _).trans (exec_bind_error stops _)⟩)
    · exact .inr (.inr ((exec_bind_ok count _).trans (exec_bind_ok found _)))

theorem fail_done {subject depth : Value} {told : String → Failure}
    (run : (Check.fail subject told depth).exec s = (.ok (), t)) :
    ∃ text u, (do (told (← Check.subjectName subject)).block : Eval String).exec s =
      (.ok text, u) ∧ t.tally = s.tally.addFailure ∧ t.log = s.log ++ text := by
  rcases exec_fail subject told depth s with stops | ⟨_, stops⟩ | reports
  · cases stops.symm.trans run
  · cases stops.symm.trans run
  · obtain ⟨name, m, named, reported⟩ := exec_bind_eq_ok.mp (reports.symm.trans run)
    have quietName := Check.quiet_subjectName subject
    have writes := Failure.writes_report (told name)
    have quiet : Quiet (do (told (← Check.subjectName subject)).block : Eval String) :=
      .bind quietName fun name => (Failure.writes_report (told name)).quiet
    obtain ⟨text, u, shown, rfl⟩ := writes.done reported
    have both := (exec_bind_ok named fun name => (told name).block).trans shown
    rw [quiet.exec_tally] at both
    obtain ⟨given, _⟩ := Prod.mk.inj both
    have log := quietName.log_eq named
    refine ⟨text, _, Prod.ext given rfl, ?_, ?_⟩
    · exact (writes.quiet.tally_eq shown).trans (quietName.tally_eq named)
    · exact congrArg (· ++ text) log

/-- Where a call stops, either nothing was counted and written, or a failure was counted and a part
of what tells it written. -/
def StopsAt (s t : Session) : Prop :=
  t.tally = s.tally ∧ t.log = s.log ∨
    t.tally = s.tally.addFailure ∧ ∃ part, t.log = s.log ++ part

theorem fail_stopped {subject depth : Value} {told : String → Failure} {fault : Fault}
    (run : (Check.fail subject told depth).exec s = (.error fault, t)) : StopsAt s t := by
  rcases exec_fail subject told depth s with stops | ⟨_, stops⟩ | reports
  · cases stops.symm.trans run
    exact .inl ⟨rfl, rfl⟩
  · cases stops.symm.trans run
    exact .inr ⟨rfl, "", (String.append_empty).symm⟩
  · have quietName := Check.quiet_subjectName subject
    rcases exec_bind_eq_error.mp (reports.symm.trans run) with nameless | ⟨name, m, named, stops⟩
    · have log := quietName.log_eq nameless
      refine .inr ⟨quietName.tally_eq nameless, "", ?_⟩
      rw [String.append_empty]
      exact log
    · have log := quietName.log_eq named
      obtain ⟨kept, part, written⟩ := (Failure.writes_report (told name)).stopped stops
      refine .inr ⟨kept.trans (quietName.tally_eq named), part, ?_⟩
      rw [written, log]

theorem StopsAt.after {α : Type} {x : Eval α} {m : Session} {r : Except Fault α}
    (stops : StopsAt m t) (quiet : Quiet x) (run : x.exec s = (r, m)) : StopsAt s t := by
  unfold StopsAt at *
  rwa [quiet.tally_eq run, quiet.log_eq run] at stops

theorem exec_subjectName_text (name : String) (s : Session) :
    (Check.subjectName (.text name)).exec s = (.ok name, s) := rfl

theorem accuse_done {told : String → Failure} (run : (c.accuse told).exec s = (.ok (), t)) :
    ∃ text u, (do (told (← c.naming)).block : Eval String).exec s = (.ok text, u) ∧
      t.tally = s.tally.addFailure ∧ t.log = s.log ++ text := by
  cases c with
  | ofFunction check expected fn args named depth => exact fail_done run
  | ofValues expected actual description =>
    obtain ⟨name, m, named, failed⟩ := exec_bind_eq_ok.mp run
    obtain ⟨text, u, shown, tally, log⟩ := fail_done failed
    rw [exec_bind_ok (exec_subjectName_text name m)] at shown
    have quiet := quiet_display description
    refine ⟨text, u, (exec_bind_ok named _).trans shown, ?_, ?_⟩
    · rw [tally, quiet.tally_eq named]
    · rw [log, quiet.log_eq named]

theorem accuse_stopped {told : String → Failure} {fault : Fault}
    (run : (c.accuse told).exec s = (.error fault, t)) : StopsAt s t := by
  cases c with
  | ofFunction check expected fn args named depth => exact fail_stopped run
  | ofValues expected actual description =>
    have quiet := quiet_display description
    rcases exec_bind_eq_error.mp run with nameless | ⟨name, m, named, stops⟩
    · exact .inl ⟨quiet.tally_eq nameless, quiet.log_eq nameless⟩
    · exact (fail_stopped stops).after quiet named

/-- A check that passes leaves everything to the tested function. One that fails is counted and
told, if the call ends well. -/
theorem judge_done (run : (c.judge trial).exec trial.judged = (.ok (), t)) :
    ¬ c.Fails trial ∧ t.tally = trial.judged.tally ∧ t.log = trial.judged.log ∨
    c.Fails trial ∧ t.tally = trial.judged.tally.addFailure ∧
      ∃ text u, (c.told trial).exec trial.judged = (.ok text, u) ∧
        t.log = trial.judged.log ++ text := by
  unfold judge at run
  obtain ⟨passed, m, judged, rest⟩ := exec_bind_eq_ok.mp run
  have quiet := Check.quiet_passes c.check trial.expected trial.outcome
  have verdict : passed = false ↔ c.Fails trial := Check.passes_eq_false_iff judged
  cases passed with
  | true =>
    cases rest
    refine .inl ⟨?_, quiet.tally_eq judged, quiet.log_eq judged⟩
    intro fails
    cases verdict.mpr fails
  | false =>
    obtain ⟨text, u, shown, tally, log⟩ := accuse_done rest
    refine .inr ⟨verdict.mp rfl, ?_, text, u, ?_, ?_⟩
    · rw [tally, quiet.tally_eq judged]
    · unfold told
      rw [exec_bind_ok judged]
      exact shown
    · rw [log, quiet.log_eq judged]

theorem judge_stopped {fault : Fault}
    (run : (c.judge trial).exec trial.judged = (.error fault, t)) :
    t.tally = trial.judged.tally ∧ t.log = trial.judged.log ∨
      c.Fails trial ∧ t.tally = trial.judged.tally.addFailure ∧
        ∃ part, t.log = trial.judged.log ++ part := by
  unfold judge at run
  have quiet := Check.quiet_passes c.check trial.expected trial.outcome
  rcases exec_bind_eq_error.mp run with undecided | ⟨passed, m, judged, stops⟩
  · exact .inl ⟨quiet.tally_eq undecided, quiet.log_eq undecided⟩
  · have verdict : passed = false ↔ c.Fails trial := Check.passes_eq_false_iff judged
    cases passed with
    | true => cases stops
    | false =>
      rcases (accuse_stopped stops).after quiet judged with kept | counted
      · exact .inl kept
      · exact .inr ⟨verdict.mp rfl, counted⟩

/-- What a call of a check does, however it ends. The check is counted. A failure is counted at
most once, and only if the check fails; if none is, nothing is added to what the tested function
wrote. A call that ends well counts a failure exactly if the check fails, and tells it in one
block. -/
structure Obeys (call : NamedCaller) (c : CheckCall) (s : Session) (r : Except Fault Unit)
    (t : Session) : Prop where
  tests : t.tally.tests = s.tally.tests + 1
  failures : t.tally.failures = s.tally.failures ∧ (t.log = s.log ∨
      ∃ trial, c.Tries call s.counted trial ∧ trial.start.log = s.log ∧
        t.log = trial.left.log) ∨
    t.tally.failures = s.tally.failures + 1 ∧
      ∃ trial, c.Tries call s.counted trial ∧ c.Fails trial ∧ trial.start.log = s.log ∧
        ∃ part, t.log = trial.left.log ++ part
  returned : r = .ok () → ∃ trial, c.Tries call s.counted trial ∧ trial.start.log = s.log ∧
    (¬ c.Fails trial ∧ t.tally.failures = s.tally.failures ∧ t.log = trial.left.log ∨
      c.Fails trial ∧ t.tally.failures = s.tally.failures + 1 ∧
        ∃ text u, (c.told trial).exec trial.judged = (.ok text, u) ∧
          t.log = trial.left.log ++ text)

theorem obeys_perform (keeps : c.KeepsTally call) {r : Except Fault Unit}
    (run : (c.perform call).exec s = (r, t)) : Obeys call c s r t := by
  have grows : ∀ {n : Tally}, n = s.counted.tally.addFailure →
      n.tests = s.tally.tests + 1 ∧ n.failures = s.tally.failures + 1 := by
    rintro _ rfl
    exact ⟨rfl, rfl⟩
  have stays : ∀ {n : Tally}, n = s.counted.tally →
      n.tests = s.tally.tests + 1 ∧ n.failures = s.tally.failures := by
    rintro _ rfl
    exact ⟨rfl, rfl⟩
  -- Either the outcome is judged, or the expected items cannot be had.
  rcases exec_perform call c s with ⟨trial, tries, judged⟩ | ⟨fault, u, stops, kept, silent⟩
  · obtain ⟨start, log, tally⟩ := tries.keeps keeps
    rw [judged] at run
    cases r with
    | error fault =>
      have stops := judge_stopped run
      rw [tally, log] at stops
      rcases stops with ⟨kept, silent⟩ | ⟨fails, counted, part⟩
      · obtain ⟨tests, failures⟩ := stays kept
        exact ⟨tests, .inl ⟨failures, .inr ⟨trial, tries, start, silent⟩⟩, by simp⟩
      · obtain ⟨tests, failures⟩ := grows counted
        exact ⟨tests, .inr ⟨failures, trial, tries, fails, start, part⟩, by simp⟩
    | ok _ =>
      have ends := judge_done run
      rw [tally, log] at ends
      rcases ends with ⟨passes, kept, silent⟩ | ⟨fails, counted, text, u, shown, written⟩
      · obtain ⟨tests, failures⟩ := stays kept
        refine ⟨tests, .inl ⟨failures, .inr ⟨trial, tries, start, silent⟩⟩, fun _ => ?_⟩
        exact ⟨trial, tries, start, .inl ⟨passes, failures, silent⟩⟩
      · obtain ⟨tests, failures⟩ := grows counted
        refine ⟨tests, .inr ⟨failures, trial, tries, fails, start, text, written⟩, fun _ => ?_⟩
        exact ⟨trial, tries, start, .inr ⟨fails, failures, text, u, shown, written⟩⟩
  · cases stops.symm.trans run
    obtain ⟨tests, failures⟩ := stays kept
    exact ⟨tests, .inl ⟨failures, .inl silent⟩, by simp⟩

end CheckCall

end TreeQuery
