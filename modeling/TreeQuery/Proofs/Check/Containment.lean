import TreeQuery.Call
import TreeQuery.Proofs.Check.Calls
import TreeQuery.Proofs.Display.Deeper
import TreeQuery.Proofs.Node.Given

/-! A check contains whatever becomes of the function that it tests: it ends well, and tells a
failure, where the values involved can be compared and shown. Nothing at all cannot be told of. -/

namespace TreeQuery

open Eval

namespace Failure

def forms (f : Failure) : Eval Unit := do
  let _ ← f.args.mapM display
  let _ ← f.named.mapM fun given => display given.2
  let _ ← display f.expected
  match f.outcome with
  | .ok v => let _ ← display v
  | .error fault => let _ ← Display.ofError display fault.kind fault.args

variable {f : Failure} {s t : Session}

theorem exec_block_of_forms (shown : f.forms.exec s = (.ok (), t)) :
    ∃ text, f.block.exec s = (.ok text, t) := by
  obtain ⟨args, m, byPlace, shown⟩ := exec_bind_eq_ok.mp shown
  obtain ⟨named, m', byName, shown⟩ := exec_bind_eq_ok.mp shown
  obtain ⟨expected, m'', wanted, shown⟩ := exec_bind_eq_ok.mp shown
  have outcome : ∃ text, (outcomeText f.returnedLabel f.outcome).exec m'' = (.ok text, t) := by
    rcases came : f.outcome with fault | v
    · rw [came] at shown
      obtain ⟨text, _, out, same⟩ := exec_bind_eq_ok.mp shown
      cases same
      exact ⟨_, exec_bind_ok out _⟩
    · rw [came] at shown
      obtain ⟨text, _, out, same⟩ := exec_bind_eq_ok.mp shown
      cases same
      exact ⟨_, exec_bind_ok out _⟩
  obtain ⟨text, out⟩ := outcome
  unfold block
  rw [exec_bind_ok byPlace, exec_bind_ok byName, exec_bind_ok wanted, exec_bind_ok out]
  exact ⟨_, rfl⟩

end Failure

namespace Check

variable {s t : Session} {subject : Value}

theorem exec_display_of_ownName {name : String}
    (named : Display.ownName? s.store subject = some name) :
    ∃ text, (display subject).exec s = (.ok text, s) := by
  cases subject with
  | ref a =>
    rcases read : s.store.read? a with _ | o
    · simp [Display.ownName?, Store.object?, read] at named
    · cases o with
      | closure c =>
        refine ⟨Display.ofClosure (Display.ownName? s.store (.ref a)) c, ?_⟩
        rw [display, Display.deepest, Display.valueWithin, exec_bind_ok (exec_getStore s), read]
        rfl
      | _ => simp [Display.ownName?, Store.object?, read] at named
  | _ => exact ⟨_, rfl⟩

/-- What can be shown has a name to be told under. -/
theorem exec_subjectName_of_display {text : String}
    (shown : (display subject).exec s = (.ok text, t)) :
    ∃ name, (subjectName subject).exec s = (.ok name, t) := by
  rw [subjectName, exec_bind_ok (exec_getStore s)]
  split
  · next name named =>
    obtain ⟨text', same⟩ := exec_display_of_ownName named
    cases shown.symm.trans same
    exact ⟨name, rfl⟩
  · exact exec_plain_of_display shown

end Check

namespace CheckCall

variable {call : NamedCaller} {c : CheckCall} {s t : Session} {trial trial' : Trial}
  {check : Check} {expected fn : Value} {args : List Value} {named : Keywords}

/-- A call comes to be judged in one way. -/
theorem Tries.unique (first : c.Tries call s trial) (second : c.Tries call s trial') :
    trial = trial' := by
  cases first with
  | called whole run =>
    cases second with
    | called _ run' =>
      cases run.symm.trans run'
      rfl
    | _ => exact absurd rfl whole
  | raised wanted run =>
    cases second with
    | called whole _ => exact absurd rfl whole
    | raised wanted' run' =>
      cases wanted.symm.trans wanted'
      cases run.symm.trans run'
      rfl
    | broken wanted' run' _ | listed wanted' run' _ =>
      cases wanted.symm.trans wanted'
      cases run.symm.trans run'
  | broken wanted run breaks =>
    cases second with
    | called whole _ => exact absurd rfl whole
    | raised wanted' run' =>
      cases wanted.symm.trans wanted'
      cases run.symm.trans run'
    | broken wanted' run' breaks' =>
      cases wanted.symm.trans wanted'
      cases run.symm.trans run'
      cases breaks.symm.trans breaks'
      rfl
    | listed wanted' run' given =>
      cases wanted.symm.trans wanted'
      cases run.symm.trans run'
      cases breaks.symm.trans given
  | listed wanted run given =>
    cases second with
    | called whole _ => exact absurd rfl whole
    | raised wanted' run' =>
      cases wanted.symm.trans wanted'
      cases run.symm.trans run'
    | broken wanted' run' breaks =>
      cases wanted.symm.trans wanted'
      cases run.symm.trans run'
      cases given.symm.trans breaks
    | listed wanted' run' given' =>
      cases wanted.symm.trans wanted'
      cases run.symm.trans run'
      cases given.symm.trans given'
      rfl
  | compared =>
    cases second
    rfl

theorem Tries.judged_eq (tries : c.Tries call s trial) :
    trial.judged.log = trial.left.log ∧ trial.judged.tally = trial.left.tally := by
  cases tries with
  | broken _ _ breaks => exact items_keeps breaks
  | listed _ _ given =>
    obtain ⟨log, tally⟩ := items_keeps given
    exact ⟨log, tally⟩
  | _ => exact ⟨rfl, rfl⟩

def inspect (c : CheckCall) (fn : Value) (trial : Trial) : Eval Unit := do
  let passed ← c.check.passes trial.expected trial.outcome
  if !passed then
    let _ ← display fn
    (c.failure trial "").forms

/-- The values involved can be compared and shown. -/
def Inspectable (c : CheckCall) (fn : Value) (trial : Trial) : Prop :=
  ∃ t, (c.inspect fn trial).exec trial.judged = (.ok (), t)

theorem exec_fail_of_shown {told : String → Failure} {m : Session} {text : String}
    (subject : fn ≠ .null) (shown : (display fn).exec s = (.ok text, m))
    (forms : ∀ name, ((told name).forms).exec m = (.ok (), t)) :
    ∃ u, (Check.fail fn told).exec s = (.ok (), u) := by
  obtain ⟨name, naming⟩ := Check.exec_subjectName_of_display shown
  obtain ⟨block, given⟩ := Failure.exec_block_of_forms (forms name)
  -- The failure is counted before, which is seen by none of this.
  have counted := (Check.quiet_subjectName fn).exec_tally s s.tally.addFailure
  have writes := Failure.writes_report (told name)
  have blockCounted := writes.quiet.exec_tally m s.tally.addFailure
  rw [naming] at counted
  rw [given] at blockCounted
  obtain ⟨u, reported⟩ := writes.completes blockCounted
  have count : countFailure.exec s = (.ok (), { s with tally := s.tally.addFailure }) := rfl
  unfold Check.fail
  rw [if_neg subject]
  refine ⟨u, (exec_bind_ok count _).trans ?_⟩
  rw [exec_bind_ok (exec_lookBack_zero _)]
  exact (exec_bind_ok counted _).trans reported

/-- How what came out of a function is judged: it passes, or its failure is told, or there is
nothing that could be told of. -/
theorem exec_judge_of_inspectable
    (inspectable : (ofFunction check expected fn args named).Inspectable fn trial) :
    (¬ (ofFunction check expected fn args named).Fails trial ∧ ∃ t,
      ((ofFunction check expected fn args named).judge trial).exec trial.judged = (.ok (), t)) ∨
    ((ofFunction check expected fn args named).Fails trial ∧ fn ≠ .null ∧ ∃ t,
      ((ofFunction check expected fn args named).judge trial).exec trial.judged = (.ok (), t)) ∨
    ((ofFunction check expected fn args named).Fails trial ∧ fn = .null ∧ ∃ t,
      ((ofFunction check expected fn args named).judge trial).exec trial.judged =
        (.error .noSubject, t) ∧
      t.tally = trial.judged.tally ∧ t.log = trial.judged.log) := by
  obtain ⟨u, run⟩ := inspectable
  obtain ⟨passed, m, decided, rest⟩ := exec_bind_eq_ok.mp run
  have quiet := Check.quiet_passes check trial.expected trial.outcome
  have verdict : passed = false ↔ (ofFunction check expected fn args named).Fails trial :=
    Check.passes_eq_false_iff decided
  unfold judge
  rw [exec_bind_ok decided]
  cases passed with
  | true =>
    refine .inl ⟨?_, m, rfl⟩
    intro fails
    cases verdict.mpr fails
  | false =>
    have fails := verdict.mp rfl
    obtain ⟨text, m', shown, forms⟩ := exec_bind_eq_ok.mp rest
    -- The failure is judged before its subject is looked at.
    by_cases subject : fn = .null
    · subst subject
      exact .inr (.inr ⟨fails, rfl, m, rfl, quiet.tally_eq decided, quiet.log_eq decided⟩)
    · exact .inr (.inl ⟨fails, subject, exec_fail_of_shown subject shown fun _ => forms⟩)

/-- What a check of a function does where the values involved can be compared and shown. It ends
well unless it was to call nothing at all and fails. If it passes, it leaves everything to the
function. If it fails, the failure is counted and told in one block behind what the function wrote;
but that of nothing at all is lost. It fails if the function raises what was not expected. -/
structure Contains (call : NamedCaller) (c : CheckCall) (fn : Value) (s : Session) (trial : Trial)
    (r : Except Fault Unit) (t : Session) : Prop where
  returns : r = .ok () ↔ ¬ (c.Fails trial ∧ fn = .null)
  passed : ¬ c.Fails trial → t.tally = trial.left.tally ∧ t.log = trial.left.log
  told : c.Fails trial → fn ≠ .null → t.tally = trial.left.tally.addFailure ∧
    ∃ text u, (c.told trial).exec trial.judged = (.ok text, u) ∧ t.log = trial.left.log ++ text
  lost : c.Fails trial → fn = .null →
    r = .error .noSubject ∧ t.tally = trial.left.tally ∧ t.log = trial.left.log
  raised {fault : Fault} : trial.outcome = .error fault →
    (c.check = .error → ¬ Check.Matches trial.judged fault trial.expected) → c.Fails trial
  counted : c.KeepsTally call → trial.left.tally = s.tally.addTest

theorem fails_of_raised {fault : Fault} (came : trial.outcome = .error fault)
    (unexpected : c.check = .error → ¬ Check.Matches trial.judged fault trial.expected) :
    c.Fails trial := by
  unfold Fails
  rw [came]
  cases kind : c.check with
  | error => exact unexpected kind
  | _ => trivial

theorem contains_of_tries
    (tries : (ofFunction check expected fn args named).Tries call s.counted trial)
    (inspectable : (ofFunction check expected fn args named).Inspectable fn trial) :
    Contains call (ofFunction check expected fn args named) fn s trial
      (((ofFunction check expected fn args named).judge trial).exec trial.judged).1
      (((ofFunction check expected fn args named).judge trial).exec trial.judged).2 := by
  obtain ⟨log, tally⟩ := tries.judged_eq
  have counted : (ofFunction check expected fn args named).KeepsTally call →
      trial.left.tally = s.tally.addTest := fun keeps => tally ▸ (tries.keeps keeps).2.2
  rcases exec_judge_of_inspectable inspectable with
    ⟨passes, t, run⟩ | ⟨fails, subject, t, run⟩ | ⟨fails, subject, t, run, kept, silent⟩
  · rw [run]
    rcases judge_done run with ⟨_, kept, silent⟩ | ⟨fails, _⟩
    · exact {
        returns := by simp [passes]
        passed := fun _ => ⟨kept.trans tally, silent.trans log⟩
        told := fun fails => absurd fails passes
        lost := fun fails => absurd fails passes
        raised := fails_of_raised
        counted }
    · exact absurd fails passes
  · rw [run]
    rcases judge_done run with ⟨passes, _⟩ | ⟨_, grown, block⟩
    · exact absurd fails passes
    · rw [tally] at grown
      rw [log] at block
      exact {
        returns := by simp [subject]
        passed := fun passes => absurd fails passes
        told := fun _ _ => ⟨grown, block⟩
        lost := fun _ null => absurd null subject
        raised := fails_of_raised
        counted }
  · rw [run]
    exact {
      returns := iff_of_false (by simp) fun contained => contained ⟨fails, subject⟩
      passed := fun passes => absurd fails passes
      told := fun _ other => absurd subject other
      lost := fun _ _ => ⟨rfl, kept.trans tally, silent.trans log⟩
      raised := fails_of_raised
      counted }

/-- A check contains every failure of the function that it tests, whatever the function and however
it ends, as long as the values involved can be compared and shown; a check of items needs expected
items. All but a failure of nothing at all is contained. -/
theorem checks_contain_failures (call : NamedCaller) (check : Check) (expected fn : Value)
    (args : List Value) (named : Keywords) (s : Session)
    (iterable : check = .items → (s.store.items? expected).isSome) :
    (∃ trial, (ofFunction check expected fn args named).Tries call s.counted trial) ∧
    ∀ trial, (ofFunction check expected fn args named).Tries call s.counted trial →
      (ofFunction check expected fn args named).Inspectable fn trial →
      Contains call (ofFunction check expected fn args named) fn s trial
        (((ofFunction check expected fn args named).perform call).exec s).1
        (((ofFunction check expected fn args named).perform call).exec s).2 := by
  obtain ⟨trial, tries, judged⟩ : ∃ trial,
      (ofFunction check expected fn args named).Tries call s.counted trial ∧
      ((ofFunction check expected fn args named).perform call).exec s =
        ((ofFunction check expected fn args named).judge trial).exec trial.judged := by
    by_cases whole : check = .items
    · obtain ⟨xs, given⟩ := Option.isSome_iff_exists.mp (iterable whole)
      obtain ⟨m, wanted⟩ := exec_items (s := s.counted) given
      subst whole
      exact exec_perform_items wanted
    · exact exec_perform_whole whole
  refine ⟨⟨trial, tries⟩, ?_⟩
  intro trial' tries' inspectable
  cases tries.unique tries'
  rw [judged]
  exact contains_of_tries tries inspectable

theorem number_is_told_of :
    let run := ((ofFunction .items (.text "a") (.int 5) [] []).perform Eval.call).exec {}
    run.1 = .ok () ∧ run.2.tally = ⟨1, 1⟩ ∧ run.2.log ≠ "" := by
  let called := (Session.counted {}).holding [.text "a"]
  have wanted : (items (.text "a")).exec (Session.counted {}) =
    (.ok [.text "a"], Session.counted {}) := rfl
  have raised : (Eval.call (.int 5) [] []).exec called = (.error .notCallable, called) := rfl
  have contains := (checks_contain_failures Eval.call .items (.text "a") (.int 5) [] [] {}
    (fun _ => rfl)).2 _ (.raised wanted raised) ⟨_, rfl⟩
  have fails := contains.raised rfl (fun error => nomatch error)
  have told := contains.told fails (by decide)
  exact ⟨contains.returns.mpr (by simp), told.1, by decide⟩

/-- That nothing at all cannot be called is neither counted nor told, though the check fails and
everything involved can be shown. -/
theorem nothing_is_not_told_of :
    let c := ofFunction .value (.int 1) .null [] []
    let s := Session.counted {}
    let trial : Trial := ⟨.int 1, s.caught (.error .notCallable), s, s, s⟩
    let run := (c.perform Eval.call).exec {}
    c.Tries Eval.call s trial ∧ c.Inspectable .null trial ∧ c.Fails trial ∧
      run.1 = .error .noSubject ∧ run.2.tally = ⟨1, 0⟩ ∧ run.2.log = "" :=
  ⟨.called (by decide) rfl, ⟨_, rfl⟩, trivial, rfl, rfl, rfl⟩

end CheckCall

end TreeQuery
