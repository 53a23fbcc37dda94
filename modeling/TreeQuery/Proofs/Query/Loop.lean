import TreeQuery.Call
import TreeQuery.Proofs.Display.Quiet
import TreeQuery.Proofs.Query.Reading

/-! A query does what a loop over its steps does, which keeps one current value. Queries are made
inside out, each step around what is done before it; the loop goes from left to right and lists
the combinators that are called. -/

namespace TreeQuery

open Eval

structure Application where
  combinator : Value
  results : List Value
  deriving DecidableEq, Repr

/-- What a step comes to before any combinator is called: a value, or a call that is due. -/
inductive Due
  | value (v : Value)
  | call (c : Application)

/-- What a run came to: the calls of combinators in the order in which they were made, the value
or the fault at the end, and the session that is left. -/
structure Course where
  calls : List Application
  outcome : Except Fault Value
  session : Session

namespace Course

def ending (c : Course) : Except Fault Value × Session := (c.outcome, c.session)

def after (c : Course) (calls : List Application) : Course := { c with calls := calls ++ c.calls }

end Course

def Store.selectAll (st : Store) (selector : String) (candidates : List String) (v : Value) :
    Except Fault (List Value) :=
  candidates.mapM fun wanted => st.selectChild (.text selector) (.text wanted) v

theorem Store.selectAll_cons (st : Store) (selector wanted : String) (candidates : List String)
    (v : Value) : st.selectAll selector (wanted :: candidates) v =
      st.selectChild (.text selector) (.text wanted) v >>= fun first =>
        st.selectAll selector candidates v >>= fun others => pure (first :: others) := by
  rw [selectAll, List.mapM_cons]
  rfl

namespace Step

/-- Selects from the current value: one child, or for a branch one for each candidate, in order,
once the form has been unpacked. -/
def prepare (step : Step) (current : Value) : Eval Due := do
  match step with
  | .scalar attr wanted =>
    let found ← (← getStore).selectChild attr wanted current
    return .value found
  | .branch attr form =>
    let (combinator, candidates) ← pair form
    let results ← visit candidates fun wanted => do
      (← getStore).selectChild attr wanted current
    return .call ⟨combinator, results⟩

def course (call : Caller) (step : Step) (current : Value) (s : Session) : Course :=
  match (step.prepare current).exec s with
  | (.error fault, t) => ⟨[], .error fault, t⟩
  | (.ok (.value v), t) => ⟨[], .ok v, t⟩
  | (.ok (.call c), t) =>
    let (outcome, t') := (call c.combinator c.results).exec t
    ⟨[c], outcome, t'⟩

theorem quiet_select (attr current wanted : Value) :
    Quiet (do (← getStore).selectChild attr wanted current) :=
  .getStore_bind fun _ => .lift _

theorem quiet_prepare (step : Step) (current : Value) : Quiet (step.prepare current) := by
  cases step with
  | scalar attr wanted => exact .getStore_bind fun _ => .bind (.lift _) fun _ => .pure _
  | branch attr form =>
    exact .bind (.pair form) fun _ => .bind (.visit (quiet_select attr current) _) fun _ => .pure _

theorem carryOut_eq_prepare (call : Caller) (step : Step) (current : Value) :
    step.carryOut call current = step.prepare current >>= fun due =>
      match due with
      | .value v => pure v
      | .call c => call c.combinator c.results := by
  cases step <;> simp [carryOut, prepare]

theorem exec_carryOut (call : Caller) (step : Step) (current : Value) (s : Session) :
    (step.carryOut call current).exec s = (step.course call current s).ending := by
  rw [carryOut_eq_prepare, exec_bind, course]
  rcases (step.prepare current).exec s with ⟨(fault | v | c), t⟩ <;> rfl

theorem exec_carryOut_scalar (call : Caller) (selector wanted : String) (current : Value)
    (s : Session) : ((scalar (.text selector) (.text wanted)).carryOut call current).exec s =
      (s.store.selectChild (.text selector) (.text wanted) current, s) := by
  rw [carryOut, exec_bind_ok (exec_getStore s), exec_lift]

theorem exec_select (selector : String) (candidates : List String) (current : Value)
    (s : Session) : ((candidates.map Value.text).mapM fun wanted => do
      (← getStore).selectChild (.text selector) wanted current).exec s =
        (s.store.selectAll selector candidates current, s) := by
  induction candidates with
  | nil => rfl
  | cons wanted candidates ih =>
    rw [List.map_cons, exec_mapM_cons, Store.selectAll_cons, exec_bind,
      exec_bind_ok (exec_getStore s), exec_lift]
    rcases s.store.selectChild (.text selector) (.text wanted) current with fault | first
    · rfl
    · simp only
      rw [exec_bind, ih]
      rcases s.store.selectAll selector candidates current with fault | others <;> rfl

end Step

namespace Query

def tell (traced : Bool) (step : Step) (result : Value) : Eval Unit :=
  if traced then record step result else pure ()

/-- Carries steps out from left to right, each on the value that the one before it gave. It stops
at the first fault. -/
def loop (call : Caller) (traced : Bool) : List Step → Value → Session → Course
  | [], current, s => ⟨[], .ok current, s⟩
  | step :: steps, current, s =>
    match step.course call current s with
    | ⟨calls, .error fault, t⟩ => ⟨calls, .error fault, t⟩
    | ⟨calls, .ok next, t⟩ =>
      match (tell traced step next).exec t with
      | (.error fault, t') => ⟨calls, .error fault, t'⟩
      | (.ok (), t') => (loop call traced steps next t').after calls

theorem stage_eq (call : Caller) (traced : Bool) (inner : Value → Eval Value) (step : Step)
    (root : Value) :
    stage call traced inner step root = inner root >>= fun current =>
      step.carryOut call current >>= fun result =>
        tell traced step result >>= fun _ => pure result := by
  cases traced <;> simp [stage, tell]

theorem foldl_stage (call : Caller) (traced : Bool) (steps : List Step)
    (inner : Value → Eval Value) (root : Value) :
    steps.foldl (stage call traced) inner root = inner root >>= compose call traced steps := by
  induction steps generalizing inner root with
  | nil => simp [compose]
  | cons step steps ih =>
    have outer : compose call traced (step :: steps) = fun v =>
        stage call traced pure step v >>= compose call traced steps := by
      funext v
      exact ih (stage call traced pure step) v
    calc (step :: steps).foldl (stage call traced) inner root
      _ = stage call traced inner step root >>= compose call traced steps := ih _ _
      _ = inner root >>= fun v =>
          stage call traced pure step v >>= compose call traced steps := by
        simp only [stage_eq, pure_bind, bind_assoc]
      _ = inner root >>= compose call traced (step :: steps) := by rw [outer]

theorem compose_cons (call : Caller) (traced : Bool) (step : Step) (steps : List Step)
    (root : Value) :
    compose call traced (step :: steps) root = step.carryOut call root >>= fun result =>
      tell traced step result >>= fun _ => compose call traced steps result := by
  calc compose call traced (step :: steps) root
    _ = stage call traced pure step root >>= compose call traced steps :=
      foldl_stage call traced steps (stage call traced pure step) root
    _ = step.carryOut call root >>= fun result =>
        tell traced step result >>= fun _ => compose call traced steps result := by
      simp only [stage_eq, pure_bind, bind_assoc]

/-- The nested stages and the loop give the same and leave the same session. -/
theorem exec_compose (call : Caller) (traced : Bool) (steps : List Step) (root : Value)
    (s : Session) :
    (compose call traced steps root).exec s = (loop call traced steps root s).ending := by
  induction steps generalizing root s with
  | nil => rfl
  | cons step steps ih =>
    rw [compose_cons, exec_bind, Step.exec_carryOut, loop]
    rcases step.course call root s with ⟨calls, (fault | next), t⟩
    · rfl
    · simp only [Course.ending]
      rw [exec_bind]
      rcases (tell traced step next).exec t with ⟨(fault | ⟨⟩), t'⟩
      · rfl
      · exact ih next t'

/-- Steps behind others start where these have come to a value, and not at all behind a fault. -/
theorem loop_append (call : Caller) (traced : Bool) (steps more : List Step) (root : Value)
    (s : Session) :
    loop call traced (steps ++ more) root s =
      match loop call traced steps root s with
      | ⟨calls, .error fault, t⟩ => ⟨calls, .error fault, t⟩
      | ⟨calls, .ok v, t⟩ => (loop call traced more v t).after calls := by
  induction steps generalizing root s with
  | nil => rfl
  | cons step steps ih =>
    simp only [List.cons_append, loop]
    rcases step.course call root s with ⟨calls, (fault | next), t⟩
    · rfl
    · simp only
      rcases (tell traced step next).exec t with ⟨(fault | ⟨⟩), t'⟩
      · rfl
      · simp only [ih]
        rcases loop call traced steps next t' with ⟨calls', (fault | v), t''⟩
        · rfl
        · simp [Course.after]

theorem exec_recordArguments (args : List Value) (s : Session) :
    (recordArguments args).exec s = (.ok (), { s with recorded := s.recorded ++ [args] }) := rfl

def watched (call : Caller) : Caller := fun combinator results => do
  recordArguments (combinator :: results)
  call combinator results

theorem recorded_record (step : Step) (result : Value) (s : Session) :
    ((record step result).exec s).2.recorded = s.recorded := by
  unfold record
  rw [exec_bind, (Display.quiet_stepText quiet_display quiet_plain step).exec_eq]
  rcases (Display.stepText display plain step).exec s with ⟨(fault | text), t⟩
  · rfl
  · simp only
    rw [exec_bind, (Display.quiet_abbreviated _ result).exec_eq]
    rcases (Display.abbreviated _ result).exec { s with store := t.store } with ⟨(fault | _), _⟩ <;>
      rfl

/-- The calls that a course lists are those that are made, if calls leave the record alone. -/
theorem recorded_loop (call : Caller)
    (keeps : ∀ fn args s, ((call fn args).exec s).2.recorded = s.recorded) (traced : Bool)
    (steps : List Step) (root : Value) (s : Session) :
    (loop (watched call) traced steps root s).session.recorded =
      s.recorded ++
        (loop (watched call) traced steps root s).calls.map fun c => c.combinator :: c.results := by
  -- A step calls its combinator once or not at all, and records nothing else.
  have first : ∀ (step : Step) (current : Value) (s : Session),
      (step.course (watched call) current s).session.recorded = s.recorded ++
        (step.course (watched call) current s).calls.map fun c => c.combinator :: c.results := by
    intro step current s
    unfold Step.course
    rw [(step.quiet_prepare current).exec_eq]
    rcases (step.prepare current).exec s with ⟨(fault | v | c), t⟩
    · simp
    · simp
    · simp only [watched, exec_bind_ok (exec_recordArguments _ _), keeps, List.map_singleton]
  induction steps generalizing root s with
  | nil => simp [loop]
  | cons step steps ih =>
    have stepped := first step root s
    unfold loop
    rcases h : step.course (watched call) root s with ⟨calls, (fault | next), t⟩ <;>
      rw [h] at stepped
    · exact stepped
    · have told : ((tell traced step next).exec t).2.recorded = t.recorded := by
        unfold tell
        split
        · exact recorded_record step next t
        · rfl
      simp only
      rcases h' : (tell traced step next).exec t with ⟨(fault | ⟨⟩), t'⟩ <;> rw [h'] at told
      · exact told.trans stepped
      · simp only [Course.after, ih, List.map_append, ← List.append_assoc]
        exact congrArg (· ++ _) (told.trans stepped)

/-- What a query does is what the loop over its steps does: it gives the same and leaves the same
session, for every way to call combinators; steps that stand behind a fault change nothing; and
where calls are recorded, the loop's are. -/
structure RunsAsLoop (q : Query) (steps : List Step) : Prop where
  ending (call : Caller) (root : Value) (s : Session) :
    (q.run call root).exec s = (loop call q.traced steps root s).ending
  stops (call : Caller) (root : Value) (s : Session) (fault : Fault) (more : List Step) :
    (loop call q.traced steps root s).outcome = .error fault →
      (compose call q.traced (steps ++ more) root).exec s =
        (loop call q.traced steps root s).ending
  recorded (call : Caller) (root : Value) (s : Session) :
    (∀ fn args t, ((call fn args).exec t).2.recorded = t.recorded) →
      ((q.run (watched call) root).exec s).2.recorded = s.recorded ++
        (loop (watched call) q.traced steps root s).calls.map fun c => c.combinator :: c.results

/-- Any list of steps is made into a query, and nothing but new objects comes of making it; the
query then runs as the loop over these steps does. -/
theorem made_query_runs_as_loop (s : Session) (given : Value) (trace : Option Bool)
    (vs : List Value) (steps : List Step) (list : s.store.sequence? given = some vs)
    (reads : List.Forall₂ s.store.Reads vs steps) :
    ∃ q st, (ofSteps given (traceValue trace)).exec s = (.ok q, { s with store := st }) ∧
      s.store.Grows st ∧ q.traced = isTraced s.settings trace ∧ q.RunsAsLoop steps := by
  obtain ⟨q, st, made, grows, same, traced⟩ := exec_ofSteps trace list reads
  refine ⟨q, st, made, grows, traced, ?_, ?_, ?_⟩
  · intro call root t
    rw [run, same, exec_compose]
  · intro call root t fault more stopped
    rw [exec_compose, loop_append]
    rcases h : loop call q.traced steps root t with ⟨calls, (e | v), t'⟩
    · rfl
    · rw [h] at stopped
      cases stopped
  · intro call root t keeps
    rw [run, same, exec_compose]
    exact recorded_loop call keeps q.traced steps root t

def mixedSteps : Session where
  store.objects := #[.step (.scalar (.text "class") (.text "a")),
    .tuple [.text "tag", .text "div"], .tuple [], .tuple [.text "tag", .ref 2],
    .list [.ref 0, .ref 1, .ref 3]]

theorem mixed_steps_run_as_loop :
    mixedSteps.store.sequence? (.ref 4) = some [.ref 0, .ref 1, .ref 3] ∧
      ∃ q st, (ofSteps (.ref 4) (traceValue none)).exec mixedSteps =
          (.ok q, { mixedSteps with store := st }) ∧
        mixedSteps.store.Grows st ∧ q.traced = isTraced mixedSteps.settings none ∧
        q.RunsAsLoop [.scalar (.text "class") (.text "a"), .scalar (.text "tag") (.text "div"),
          .branch (.text "tag") (.ref 2)] := by
  have form : mixedSteps.store.Live (.ref 2) := by
    intro a same
    cases same
    decide
  have plain : mixedSteps.store.Live (.text "div") := by
    intro a same
    cases same
  exact ⟨rfl, made_query_runs_as_loop mixedSteps (.ref 4) none [.ref 0, .ref 1, .ref 3] _ rfl
    (.cons (.typed rfl) (.cons (.pair rfl plain) (.cons (.pair rfl form) .nil)))⟩

end Query

end TreeQuery
