import TreeQuery.Diagnostics

/-! Checks of functions and values. Each is counted; one that fails is counted as a failure and
reported in the diagnostics. -/

namespace TreeQuery

abbrev NamedCaller := Value → List Value → Keywords → Eval Value

/-- What a check looks at: the returned value (`utest`), its shown form (`utest_repr`), the error
that ends the call (`utest_exc`), or the items of what is returned (`utest_seq`). -/
inductive Check
  | value
  | shown
  | error
  | items
  deriving DecidableEq, Repr

abbrev Outcome := Except Fault Value

structure Failure where
  name : String
  args : List Value
  named : Keywords
  expectedLabel : String
  expected : Value
  returnedLabel : String
  outcome : Outcome

namespace Tally

def addTest (t : Tally) : Tally := { t with tests := t.tests + 1 }
def addFailure (t : Tally) : Tally := { t with failures := t.failures + 1 }

end Tally

namespace Eval

def countTest : Eval Unit := modify fun s => { s with tally := s.tally.addTest }
def countFailure : Eval Unit := modify fun s => { s with tally := s.tally.addFailure }

def attempt {α : Type} (x : Eval α) : Eval (Except Fault α) :=
  tryCatch (Except.ok <$> x) fun fault => do
    return .error (fault.caught (← get).surroundings.wording)

/-- A failure tells the place of the caller that `_utest_depth` asks for, whose frame has to be
there. The check and what reports its failure have a frame each. -/
def lookBack (depth : Value) : Eval Unit := do
  let frames := (← get).surroundings.callers + 3
  match Store.index? depth with
  | none => throw (.wrongType "int")
  | some depth => if (Store.position? frames (2 + depth)).isNone then throw .outOfRange

end Eval

namespace Failure

def argLine (label : String) (v : Value) : Eval Unit := do
  let shown ← display v
  Eval.emitLine ("  arg " ++ label ++ " = " ++ shown)

def argLines : Nat → List Value → Eval Unit
  | _, [] => return ()
  | i, v :: vs => do
    argLine (toString i) v
    argLines (i + 1) vs

def outcomeLines (returnedLabel : String) : Outcome → Eval Unit
  | .ok v => do
    let shown ← display v
    Eval.emitLine ("  returned " ++ returnedLabel ++ ": " ++ shown)
  | .error fault => do
    let shown ← Display.ofError display fault.kind fault.args
    Eval.emitLine ("  raised exception: " ++ shown)
    Eval.emitLine "<traceback>"

def report (f : Failure) : Eval Unit := do
  Eval.emitLine ("\nLOC: utest failure: " ++ f.name)
  argLines 0 f.args
  f.named.forM fun given => argLine given.1 given.2
  let shown ← display f.expected
  Eval.emitLine ("  expected " ++ f.expectedLabel ++ ": " ++ shown)
  outcomeLines f.returnedLabel f.outcome
  Eval.emitLine ""

end Failure

namespace Check

def label : Check → String
  | value => "value"
  | shown => "repr"
  | error => "exception"
  | items => "sequence"

def returnedLabel : Check → String
  | items => "sequence"
  | _ => "value"

def subjectName (subject : Value) : Eval String := do
  match Display.ownName? (← Eval.getStore) subject with
  | some name => return name
  | none => plain subject

/-- `_compare_exceptions`: an error is the expected one if it is shown as a text, is of a class, or
has the class and the arguments of another error. -/
def isExpectedError (expected : Value) (fault : Fault) : Eval Bool := do
  match expected with
  | .text s => return s == (← Display.ofError display fault.kind fault.args)
  | .errorClass c => return fault.kind.isA c
  | v =>
    let st ← Eval.getStore
    match st.object? v with
    | some (.error kind args) =>
      return kind == fault.kind && Store.pairwise st.alike args fault.args
    | _ => return false

def passes : Check → Value → Outcome → Eval Bool
  | error, expected, .error fault => isExpectedError expected fault
  | error, _, .ok _ => return false
  | shown, expected, .ok v => do return expected == .text (← display v)
  | value, expected, .ok v | items, expected, .ok v => do
    return (← Eval.getStore).equal expected v
  | value, _, .error _ | shown, _, .error _ | items, _, .error _ => return false

def collected : Check → Value → Eval Value
  | items, v => do Eval.newList (← Eval.items v)
  | _, v => return v

/-- `_utest_failure`: counts and reports a failure. Nothing at all cannot be the subject of
a check. -/
def fail (subject : Value) (told : String → Failure) (depth : Value := .int 0) : Eval Unit := do
  if subject = .null then throw .noSubject
  Eval.countFailure
  Eval.lookBack depth
  (told (← subjectName subject)).report

/-- `utest`, `utest_repr`, `utest_exc` and `utest_seq`. -/
def run (call : NamedCaller) (check : Check) (expected fn : Value) (args : List Value)
    (named : Keywords) (depth : Value := .int 0) : Eval Unit := do
  Eval.countTest
  let expected ← check.collected expected
  let outcome ← Eval.attempt do check.collected (← call fn args named)
  let passed ← check.passes expected outcome
  if !passed then
    fail fn (fun name =>
      ⟨name, args, named, check.label, expected, check.returnedLabel, outcome⟩) depth

/-- `utest_val`. -/
def runValue (expected actual description : Value) : Eval Unit := do
  Eval.countTest
  if !(← Eval.getStore).equal expected actual then
    let name ← display description
    fail (.text name) fun name => ⟨name, [], [], "value", expected, "value", .ok actual⟩

/-- `utest_call`. -/
def callOnce (call : NamedCaller) (fn : Value) : Eval Value := do
  let _ ← call fn [] []
  return fn

/-- `report`, with the exit codes that it asks for. -/
def report : Eval (List Nat) := do
  let tally := (← get).tally
  if tally.failures = 0 then return []
  Eval.emitLine ("\nutest ran: " ++ toString tally.tests ++ "; failed: " ++ toString tally.failures)
  return [1]

end Check

end TreeQuery
