import TreeQuery.Diagnostics
import TreeQuery.Query.Step

/-! Queries: made from steps, and carried out on a root. -/

namespace TreeQuery

namespace Query

/-- What `traced_query` writes of a step that has been carried out. -/
def record (step : Step) (result : Value) : Eval Unit := do
  let step ← Display.stepText display plain step
  let result ← Display.abbreviated Display.usualLimit result
  Eval.emitLine ("descend: " ++ step ++ " -> " ++ result)

def stage (call : Caller) (traced : Bool) (inner : Value → Eval Value) (step : Step) :
    Value → Eval Value := fun root => do
  let current ← inner root
  let result ← step.carryOut call current
  if traced then record step result
  return result

/-- The queries that `_compile_step` nests in each other. Without steps there is `_identity`. -/
def compose (call : Caller) (traced : Bool) (steps : List Step) : Value → Eval Value :=
  steps.foldl (stage call traced) pure

def run (call : Caller) (q : Query) (root : Value) : Eval Value :=
  compose call q.traced q.steps root

/-- `Descent.eval`: the expression is evaluated once and before any step. -/
def evaluate (call : Caller) (q : Query) (root : Eval Value) : Eval Value := do
  q.run call (← root)

def expression (q : Query) (root : Value) : Eval Value :=
  Display.expression display plain q.steps root

/-- `Descent.require`. -/
def require (call : Caller) (q : Query) (root : Value) : Eval Value := do
  let result ← q.run call root
  if result = .null then
    let expression ← plain (← q.expression Display.rootName)
    throw (.noMatch root expression)
  return result

/-- `Descent.__init__`. Whether a query is traced is settled now, by a setting if it is not
given. -/
def ofSteps (steps trace : Value) : Eval Query := do
  let given ← Eval.visit steps Step.readValue
  let trace ← if trace = .null then Value.bool <$> Eval.flag (.text Settings.traceName)
    else pure trace
  let tuple ← Eval.allocAt (.tuple given)
  let st ← Eval.getStore
  return ⟨given.filterMap st.step?, tuple, trace, st.truthy trace⟩

def ofValue (st : Store) (v : Value) : Except Fault Query :=
  match st.object? v with
  | some (.query q) => .ok q
  | _ => .error (.noAttribute "steps")

end Query

end TreeQuery
