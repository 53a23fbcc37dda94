import TreeQuery.Sequence
import TreeQuery.Display.Words

namespace TreeQuery

def Step.tagSelector : Value := .text "tag"

namespace Display

def ownName? (st : Store) : Value → Option String
  | .function f => some f.qualifiedName
  | .errorClass c => some c.name
  | v =>
    match st.object? v with
    | some (.closure (.constant _)) => some "const"
    | some (.closure (.argument _)) => some "nth"
    | some (.closure (.pick _)) => some "pick"
    | some (.closure (.spy _)) => some "spy"
    | some (.closure (.raising _)) => some "raising"
    | some (.closure (.selector _)) => some "step_matcher.<locals>.<lambda>"
    | some (.closure (.disguised _ name)) => name
    | _ => none

/-- `_fn_name`: the name that a value has of its own if there is one that is not empty, and else its
shown form. -/
def callName (render : Renderer) (v : Value) : Eval String := do
  match ownName? (← Eval.getStore) v with
  | some "" | none => render v
  | some name => return name

def searchHead (render : Renderer) (attr : Value) : Eval String := do
  if attr = Step.tagSelector then return "find_child_by_tag("
  else
    let shown ← render attr
    return "find_child_by_attr(" ++ shown ++ ", "

def stepExpression (render plain : Renderer) (i : Nat) (step : Step) (inner : Value) :
    Eval Value := do
  let head ← searchHead render step.attr
  match step with
  | .scalar _ v =>
    let shown ← render v
    let inner ← plain inner
    return .text (head ++ shown ++ ", " ++ inner ++ ")")
  | .branch _ form =>
    let (combinator, candidates) ← Eval.pair form
    let var := "_" ++ toString i
    let calls ← Eval.visit candidates fun c => do
      let shown ← render c
      return head ++ shown ++ ", " ++ var ++ ")"
    let name ← callName render combinator
    let inner ← plain inner
    return .text ("(lambda " ++ var ++ ": " ++ name ++ "(" ++ ", ".intercalate calls ++ "))("
      ++ inner ++ ")")

/-- `expand`: the expression that a list of steps carries out, the innermost part being that of the
root. Without steps it is the root's own expression, as it was given. -/
def expressionFrom (render plain : Renderer) : Nat → List Step → Value → Eval Value
  | _, [], inner => return inner
  | i, step :: steps, inner => do
    let outer ← stepExpression render plain i step inner
    expressionFrom render plain (i + 1) steps outer

def expression (render plain : Renderer) (steps : List Step) (root : Value) : Eval Value :=
  expressionFrom render plain 1 steps root

def rootName : Value := .text "root"

def listed (render : Renderer) (vs : List Value) : Eval String := do
  return "[" ++ ", ".intercalate (← vs.mapM render) ++ "]"

/-- `fmt_step`. -/
def stepText (render plain : Renderer) : Step → Eval String
  | .scalar attr v => do
    let attr ← plain attr
    let shown ← render v
    return attr ++ "=" ++ shown
  | .branch attr form => do
    let (combinator, candidates) ← Eval.pair form
    let attr ← plain attr
    let name ← callName render combinator
    let candidates ← Eval.items candidates
    let shown ← listed render candidates
    return attr ++ "=" ++ name ++ shown

end Display

end TreeQuery
