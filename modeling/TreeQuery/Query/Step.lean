import TreeQuery.Display.Query
import TreeQuery.Search.Children

/-! Steps: how they are given, and what one of them does to a value. -/

namespace TreeQuery

abbrev Caller := Value → List Value → Eval Value

namespace Store

def step? (st : Store) (v : Value) : Option Step :=
  match st.object? v with
  | some (.step s) => some s
  | _ => none

/-- `step_matcher`: the child that a selector and a value ask for, by tag or by an attribute. -/
def selectChild (st : Store) (attr wanted v : Value) : Except Fault Value := do
  if attr = Step.tagSelector then return foundValue (← st.childTagged wanted v)
  else return foundValue (← st.childWithAttr attr wanted v)

end Store

namespace Step

def ofPair (st : Store) (attr wanted : Value) : Step :=
  if (st.tupleItems? wanted).isSome then .branch attr wanted else .scalar attr wanted

/-- `mk_step`: reads a step, which may be a plain pair. -/
def read (v : Value) : Eval Step := do
  match (← Eval.getStore).step? v with
  | some s => return s
  | none =>
    let (attr, wanted) ← Eval.pair v
    return ofPair (← Eval.getStore) attr wanted

def readValue (v : Value) : Eval Value := do
  match (← Eval.getStore).step? v with
  | some _ => return v
  | none => Eval.alloc (.step (← read v))

def form (st : Store) (v : Value) : Except Fault Value :=
  match st.step? v with
  | some (.branch _ form) => .ok form
  | _ => .error (.noAttribute "form")

/-- Carries a step out on a value. A branch selects once for each candidate, all from the same
value, and its combinator decides. -/
def carryOut (call : Caller) (step : Step) (current : Value) : Eval Value := do
  match step with
  | .scalar attr wanted => (← Eval.getStore).selectChild attr wanted current
  | .branch attr form =>
    let (combinator, candidates) ← Eval.pair form
    let results ← Eval.visit candidates fun wanted => do
      (← Eval.getStore).selectChild attr wanted current
    call combinator results

end Step

end TreeQuery
