import TreeQuery.Display.Value

namespace TreeQuery

namespace PatternError

def countBefore (size : Nat) (place : Int) : Nat :=
  if place < 0 then (size + place).toNat else min size place.toNat

def lineAndColumn (breaks : List Bool) (place : Int) : Nat × Int :=
  let before := breaks.take (countBefore breaks.length place)
  let behind := before.reverse.takeWhile (!·)
  (before.count true + 1, place - (before.length - behind.length : Int) + 1)

def describe (breaks : List Bool) (place : Int) : String :=
  let (line, column) := lineAndColumn breaks place
  " at position " ++ toString place ++
    if breaks.contains true then
      " (line " ++ toString line ++ ", column " ++ toString column ++ ")"
    else ""

def checkPlace : Value → Except Fault Unit
  | .int _ | .bool _ => .ok ()
  | .float (.nan mark) => .error (.badNumber (Double.nan mark).toText)
  | .float (.infinite _) => .error .tooLarge
  | .float _ => .ok ()
  | _ => .error (.wrongType "a number")

def breaksOf (st : Store) : Value → Except Fault (List Bool)
  | .text s => .ok (s.toList.map (· == '\n'))
  | .bytes b => .ok (b.map (· == 10))
  | v =>
    match st.object? v with
    | some (.list _) | some (.tuple _) | some (.step _) => .error .wrongArguments
    | _ => .error (.noAttribute "count")

/-- What the error holds. The place is told if both the pattern and the place are given. -/
def content (message pattern place : Value) : Eval Value := do
  if pattern = .null ∨ place = .null then return message
  let text ← plain message
  checkPlace place
  let breaks ← breaksOf (← Eval.getStore) pattern
  match Store.index? place with
  | some i => return .text (text ++ describe breaks i)
  | none => throw (.wrongType "int")

end PatternError

end TreeQuery
