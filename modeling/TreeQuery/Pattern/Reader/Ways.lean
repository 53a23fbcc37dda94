import TreeQuery.Pattern.Program

namespace TreeQuery.Pattern

def eitherOf : List (List Program) → Program
  | [] => .empty
  | [way] => .ofList way
  | way :: ways => .either (.ofList way) (eitherOf ways)

def sharedStart? : List (List Program) → Option Program
  | (p :: _) :: ways => if p.isAtom && ways.all (·.head? == some p) then some p else none
  | _ => none

def oneSet? (ways : List (List Program)) : Option Program := do
  let sets ← ways.mapM fun way =>
    match way with
    | [.chars set] => if set.negated then none else some set
    | _ => none
  let first ← sets.head?
  return .chars { first with items := (sets.flatMap (·.items)).eraseDups }

def joinWays : Nat → List (List Program) → List Program
  | 0, ways => [eitherOf ways]
  | fuel + 1, ways =>
    match sharedStart? ways with
    | some p => p :: joinWays fuel (ways.map (·.drop 1))
    | none => [(oneSet? ways).getD (eitherOf ways)]

end TreeQuery.Pattern
