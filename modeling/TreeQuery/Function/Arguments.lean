import TreeQuery.Fault
import TreeQuery.Function

namespace TreeQuery

/-- The arguments of a call by parameter, first those that can be filled by place; `none` stands
for an optional one that is left out. `rest` and `extra` are the collected others. -/
structure Arguments where
  given : List (Option Value)
  rest : List Value
  extra : Keywords
  deriving DecidableEq, Repr

namespace Function

/-- Fills parameters by place, and by name when the places have run out. None can be filled
twice. -/
def fill (named : Keywords) : List Parameter → List Value → Except Fault (List (Option Value))
  | [], _ => .ok []
  | p :: ps, vs => do
    let first ← match vs, named.lookup p.name with
      | _ :: _, some _ => throw .wrongArguments
      | v :: _, none | [], some v => pure (some v)
      | [], none => if p.optional then pure none else throw .wrongArguments
    return first :: (← fill named ps vs.tail)

def Signature.accept (s : Signature) (args : List Value) (named : Keywords) :
    Except Fault Arguments := do
  let byPlace ← fill named s.places (args.take s.places.length)
  let byName ← fill named s.named []
  let rest := args.drop s.places.length
  let extra := named.filter fun given => !(s.places ++ s.named).any (·.name == given.1)
  if (!rest.isEmpty && !s.rest) || (!extra.isEmpty && !s.extra) then throw .wrongArguments
  return ⟨byPlace ++ byName, rest, extra⟩

end Function

end TreeQuery
