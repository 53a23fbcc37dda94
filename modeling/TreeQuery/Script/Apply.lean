import TreeQuery.Combine
import TreeQuery.Function.Arguments
import TreeQuery.Sequence

namespace TreeQuery

namespace Eval

def raise {α : Type} (v : Value) : Eval α := do
  match v with
  | .errorClass .noMatch | .errorClass .pattern => throw .wrongArguments
  | .errorClass c => throw (.raised c [])
  | v =>
    match (← getStore).object? v with
    | some (.error kind args) => throw (.raised kind args)
    | _ => throw (.wrongType "an error")

def recordArguments (args : List Value) : Eval Unit :=
  modify fun s => { s with recorded := s.recorded ++ [args] }

def takeRecorded : Eval Value := do
  let recorded := (← get).recorded
  modify fun s => { s with recorded := [] }
  newList (← recorded.mapM newList)

end Eval

open Eval in
def ScriptFunction.apply (f : ScriptFunction) (a : Arguments) : Eval Value := do
  match f, a.given with
  | itself, [some v] | echo, [some v] => return v
  | setItem, [some c, some key, some v] =>
    Eval.setItem c key v
    return c
  | append, [some list, some v] =>
    Eval.append list v
    return list
  | identical, [some v, some w] => return .bool (v == w)
  | spied, [] => takeRecorded
  | tupleOf, [] => alloc (.tuple a.rest)
  | count, [] => return .int (Combine.allPresent a.rest).length
  | last, [] => return Combine.firstPresent a.rest.reverse
  | pair, [some v, some w] => newList [v, w]
  | boom, [] => throw (.raised .value [.text "boom"])
  | drop, [] | nothing, [] => return .null
  | fail, [some error] => raise error
  | _, _ => throw .wrongArguments

end TreeQuery
