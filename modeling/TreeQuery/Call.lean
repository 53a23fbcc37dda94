import TreeQuery.Function.Apply
import TreeQuery.PatternError

namespace TreeQuery

namespace Eval

def noNames (named : Keywords) : Except Fault Unit :=
  if named.isEmpty then .ok () else .error .wrongArguments

def errorContent (c : ErrorClass) (args : List Value) (named : Keywords) : Eval (List Value) := do
  match c with
  | .noMatch =>
    return (← (Function.Signature.fixed ["root", "query"]).accept args named).given.filterMap id
  | .pattern =>
    let signature := Function.Signature.withOptional ["msg"] ["pattern", "pos"]
    match (← signature.accept args named).given with
    | [some message, pattern, place] =>
      return [← PatternError.content message (pattern.getD .null) (place.getD .null)]
    | _ => throw .wrongArguments
  | _ =>
    noNames named
    return args

def newError (c : ErrorClass) (args : List Value) (named : Keywords) : Eval Value := do
  alloc (.error c (← errorContent c args named))

def callClosure (call : NamedCaller) (c : Closure) (args : List Value) (named : Keywords) :
    Eval Value := do
  match c with
  | .constant v => return v
  | .argument place =>
    noNames named
    Store.itemAt args (.int place)
  | .pick number =>
    noNames named
    Combine.choosePresent (Combine.chooseAt number) args
  | .spy target =>
    recordArguments args
    call target args named
  | .raising error => raise error
  | .selector attr =>
    match (← (Function.Signature.fixed ["value", "node"]).accept args named).given with
    | [some wanted, some v] => (← getStore).selectChild attr wanted v
    | _ => throw .wrongArguments
  | .disguised _ _ =>
    noNames named
    return Combine.firstPresent args

def callQuery (call : NamedCaller) (q : Query) (args : List Value) (named : Keywords) :
    Eval Value := do
  match (← (Function.Signature.fixed ["root"]).accept args named).given with
  | [some root] => q.run (Function.caller call) root
  | _ => throw .wrongArguments

/-- Calls a value, with so many calls inside each other at most. -/
def callWithin : Nat → NamedCaller
  | 0, _, _, _ => throw .tooDeep
  | depth + 1, fn, args, named => do
    match fn with
    | .function f => f.apply (callWithin depth) args named
    | .errorClass c => newError c args named
    | fn =>
      match (← getStore).object? fn with
      | some (.closure c) => callClosure (callWithin depth) c args named
      | some (.query q) => callQuery (callWithin depth) q args named
      | _ => throw .notCallable

def callDepth : Nat := 1000

def call : NamedCaller := callWithin callDepth

end Eval

end TreeQuery
