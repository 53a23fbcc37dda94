import TreeQuery.ErrorClass
import TreeQuery.Function
import TreeQuery.Number.Shortest
import TreeQuery.Pattern.Basic

/-! Values, and the objects that values can refer to. -/

namespace TreeQuery

abbrev Addr := Nat

/-- A plain value, or a reference to an object. Two references are the same object exactly if
their addresses are equal. -/
inductive Value
  | null
  | bool (b : Bool)
  | int (n : Int)
  | float (x : Double)
  | text (s : String)
  | bytes (b : List UInt8)
  | function (f : Function)
  | errorClass (c : ErrorClass)
  | ref (a : Addr)
  deriving DecidableEq, Repr, Inhabited

abbrev Keywords := List (String × Value)

abbrev Entries := List (Value × Value)

/-- A tree node as it is stored: its attributes and its children are objects of their own, which
others may hold and change. The attributes are a dictionary, or an element that has them. -/
structure Node where
  tag : String
  attrs : Addr
  children : Addr
  deriving DecidableEq, Repr

/-- One step of a query. A scalar step asks for the child whose attribute, or tag, has a value;
a branch step holds a form, which is looked into only when the step is carried out or written. -/
inductive Step
  | scalar (attr value : Value)
  | branch (attr form : Value)
  deriving DecidableEq, Repr

namespace Step

def attr : Step → Value
  | scalar a _ | branch a _ => a

def toList : Step → List Value
  | scalar a v | branch a v => [a, v]

end Step

inductive ElementTag
  | named (tag : Value)
  | comment
  | instruction
  deriving DecidableEq, Repr

/-- An element of a markup document: text before the first child, and a tail behind the
element, are kept apart from the children. -/
structure Element where
  tag : ElementTag
  attrs : Addr
  text : Value
  tail : Value
  children : List Addr
  deriving DecidableEq, Repr

inductive Closure
  | constant (value : Value)
  | argument (place : Int)
  | pick (number : Int)
  | spy (target : Value)
  | raising (error : Value)
  | selector (attr : Value)
  | disguised (shown : String) (name : Option String)
  deriving DecidableEq, Repr

/-- A query that is ready to run. `tuple` is the object by which its steps are handed out, and
`trace` the value that it was made with; whether it is traced was settled then. -/
structure Query where
  steps : List Step
  tuple : Addr
  trace : Value
  traced : Bool
  deriving DecidableEq, Repr

inductive Object
  | tuple (items : List Value)
  | list (items : List Value)
  | dict (entries : Entries)
  | node (node : Node)
  | step (step : Step)
  | query (query : Query)
  | iterator (rest : List Value)
  | element (element : Element)
  | chooser (number : Int)
  | error (kind : ErrorClass) (args : List Value)
  | pattern (pattern : Pattern)
  | closure (closure : Closure)
  deriving DecidableEq, Repr

namespace Value

def numberText? : Value → Option String
  | bool b => some (if b then "True" else "False")
  | int n => some (toString n)
  | float x => some x.toText
  | _ => none

def isText : Value → Bool
  | text _ => true
  | _ => false

def plainEqual : Value → Value → Bool
  | float x, float y => x.same y
  | float x, int n | int n, float x => x.sameInt n
  | float x, bool b | bool b, float x => x.sameInt (if b then 1 else 0)
  | int n, bool b | bool b, int n => n == if b then 1 else 0
  | a, b => a == b

end Value

end TreeQuery
