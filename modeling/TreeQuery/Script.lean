import TreeQuery.Function.Signature

namespace TreeQuery

/-- Functions that are none of the library's: what a script does with values by itself, and small
functions that it hands to queries and checks. -/
inductive ScriptFunction
  | itself | setItem | append | identical | spied
  | tupleOf | count | last | pair | boom | drop | nothing | echo | fail
  deriving DecidableEq, Repr

namespace ScriptFunction

def name : ScriptFunction → String
  | itself => "let"
  | setItem => "set"
  | append => "append"
  | identical => "is"
  | spied => "spied"
  | tupleOf => "tuple_of"
  | count => "count"
  | last => "last"
  | pair => "two"
  | boom => "boom"
  | drop => "drop"
  | nothing => "nothing"
  | echo => "echo"
  | fail => "fail"

def all : List ScriptFunction :=
  [itself, setItem, append, identical, spied, tupleOf, count, last, pair, boom, drop, nothing,
   echo, fail]

open Function.Signature in
def signature : ScriptFunction → Function.Signature
  | itself => fixed ["v"]
  | setItem => fixed ["c", "k", "v"]
  | append => fixed ["list", "v"]
  | identical | pair => fixed ["a", "b"]
  | spied => fixed []
  | tupleOf | count | last | boom | drop => collecting []
  | nothing => ⟨[], true, [], true⟩
  | echo => fixed ["x"]
  | fail => ⟨needed ["exc"], true, [], true⟩

end ScriptFunction

end TreeQuery
