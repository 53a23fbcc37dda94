import TreeQuery.Text.Digit

namespace TreeQuery

inductive Request
  | paths (paths : List String)
  | help
  | misuse
  deriving DecidableEq, Repr

inductive ArgumentKind
  | path
  | help
  | overfull
  | unknown
  deriving DecidableEq, Repr

namespace ArgumentKind

def isNumeral (cs : List Char) : Bool :=
  let cs := if cs.getLast? = some '\n' then cs.dropLast else cs
  let whole := cs.takeWhile Text.isDigit
  match cs.dropWhile Text.isDigit with
  | [] => !whole.isEmpty
  | '.' :: fraction => !fraction.isEmpty && fraction.all Text.isDigit
  | _ => false

def ofLetters : List Char → ArgumentKind
  | ['h'] => help
  | 'h' :: rest => ofLetters rest
  | _ => overfull

def ofLong (cs : List Char) : ArgumentKind :=
  let name := cs.takeWhile (· ≠ '=')
  if name.isPrefixOf "--help".toList then if cs.contains '=' then overfull else help
  else if cs.contains ' ' then path
  else unknown

def ofShort (cs : List Char) : ArgumentKind :=
  match cs with
  | ['-', 'h', '='] => overfull
  | '-' :: 'h' :: '=' :: rest => ofLetters rest
  | '-' :: 'h' :: rest => if rest.isEmpty then help else ofLetters rest
  | '-' :: rest => if isNumeral rest || cs.contains ' ' then path else unknown
  | _ => path

def ofChars (cs : List Char) : ArgumentKind :=
  match cs with
  | '-' :: '-' :: _ => ofLong cs
  | ['-'] => path
  | '-' :: _ => ofShort cs
  | _ => path

def ofString (s : String) : ArgumentKind := ofChars s.toList

end ArgumentKind

namespace Request

def usualPaths : List String := ["test"]

def endOfOptions : String := "--"

/-- Reads the arguments in order. Help is given as soon as it is asked for; an unknown option is
refused at the end. -/
def read (found : List String) (refused : Bool) : List String → Request
  | [] => if refused then misuse else paths found
  | arg :: args =>
    if arg = endOfOptions then if refused then misuse else paths (found ++ args)
    else match ArgumentKind.ofString arg with
      | .path => read (found ++ [arg]) refused args
      | .help => help
      | .overfull => misuse
      | .unknown => read found true args

def ofArguments (args : List String) : Request :=
  match read [] false args with
  | paths [] => paths usualPaths
  | request => request

end Request

end TreeQuery
