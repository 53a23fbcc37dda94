import TreeQuery.Text.Blank
import TreeQuery.Text.Digit

namespace TreeQuery.Number

def plain (c : Char) : Char :=
  if c.toNat < 0x7f then c
  else if Text.isBlank c then ' '
  else match Text.digitValue? c with
    | some d => Char.ofNat (0x30 + d)
    | none => c

def written (s : String) : List Char := Text.trimBy Text.isAsciiBlank (s.toList.map plain)

def startsWithDigit : List Char → Bool
  | c :: _ => Text.isAsciiDigit c
  | [] => false

/-- Digits and what follows them. An underscore may stand between two digits; `inside` says
whether a digit has just been read. -/
def readDigitsFrom (inside : Bool) : List Char → List Char × List Char
  | [] => ([], [])
  | c :: cs =>
    if Text.isAsciiDigit c then
      let (ds, rest) := readDigitsFrom true cs
      (c :: ds, rest)
    else if c = '_' && inside && startsWithDigit cs then readDigitsFrom false cs
    else ([], c :: cs)

def readDigits (cs : List Char) : List Char × List Char := readDigitsFrom false cs

def digitsValue (ds : List Char) : Nat :=
  ds.foldl (fun n c => 10 * n + (c.toNat - 0x30)) 0

def readSign : List Char → Bool × List Char
  | '-' :: cs => (true, cs)
  | '+' :: cs => (false, cs)
  | cs => (false, cs)

def digitLimit : Nat := 4300

def readInteger? (s : String) : Option Int :=
  let (negative, cs) := readSign (written s)
  match readDigits cs with
  | (d :: ds, []) =>
    if digitLimit ≤ ds.length then none
    else
      let n := digitsValue (d :: ds)
      some (if negative then -(n : Int) else n)
  | _ => none

end TreeQuery.Number
