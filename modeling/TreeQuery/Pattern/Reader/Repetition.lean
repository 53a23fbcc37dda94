import TreeQuery.Number.Digits
import TreeQuery.Pattern.Reader.Basic

namespace TreeQuery.Pattern.Reader

def countLimit : Nat := 4294967295

def readCount (digits : List Char) : Reader (Option Nat) := do
  if digits.isEmpty then return none
  if Number.digitLimit < digits.length then throw .countTooLong
  let n := Number.digitsValue digits
  if countLimit ≤ n then throw .countTooLarge else return some n

def braces? : Reader (Option (Nat × Option Nat)) := do
  let start ← get
  let plain : Reader (Option (Nat × Option Nat)) := do set start; return none
  if start.rest.head? == some '\x7d' then plain
  else
    let low ← takeWhile start.rest.length Text.isAsciiDigit
    let high ← if ← accept ',' then takeWhile start.rest.length Text.isAsciiDigit else pure low
    if !(← accept '\x7d') then plain
    else
      checkNext
      let least ← readCount low
      let most ← readCount high
      if (most.map fun n => decide (n < least.getD 0)).getD false then
        refuse "min repeat greater than max repeat"
      else return some (least.getD 0, most)

def quantifier? (c : Char) : Reader (Option (Nat × Option Nat)) := do
  if c == '?' then return some (0, some 1)
  else if c == '*' then return some (0, none)
  else if c == '+' then return some (1, none)
  else braces?

def appetite : Reader Appetite := do
  if ← accept '?' then return .lazy
  else if ← accept '+' then return .possessive
  else return .greedy

/-- What an alternative is read into. A plain group is one item for a repetition, but its
programs take their places among the others in the end. -/
inductive Piece
  | item (program : Program)
  | plain (programs : List Program)

def Piece.programs : Piece → List Program
  | item p => [p]
  | plain ps => ps

def repeatLatest (flags : Flags) (least : Nat) (most : Option Nat) :
    List Piece → Reader (List Piece)
  | [] => refuse "nothing to repeat"
  | .item (.anchor _) :: _ => refuse "nothing to repeat"
  | .item (.repeated ..) :: _ => refuse "multiple repeat"
  | piece :: pieces => do
    if flags.template then refuseLate (.malformed "unsupported repetition" 0)
    let body := Program.ofList piece.programs
    return .item (.repeated least most (← appetite) body) :: pieces

end TreeQuery.Pattern.Reader
