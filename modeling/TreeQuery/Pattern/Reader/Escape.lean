import TreeQuery.Pattern.Reader.Group
import TreeQuery.Text.CharName

namespace TreeQuery.Pattern.Reader

def isOctal (c : Char) : Bool := '0' ≤ c && c ≤ '7'

def isHex (c : Char) : Bool :=
  Text.isAsciiDigit c || ('a' ≤ c && c ≤ 'f') || ('A' ≤ c && c ≤ 'F')

def isAsciiLetter (c : Char) : Bool := ('a' ≤ c && c ≤ 'z') || ('A' ≤ c && c ≤ 'Z')

def hexValue (c : Char) : Nat :=
  if Text.isAsciiDigit c then c.toNat - 0x30
  else (Text.lowerAscii c).toNat - 0x61 + 10

def valueIn (base : Nat) (cs : List Char) : Nat :=
  cs.foldl (fun n c => base * n + hexValue c) 0

def hexCode (width : Nat) : Reader Nat := do
  let cs ← takeWhile width isHex
  if cs.length == width then return valueIn 16 cs
  else refuse "incomplete escape"

def namedCode : Reader Nat := do
  if !(← accept '\x7b') then refuse "missing opening brace"
  match Text.charNamed? (← takeUntil '\x7d') with
  | some n => return n
  | none => refuse "undefined character name"

def controlCode? : Char → Option Nat
  | 'a' => some 7
  | 'f' => some 12
  | 'n' => some 10
  | 'r' => some 13
  | 't' => some 9
  | 'v' => some 11
  | '\\' => some 0x5c
  | _ => none

def kind? : Char → Option (Bool × CharKind)
  | 'd' => some (false, .digit)
  | 'D' => some (true, .digit)
  | 's' => some (false, .space)
  | 'S' => some (true, .space)
  | 'w' => some (false, .word)
  | 'W' => some (true, .word)
  | _ => none

def octal (cs : List Char) : Reader Nat := do
  let n := valueIn 8 cs
  if n > 0xff then refuse "octal escape value outside of range" else return n

def plainEscape (c : Char) : Reader Nat := do
  let isText := (← get).isText
  if c == 'x' then hexCode 2
  else if c == 'u' && isText then hexCode 4
  else if c == 'U' && isText then
    let n ← hexCode 8
    checkNext
    if n > 0x7fffffff then throw .codeTooLarge
    else if n > 0x10ffff then refuse "bad escape"
    else return n
  else if c == 'N' && isText then namedCode
  else if isAsciiLetter c then refuse "bad escape"
  else return c.toNat

/-- A number after a backslash is an octal code or refers back to a group. -/
def numericEscape (flags : Flags) (c : Char) : Reader Program := do
  if c == '0' then
    let cs ← takeWhile 2 isOctal
    literal flags (valueIn 8 cs)
  else
    match ← takeWhile 1 Text.isAsciiDigit with
    | [d] =>
      let third := (← peek?).filter isOctal
      match third with
      | some e =>
        if isOctal c && isOctal d then
          skip
          literal flags (← octal [c, d, e])
        else numberedReference flags (valueIn 10 [c, d])
      | none => numberedReference flags (valueIn 10 [c, d])
    | _ => numberedReference flags (valueIn 10 [c])

def escape (flags : Flags) : Reader Program := do
  let c ← next "bad escape (end of pattern)"
  let ascii ← isAscii flags
  match kind? c, controlCode? c with
  | some (others, kind), _ => setOf flags false [.kind others kind ascii]
  | none, some code => literal flags code
  | none, none =>
    if c == 'A' then return .anchor .textStart
    else if c == 'Z' then return .anchor .textEnd
    else if c == 'b' then return .anchor (.boundary ascii)
    else if c == 'B' then return .anchor (.inside ascii)
    else if Text.isAsciiDigit c then numericEscape flags c
    else literal flags (← plainEscape c)

def setEscape (flags : Flags) : Reader CharItem := do
  let c ← next "bad escape (end of pattern)"
  match kind? c, controlCode? c with
  | some (others, kind), _ => return .kind others kind (← isAscii flags)
  | none, some code => return .code code
  | none, none =>
    let code ← if c == 'b' then pure 8
      else if isOctal c then do octal (c :: (← takeWhile 2 isOctal))
      else if Text.isAsciiDigit c then refuse "bad escape"
      else plainEscape c
    return .code code

end TreeQuery.Pattern.Reader
