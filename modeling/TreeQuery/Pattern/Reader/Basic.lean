import TreeQuery.Pattern.Flags
import TreeQuery.Pattern.Program

namespace TreeQuery.Pattern

/-- Why a written pattern is refused: it is malformed at a place, a count in it is too large or
has too many digits, a code point is far out of range, its flags cannot hold together, or a
look-behind looks too far back. -/
inductive Refusal
  | malformed (reason : String) (place : Nat)
  | countTooLarge
  | countTooLong
  | codeTooLarge
  | clashingFlags
  | tooFarBack
  deriving DecidableEq, Repr

/-- What is left of a written pattern, and what is known of its groups. `whole` holds the flags
of the whole pattern, `open` groups have no width yet, and `late` are faults that count only if
no other is found. -/
structure Reading where
  rest : List Char
  place : Nat
  isText : Bool
  whole : Flags
  nextGroup : Nat
  names : List (String × Nat)
  widths : List (Nat × Width)
  behindFrom : Option Nat
  late : List Refusal
  conditions : List Nat

abbrev Reader := StateT Reading (Except Refusal)

namespace Reader

def refuse {α : Type} (reason : String) : Reader α := do
  throw (.malformed reason (← get).place)

def refuseLate (fault : Refusal) : Reader Unit :=
  modify fun r => { r with late := r.late ++ [fault] }

def peek? : Reader (Option Char) := do return (← get).rest.head?

def skip : Reader Unit :=
  modify fun r => { r with rest := r.rest.drop 1, place := r.place + 1 }

def next (reason : String) : Reader Char := do
  match ← peek? with
  | some c => skip; return c
  | none => refuse reason

def accept (c : Char) : Reader Bool := do
  if (← peek?) == some c then skip; return true
  else return false

def takeWhile (n : Nat) (p : Char → Bool) : Reader (List Char) := do
  let cs := ((← get).rest.take n).takeWhile p
  modify fun r => { r with rest := r.rest.drop cs.length, place := r.place + cs.length }
  return cs

def takeUntil (close : Char) : Reader (List Char) := do
  let r ← get
  let cs := r.rest.takeWhile (· != close)
  if cs.length == r.rest.length then refuse "missing closing mark, unterminated name"
  else if cs.isEmpty then refuse "missing name"
  else
    set { r with rest := r.rest.drop (cs.length + 1), place := r.place + cs.length + 1 }
    return cs

def skipPast (close : Char) : Nat → Reader Bool
  | 0 => return false
  | fuel + 1 => do
    match ← peek? with
    | none => return false
    | some c =>
      skip
      if c == close then return true
      if c == '\\' then
        discard (next "bad escape (end of pattern)")
      skipPast close fuel

def checkNext : Reader Unit := do
  if (← get).rest == ['\\'] then refuse "bad escape (end of pattern)"

def folding (flags : Flags) : Reader Folding := do return flags.folding (← get).isText

def isAscii (flags : Flags) : Reader Bool := do return flags.isAscii (← get).isText

def setOf (flags : Flags) (negated : Bool) (items : List CharItem) : Reader Program := do
  return .chars ⟨negated, items.eraseDups, ← folding flags⟩

def literal (flags : Flags) (code : Nat) : Reader Program := setOf flags false [.code code]

end Reader

end TreeQuery.Pattern
