import TreeQuery.Pattern.Reader.CharSet
import TreeQuery.Pattern.Reader.Flags
import TreeQuery.Pattern.Reader.Repetition
import TreeQuery.Pattern.Reader.Ways

/-! Reading the written form of a pattern. -/

namespace TreeQuery.Pattern

namespace Reader

def closing : Reader Unit := do
  if !(← accept ')') then refuse "missing ), unterminated subpattern"

mutual

def ways (fuel : Nat) (flags : Flags) (top first : Bool) : Reader (List (List Program)) :=
  match fuel with
  | 0 => refuse "pattern too long"
  | fuel + 1 => do
    let way ← items fuel flags (top && first) []
    if ← accept '|' then do
      let whole := (← get).whole
      let flags := if top then flags.join whole else flags
      return way :: (← ways fuel flags top false)
    else return [way]

def body (fuel : Nat) (flags : Flags) (top : Bool) : Reader (List Program) :=
  match fuel with
  | 0 => refuse "pattern too long"
  | fuel + 1 => do
    match ← ways fuel flags top true with
    | [way] => return way
    | several => return joinWays (several.map List.length).sum several

/-- Items up to a bar, a closing parenthesis or the end; `done` holds those read, latest first. -/
def items (fuel : Nat) (flags : Flags) (first : Bool) (done : List Piece) :
    Reader (List Program) :=
  match fuel with
  | 0 => refuse "pattern too long"
  | fuel + 1 => do
    match ← peek? with
    | none | some '|' | some ')' => return done.reverse.flatMap Piece.programs
    | some c =>
      skip
      let add := fun p => items fuel flags first (.item p :: done)
      if flags.verbose && (c == ' ' || ('\t' ≤ c && c ≤ '\r')) then items fuel flags first done
      else if flags.verbose && c == '#' then
        let r ← get
        discard (skipPast '\n' (r.rest.length + 1))
        items fuel flags first done
      else if c == '(' then group fuel flags first done
      else if c == '\\' then add (← escape flags)
      else if c == '[' then add (← charSet flags)
      else if c == '.' then add (.any flags.dotAll)
      else if c == '^' then add (.anchor (if flags.multiline then .lineStart else .textStart))
      else if c == '$' then add (.anchor (if flags.multiline then .lineEnd else .finalEnd))
      else if c == '?' || c == '*' || c == '+' || c == '\x7b' then
        match ← quantifier? c with
        | some (least, most) => items fuel flags first (← repeatLatest flags least most done)
        | none => add (← literal flags c.toNat)
      else add (← literal flags c.toNat)

def group (fuel : Nat) (flags : Flags) (first : Bool) (done : List Piece) :
    Reader (List Program) :=
  match fuel with
  | 0 => refuse "pattern too long"
  | fuel + 1 => do
    let add := fun p => items fuel flags first (.item p :: done)
    let inner := fun (flags : Flags) => do
      let ps ← body fuel flags false
      closing
      return ps
    if !(← accept '?') then capture fuel flags first done none
    else
      let c ← next "unexpected end of pattern"
      if c == 'P' then
        if ← accept '<' then capture fuel flags first done (some (← groupName '>'))
        else if ← accept '=' then add (← namedReference flags)
        else refuse "unknown extension"
      else if c == ':' then
        let ps ← inner flags
        items fuel flags first (.plain ps :: done)
      else if c == '>' then add (.atomic (.ofList (← inner flags)))
      else if c == '#' then
        let r ← get
        if ← skipPast ')' (r.rest.length + 1) then items fuel flags first done
        else refuse "missing ), unterminated comment"
      else if c == '=' || c == '!' then add (.look none (c == '!') (.ofList (← inner flags)))
      else if c == '<' then
        let mark ← next "unexpected end of pattern"
        if mark != '=' && mark != '!' then refuse "unknown extension"
        let outer := (← get).behindFrom
        modify fun r => { r with behindFrom := outer.or (some r.nextGroup) }
        let ps ← body fuel flags false
        modify fun r => { r with behindFrom := outer }
        closing
        add (← lookBehind (mark == '!') (.ofList ps))
      else if c == '(' then
        let i ← condition
        let yes ← items fuel flags false []
        let no ← if ← accept '|' then items fuel flags false [] else pure []
        if (← peek?) == some '|' then refuse "conditional backref with more than two branches"
        closing
        add (.given (i - 1) (.ofList yes) (.ofList no))
      else if c == '-' || isFlag c then
        match ← flagChange c with
        | .whole added =>
          if !first || !done.isEmpty then
            refuse "global flags not at the start of the expression"
          modify fun r => { r with whole := r.whole.join added }
          items fuel (flags.join added) first done
        | .group added dropped =>
          add (.scope (.ofList (← inner (flags.change added dropped))))
      else refuse "unknown extension"

def capture (fuel : Nat) (flags : Flags) (first : Bool) (done : List Piece)
    (name : Option String) : Reader (List Program) :=
  match fuel with
  | 0 => refuse "pattern too long"
  | fuel + 1 => do
    let i ← openGroup name
    let p := Program.ofList (← body fuel flags false)
    closing
    closeGroup i p
    items fuel flags first (.item (.group (i - 1) p) :: done)

end

def isMalformed : Refusal → Bool
  | .malformed _ _ => true
  | _ => false

/-- Of faults found late, a malformed part is told before anything else. -/
def wholePattern (fuel : Nat) (flags : Flags) : Reader Program := do
  let ps ← body fuel flags true
  let r ← get
  if r.whole.clash r.isText then throw .clashingFlags
  else if !r.rest.isEmpty then refuse "unbalanced parenthesis"
  else if r.conditions.any (r.nextGroup ≤ ·) then refuse "invalid group reference"
  else match (r.late.find? isMalformed).or r.late.head? with
    | some fault => throw fault
    | none => return .ofList ps

end Reader

def read (isText : Bool) (flags : Flags) (cs : List Char) : Except Refusal (Program × Flags) := do
  let start : Reading := ⟨cs, 0, isText, flags, 1, [], [], none, [], []⟩
  let (p, r) ← (Reader.wholePattern (5 * cs.length + 8) flags).run start
  return (p, r.whole)

end TreeQuery.Pattern
