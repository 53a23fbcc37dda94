import TreeQuery.Number.Digits
import TreeQuery.Pattern.Reader.Basic
import TreeQuery.Text.Identifier

namespace TreeQuery.Pattern.Reader

def checkGroup (i : Nat) : Reader Unit := do
  let r ← get
  if (r.widths.lookup i).isNone then refuse "cannot refer to an open group"

def checkBehind (i : Nat) : Reader Unit := do
  match (← get).behindFrom with
  | none => return
  | some first =>
    checkGroup i
    if first ≤ i then refuse "cannot refer to group defined in the same lookbehind subpattern"

def backReference (flags : Flags) (i : Nat) : Reader Program := do
  checkGroup i
  checkBehind i
  return .again (i - 1) (← folding flags)

def numberedReference (flags : Flags) (i : Nat) : Reader Program := do
  if i < (← get).nextGroup then backReference flags i else refuse "invalid group reference"

def groupName (close : Char) : Reader String := do
  let cs ← takeUntil close
  if Text.isIdentifier cs then return String.ofList cs
  else refuse "bad character in group name"

def namedGroup (name : String) : Reader Nat := do
  match (← get).names.lookup name with
  | some i => return i
  | none => refuse "unknown group name"

def namedReference (flags : Flags) : Reader Program := do
  backReference flags (← namedGroup (← groupName ')'))

def condition : Reader Nat := do
  let cs ← takeUntil ')'
  let i ← if Text.isIdentifier cs then namedGroup (String.ofList cs)
    else match Number.readInteger? (String.ofList cs) with
      | some (.ofNat (i + 1)) => do
        modify fun r => { r with conditions := (i + 1) :: r.conditions }
        pure (i + 1)
      | _ => refuse "bad character in group name"
  checkBehind i
  return i

def openGroup (name : Option String) : Reader Nat := do
  let r ← get
  match name with
  | some name =>
    if (r.names.lookup name).isSome then refuse "redefinition of group name"
    set { r with nextGroup := r.nextGroup + 1, names := (name, r.nextGroup) :: r.names }
  | none => set { r with nextGroup := r.nextGroup + 1 }
  return r.nextGroup

def widthOf (p : Program) : Reader Width := do
  let widths := (← get).widths
  return p.width fun i => (widths.lookup (i + 1)).getD (.of 0 0)

def closeGroup (i : Nat) (p : Program) : Reader Unit := do
  let w ← widthOf p
  modify fun r => { r with widths := (i, w) :: r.widths }

def behindLimit : Nat := Nat.pow 2 31

/-- A look-behind needs a body of one length; if it has none, that is told late. -/
def lookBehind (negated : Bool) (p : Program) : Reader Program := do
  match (← widthOf p).length? with
  | some n =>
    if behindLimit ≤ n then refuseLate .tooFarBack
    return .look (some n) negated p
  | none =>
    refuseLate (.malformed "look-behind requires fixed-width pattern" 0)
    return .look (some 0) negated p

end TreeQuery.Pattern.Reader
