import TreeQuery.Pattern.Reader.Basic

namespace TreeQuery.Pattern.Reader

inductive FlagChange
  | whole (flags : Flags)
  | group (added dropped : Flags)

def isFlag (c : Char) : Bool := Flags.letters.contains c

def addedFlags : Nat → Flags → Char → Reader (Flags × Char)
  | 0, _, _ => refuse "missing -, : or )"
  | fuel + 1, flags, c => do
    if !isFlag c then refuse "unknown flag"
    if c == (if (← get).isText then 'L' else 'u') then refuse "bad inline flags"
    let flags := flags.join (Flags.ofLetters [c])
    if (flags.toLetters.filter Flags.alphabets.has).length > 1 then
      refuse "bad inline flags: incompatible"
    let c ← next "missing -, : or )"
    if c == ')' || c == '-' || c == ':' then return (flags, c)
    else addedFlags fuel flags c

def droppedFlags : Nat → Flags → Char → Reader Flags
  | 0, _, _ => refuse "missing :"
  | fuel + 1, flags, c => do
    if !isFlag c then refuse "unknown flag"
    if Flags.alphabets.has c then refuse "bad inline flags: cannot turn off flags"
    let flags := flags.join (Flags.ofLetters [c])
    let c ← next "missing :"
    if c == ':' then return flags else droppedFlags fuel flags c

def flagChange (c : Char) : Reader FlagChange := do
  let fuel := (← get).rest.length + 1
  let (added, mark) ← if c == '-' then pure (({} : Flags), '-') else addedFlags fuel {} c
  if mark == ')' then return .whole added
  if added.template then refuse "bad inline flags: cannot turn on global flag"
  if mark == ':' then return .group added {}
  let dropped ← droppedFlags fuel {} (← next "missing flag")
  if dropped.template then refuse "bad inline flags: cannot turn off global flag"
  if added.toLetters.any dropped.has then refuse "bad inline flags: flag turned on and off"
  return .group added dropped

end TreeQuery.Pattern.Reader
