import TreeQuery.Pattern.CharSet

namespace TreeQuery.Pattern

/-- `ascii`, `locale` and `unicode` choose which characters count as letters, digits and blanks;
if none is set, a pattern over characters takes all scripts and one over bytes takes ASCII. With
`template` no repetition is allowed. -/
structure Flags where
  template : Bool := false
  ignoreCase : Bool := false
  locale : Bool := false
  multiline : Bool := false
  dotAll : Bool := false
  unicode : Bool := false
  verbose : Bool := false
  ascii : Bool := false
  deriving DecidableEq, Repr

namespace Flags

def has (f : Flags) : Char → Bool
  | 't' => f.template
  | 'i' => f.ignoreCase
  | 'L' => f.locale
  | 'm' => f.multiline
  | 's' => f.dotAll
  | 'u' => f.unicode
  | 'x' => f.verbose
  | 'a' => f.ascii
  | _ => false

def letters : List Char := ['t', 'i', 'L', 'm', 's', 'u', 'x', 'a']

def ofLetters (cs : List Char) : Flags :=
  ⟨cs.contains 't', cs.contains 'i', cs.contains 'L', cs.contains 'm', cs.contains 's',
   cs.contains 'u', cs.contains 'x', cs.contains 'a'⟩

def toLetters (f : Flags) : List Char := letters.filter f.has

def join (f g : Flags) : Flags := ofLetters (f.toLetters ++ g.toLetters)

def remove (f g : Flags) : Flags := ofLetters (f.toLetters.filter fun c => !g.has c)

def alphabets : Flags := ofLetters ['a', 'L', 'u']

/-- The flags in a group: an alphabet that is turned on there replaces the one outside. -/
def change (f added dropped : Flags) : Flags :=
  let f := if (added.toLetters.any alphabets.has) then f.remove alphabets else f
  (f.join added).remove dropped

def clash (f : Flags) (isText : Bool) : Bool :=
  if isText then f.ascii && f.unicode else f.ascii && f.locale

def isAscii (f : Flags) (isText : Bool) : Bool := f.ascii || f.locale || !isText

def folding (f : Flags) (isText : Bool) : Folding :=
  if !f.ignoreCase then .exact
  else if f.locale then .either
  else if f.isAscii isText then .ascii
  else .unicode

end Flags

end TreeQuery.Pattern
