import TreeQuery.Text.Blank
import TreeQuery.Text.Casing
import TreeQuery.Text.Digit
import TreeQuery.Text.Word

/-! Sets of characters, and what they hold when letter case is ignored. -/

namespace TreeQuery.Pattern

/-- Which characters count as one letter: only equal ones, or also those that differ in case,
among the letters of ASCII or of all scripts. With `either`, a character is in a set if one of
its two cases is, so a set and its complement can share letters. -/
inductive Folding
  | exact | ascii | unicode | either
  deriving DecidableEq, Repr

inductive CharKind
  | digit | space | word
  deriving DecidableEq, Repr

inductive CharItem
  | code (n : Nat)
  | range (low high : Nat)
  | kind (others : Bool) (kind : CharKind) (ascii : Bool)
  deriving DecidableEq, Repr

structure CharSet where
  negated : Bool
  items : List CharItem
  folding : Folding
  deriving DecidableEq, Repr

def CharKind.has (ascii : Bool) (c : Char) : CharKind → Bool
  | .digit => if ascii then Text.isAsciiDigit c else Text.isDigit c
  | .space => if ascii then Text.isAsciiBlank c else Text.isBlank c
  | .word => if ascii then Text.isAsciiWord c else Text.isWord c

namespace Folding

def lower : Folding → Char → Char
  | exact, c => c
  | ascii, c | either, c => Text.lowerAscii c
  | unicode, c => Text.lower c

def same (folding : Folding) (c d : Char) : Bool := folding.lower c == folding.lower d

def sameLetter (folding : Folding) (n : Nat) (c : Char) : Bool :=
  match folding with
  | unicode => (Text.lowerTwins (Text.lowerCode n)).contains (Text.lowerCode c.toNat)
  | f => (f.lower c).toNat == if n < 0x80 then (f.lower (Char.ofNat n)).toNat else n

def variants (folding : Folding) (c : Char) : List Nat :=
  match folding with
  | exact | either => [c.toNat]
  | ascii => [c.toNat, (Text.upperAscii c).toNat]
  | unicode => Text.caseVariants c.toNat

def foldedUpTo : Nat := 0xffff

def isCased (folding : Folding) : CharItem → Bool
  | .code n => within n n
  | .range low high => foldedUpTo < high || within low high
  | .kind _ _ _ => false
where
  within (low high : Nat) : Bool :=
    match folding with
    | exact | either => false
    | ascii => low ≤ 0x7a && 0x41 ≤ high && !(0x5b ≤ low && high ≤ 0x60)
    | unicode => Text.holdsCased low high

def concerns (folding : Folding) : CharItem → Bool
  | .code n => foldedUpTo < n || folding.isCased (.code n)
  | item => folding.isCased item

end Folding

def inRange (low high n : Nat) : Bool := low ≤ n && n ≤ high

namespace CharItem

def has (c : Char) : CharItem → Bool
  | code n => c.toNat == n
  | range low high => inRange low high c.toNat
  | kind others k ascii => k.has ascii c != others

def inAlphabet (ascii : Bool) : CharItem → CharItem
  | kind others k _ => kind others k ascii
  | item => item

/-- Whether an item of a set holds a lower-case letter. Beyond `foldedUpTo` a single code point
stands for itself alone, and a range for the characters that have their upper case in it. -/
def hasLowered (folding : Folding) (c : Char) : CharItem → Bool
  | code n => if Folding.foldedUpTo < n then c.toNat == n else folding.sameLetter n c
  | range low high =>
    (folding.variants c).any (inRange low (min high Folding.foldedUpTo)) ||
      Folding.foldedUpTo < high &&
        (inRange low high c.toNat || inRange low high (Text.upperCode c.toNat))
  | kind others k ascii => k.has ascii c != others

end CharItem

namespace CharSet

def hasExactly (set : CharSet) (c : Char) : Bool := set.items.any (·.has c) != set.negated

/-- A set of one code point asks for the same letter; any other is asked for the lower case if
it holds a letter with cases, and for the character itself if not. -/
def has (set : CharSet) (c : Char) : Bool :=
  match set.items, set.folding with
  | [.code n], folding => folding.sameLetter n c != set.negated
  | _, .exact => set.hasExactly c
  | _, .either => set.hasExactly (Text.lowerAscii c) || set.hasExactly (Text.upperAscii c)
  | items, folding =>
    if items.any folding.concerns then
      items.any (·.hasLowered folding (folding.lower c)) != set.negated
    else set.hasExactly c

def isCaseless (set : CharSet) : Bool :=
  match set.folding with
  | .exact => true
  | .either => false
  | folding => !set.items.any folding.isCased

end CharSet

end TreeQuery.Pattern
