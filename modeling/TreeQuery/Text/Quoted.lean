import TreeQuery.Text.Printable

namespace TreeQuery.Text

def singleQuote : Char := '\x27'
def doubleQuote : Char := '\x22'

/-- A text is put between single quotes, unless it holds one and no double quote. -/
def quoteMark (cs : List Char) : Char :=
  if cs.contains singleQuote && !cs.contains doubleQuote then doubleQuote else singleQuote

def hexDigit (n : Nat) : Char := Nat.digitChar (n % 16)

def hexDigits : Nat → Nat → List Char
  | 0, _ => []
  | width + 1, n => hexDigits width (n / 16) ++ [hexDigit n]

def escapeCode (n : Nat) : List Char :=
  if n < 0x100 then '\\' :: 'x' :: hexDigits 2 n
  else if n < 0x10000 then '\\' :: 'u' :: hexDigits 4 n
  else '\\' :: 'U' :: hexDigits 8 n

def escapeShort (quote c : Char) : Option (List Char) :=
  if c = '\\' || c = quote then some ['\\', c]
  else if c = '\n' then some ['\\', 'n']
  else if c = '\r' then some ['\\', 'r']
  else if c = '\t' then some ['\\', 't']
  else none

def escapeChar (quote c : Char) : List Char :=
  (escapeShort quote c).getD (if isPrintable c then [c] else escapeCode c.toNat)

def quoteChars (cs : List Char) : List Char :=
  let mark := quoteMark cs
  mark :: (cs.flatMap (escapeChar mark) ++ [mark])

def quote (s : String) : String := String.ofList (quoteChars s.toList)

def quoteBytes (bytes : List UInt8) : String :=
  let cs := bytes.map fun b => Char.ofNat b.toNat
  let mark := quoteMark cs
  let escape := fun c => (escapeShort mark c).getD
    (if 0x20 ≤ c.toNat && c.toNat < 0x7f then [c] else escapeCode c.toNat)
  String.ofList ('b' :: mark :: (cs.flatMap escape ++ [mark]))

end TreeQuery.Text
