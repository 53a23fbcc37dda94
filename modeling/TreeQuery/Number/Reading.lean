import TreeQuery.Number.Double
import TreeQuery.Number.Digits
import TreeQuery.Text.Casing

namespace TreeQuery.Double

open Number

def readExponent : List Char → Option Int
  | [] => some 0
  | c :: cs =>
    if c = 'e' || c = 'E' then
      let (negative, cs) := readSign cs
      match readDigits cs with
      | (d :: ds, []) =>
        let n := digitsValue (d :: ds)
        some (if negative then -(n : Int) else n)
      | _ => none
    else none

/-- The value of `digits * 10^power`. Powers that are out of reach are settled by counting
digits, so that no huge number is built. -/
def ofDecimal (negative : Bool) (digits : List Char) (power : Int) : Double :=
  let n := digitsValue digits
  let size : Int := ((toString n).length : Int) + power
  if n = 0 then zero negative
  else if size > 400 then infinite negative
  else if size < -400 then zero negative
  else if 0 ≤ power then ofQuotient negative (n * tenTo power) 1
  else ofQuotient negative n (tenTo (-power))

def readUnsigned (negative : Bool) (cs : List Char) : Option Double :=
  let (whole, rest) := readDigits cs
  let (fraction, rest) := match rest with
    | '.' :: rest => readDigits rest
    | _ => ([], rest)
  if whole.isEmpty && fraction.isEmpty then none
  else do
    let power ← readExponent rest
    return ofDecimal negative (whole ++ fraction) (power - fraction.length)

/-- Blanks around the number are allowed, and the names of infinity and of no number in any
case. `mark` is given to a value that is not a number. -/
def read? (mark : Nat) (s : String) : Option Double :=
  let (negative, cs) := readSign (written s)
  let word := String.ofList (cs.map Text.lowerAscii)
  if word = "inf" || word = "infinity" then some (infinite negative)
  else if word = "nan" then some (nan mark)
  else readUnsigned negative cs

end TreeQuery.Double
