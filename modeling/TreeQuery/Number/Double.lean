/-! Binary floating-point numbers of 53 bits, kept exactly. -/

namespace TreeQuery

/-- `finite` is `m * 2^e` with a sign. Every value has one form: `m < 2^53`, `-1074 ≤ e ≤ 971`,
and `m < 2^52` only at the least `e`. A value that is not a number keeps the mark of its making,
by which it can be told from the others. -/
inductive Double
  | finite (negative : Bool) (m : Nat) (e : Int)
  | infinite (negative : Bool)
  | nan (mark : Nat)
  deriving DecidableEq, Repr

namespace Double

def leastExponent : Int := -1074
def greatestExponent : Int := 971

def zero (negative : Bool) : Double := finite negative 0 leastExponent

def roundQuotient (num den : Nat) : Nat :=
  let q := num / den
  let r := num % den
  if 2 * r > den || (2 * r == den && q % 2 == 1) then q + 1 else q

def twoTo (e : Int) : Nat := Nat.pow 2 e.toNat

def tenTo (e : Int) : Nat := Nat.pow 10 e.toNat

def unscale (num den : Nat) (e : Int) : Nat × Nat :=
  if 0 ≤ e then (num, den * twoTo e) else (num * twoTo (-e), den)

def exponentOf (num den : Nat) : Int :=
  let guess : Int := (num.log2 : Int) - den.log2 - 52
  let (n, d) := unscale num den guess
  max leastExponent (if n / d < twoTo 52 then guess - 1 else guess)

/-- The nearest value to the quotient of two whole numbers, of two the one with even `m`. -/
def ofQuotient (negative : Bool) (num den : Nat) : Double :=
  if num = 0 then zero negative
  else
    let e := exponentOf num den
    let (n, d) := unscale num den e
    let m := roundQuotient n d
    let (m, e) := if m = twoTo 53 then (twoTo 52, e + 1) else (m, e)
    if greatestExponent < e then infinite negative else finite negative m e

def toInt? : Double → Option Int
  | finite negative m e =>
    let signed := fun n : Nat => if negative then -(n : Int) else (n : Int)
    if 0 ≤ e then some (signed (m * twoTo e))
    else if m % twoTo (-e) = 0 then some (signed (m / twoTo (-e)))
    else none
  | _ => none

def isMarked : Double → Bool
  | nan _ => true
  | _ => false

def isZero : Double → Bool
  | finite _ m _ => m == 0
  | _ => false

/-- Equality of the numbers: both zeros are one number, and a value that is not a number equals
nothing. -/
def same : Double → Double → Bool
  | finite s m e, finite s' m' e' => (m == 0 && m' == 0) || (s == s' && m == m' && e == e')
  | infinite s, infinite s' => s == s'
  | _, _ => false

def sameInt (x : Double) (n : Int) : Bool := x.toInt? == some n

def exceeds : Double → Int → Bool
  | finite negative m e, n =>
    let signed : Int := if negative then -(m : Int) else m
    if 0 ≤ e then signed * twoTo e > n else signed > n * twoTo (-e)
  | infinite negative, _ => !negative
  | nan _, _ => false

def isBelow (x : Double) (n : Int) : Bool := !x.exceeds n && !x.sameInt n && !x.isMarked

end Double

end TreeQuery
