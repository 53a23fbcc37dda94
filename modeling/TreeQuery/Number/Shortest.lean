import TreeQuery.Number.Double

/-! Writing floating-point numbers with the fewest digits that read back. -/

namespace TreeQuery.Double

structure Fraction where
  num : Nat
  den : Nat

namespace Fraction

def le (a b : Fraction) : Bool := a.num * b.den ≤ b.num * a.den
def lt (a b : Fraction) : Bool := a.num * b.den < b.num * a.den

def ofDecimal (d : Nat) (k : Int) : Fraction :=
  if 0 ≤ k then ⟨d * tenTo k, 1⟩ else ⟨d, tenTo (-k)⟩

def quarters (n : Nat) (e : Int) : Fraction :=
  if 0 ≤ e then ⟨n * twoTo e, 4⟩ else ⟨n, 4 * twoTo (-e)⟩

def floorAt (a : Fraction) (k : Int) : Nat :=
  if 0 ≤ k then a.num / (a.den * tenTo k) else a.num * tenTo (-k) / a.den

def distance (a b : Fraction) : Fraction :=
  let x := a.num * b.den
  let y := b.num * a.den
  ⟨(x - y) + (y - x), a.den * b.den⟩

end Fraction

structure Interval where
  low : Fraction
  middle : Fraction
  high : Fraction
  closed : Bool

/-- Half-way to the neighbours of `m * 2^e`; the lower neighbour is nearer where the exponent
changes. -/
def interval (m : Nat) (e : Int) : Interval where
  low := .quarters (if m = twoTo 52 && leastExponent < e then 4 * m - 1 else 4 * m - 2) e
  middle := .quarters (4 * m) e
  high := .quarters (4 * m + 2) e
  closed := m % 2 == 0

def Interval.holds (i : Interval) (x : Fraction) : Bool :=
  if i.closed then i.low.le x && x.le i.high else i.low.lt x && x.lt i.high

def magnitude (x : Fraction) : Int :=
  if x.num ≥ x.den then ((Nat.toDigits 10 (x.num / x.den)).length : Int)
  else
    let rec zeros : Nat → Nat → Int
      | 0, _ => 0
      | fuel + 1, n => if n * 10 ≥ x.den then 0 else zeros fuel (n * 10) - 1
    zeros 400 x.num

/-- Of the two multiples of `10^k` beside the value, the one in the interval, and of two the
nearer or, at equal distance, the even one. -/
def neighbourAt (i : Interval) (k : Int) : Option Nat :=
  let d := i.middle.floorAt k
  let below := Fraction.ofDecimal d k
  let above := Fraction.ofDecimal (d + 1) k
  match i.holds below, i.holds above with
  | false, false => none
  | true, false => some d
  | false, true => some (d + 1)
  | true, true =>
    let toBelow := below.distance i.middle
    let toAbove := above.distance i.middle
    if toBelow.lt toAbove then some d
    else if toAbove.lt toBelow then some (d + 1)
    else some (if d % 2 = 0 then d else d + 1)

/-- Tries one digit, two digits and so on; seventeen always suffice. -/
def searchDigits (i : Interval) (size : Int) : Nat → Nat → Nat × Int
  | 0, tried => (i.middle.floorAt (size - tried), size - tried)
  | fuel + 1, tried =>
    match neighbourAt i (size - (tried + 1 : Nat)) with
    | some d => (d, size - (tried + 1 : Nat))
    | none => searchDigits i size fuel (tried + 1)

def dropZeros : Nat → Nat → Int → Nat × Int
  | 0, d, k => (d, k)
  | fuel + 1, d, k => if d ≠ 0 && d % 10 = 0 then dropZeros fuel (d / 10) (k + 1) else (d, k)

def shortest (m : Nat) (e : Int) : List Char × Int :=
  if m = 0 then (['0'], 1)
  else
    let i := interval m e
    let (d, k) := searchDigits i (magnitude i.middle) 17 0
    let (d, k) := dropZeros 18 d k
    let digits := Nat.toDigits 10 d
    (digits, digits.length + k)

structure Layout where
  leastPoint : Int
  greatestPoint : Int
  exponentWidth : Nat

def layout : Layout := ⟨-3, 16, 2⟩

def writeExponent (n : Int) : List Char :=
  let digits := Nat.toDigits 10 n.natAbs
  (if n < 0 then '-' else '+') ::
    (List.replicate (layout.exponentWidth - digits.length) '0' ++ digits)

def write (digits : List Char) (point : Int) : List Char :=
  if layout.leastPoint ≤ point && point ≤ layout.greatestPoint then
    if point ≤ 0 then '0' :: '.' :: (List.replicate (-point).toNat '0' ++ digits)
    else
      let whole := digits.take point.toNat
      let fraction := digits.drop point.toNat
      whole ++ List.replicate (point.toNat - whole.length) '0' ++
        '.' :: (if fraction.isEmpty then ['0'] else fraction)
  else
    let tail := digits.drop 1
    digits.take 1 ++ (if tail.isEmpty then [] else '.' :: tail) ++ 'e' :: writeExponent (point - 1)

def sign (negative : Bool) : String := if negative then "-" else ""

def toText : Double → String
  | finite negative m e =>
    let (digits, point) := shortest m e
    sign negative ++ String.ofList (write digits point)
  | infinite negative => sign negative ++ "inf"
  | nan _ => "nan"

end TreeQuery.Double
