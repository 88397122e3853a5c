/-!
# Binary floating point numbers, exactly

A finite double is a sign and `mantissa * 2 ^ exponent`. Rounding a decimal to the nearest double
and finding the shortest decimal that reads back are done on natural numbers, so both can be
reasoned about; no machine arithmetic is involved.
-/
namespace ClusterDeploy.Number

/-- A finite double. The mantissa is below `2 ^ 53`, and at least `2 ^ 52` unless the exponent is
the lowest one, -1074. -/
structure Binary64 where
  negative : Bool
  mantissa : Nat
  exponent : Int
  deriving DecidableEq, Repr

namespace Binary64

def zero (negative : Bool) : Binary64 := ⟨negative, 0, -1074⟩

/-- The nearest integer to a quotient; a tie goes to the even neighbour. -/
def roundDiv (num den : Nat) : Nat :=
  let q := num / den
  let twice := 2 * (num % den)
  if twice < den then q else if den < twice then q + 1 else if q % 2 = 0 then q else q + 1

def scaleBy (num den : Nat) (e : Int) : Nat × Nat :=
  if 0 ≤ e then (num, den * Nat.pow 2 e.toNat) else (num * Nat.pow 2 (-e).toNat, den)

/-- The nearest double to a positive quotient, none beyond the largest one. -/
def ofQuotient (negative : Bool) (num den : Nat) : Option Binary64 :=
  let guess : Int := (num.log2 : Int) - (den.log2 : Int) - 53
  let fits (e : Int) : Bool :=
    let (n, d) := scaleBy num den e
    n < d * Nat.pow 2 53
  let least := if fits guess then guess else if fits (guess + 1) then guess + 1 else guess + 2
  let e := max least (-1074)
  let (n, d) := scaleBy num den e
  let m := roundDiv n d
  let (m, e) := if m = Nat.pow 2 53 then (Nat.pow 2 52, e + 1) else (m, e)
  if 971 < e then none else some ⟨negative, m, e⟩

/-- The nearest double to `digits * 10 ^ power`, none when it is out of range. -/
def ofDecimal (negative : Bool) (digits : Nat) (power : Int) : Option Binary64 :=
  if digits = 0 then some (zero negative)
  else
    let size : Int := (Nat.toDigits 10 digits).length
    if 400 < size + power then none
    else if size + power < -400 then some (zero negative)
    else if 0 ≤ power then ofQuotient negative (digits * Nat.pow 10 power.toNat) 1
    else ofQuotient negative digits (Nat.pow 10 (-power).toNat)

/-- A decimal `digits * 10 ^ power` lies among the numbers that round to `m * 2 ^ e`. Bounds are
compared after multiplying by four, since the lower neighbour may be a quarter step away. -/
def roundsTo (m : Nat) (e : Int) (digits : Nat) (power : Int) : Bool :=
  let below := if m = Nat.pow 2 52 ∧ -1074 < e then 1 else 2
  let num := 4 * digits * (if 0 ≤ power then Nat.pow 10 power.toNat else 1) *
    (if 0 ≤ e then 1 else Nat.pow 2 (-e).toNat)
  let unit := (if 0 ≤ power then 1 else Nat.pow 10 (-power).toNat) *
    (if 0 ≤ e then Nat.pow 2 e.toNat else 1)
  let low := (4 * m - below) * unit
  let high := (4 * m + 2) * unit
  if m % 2 = 0 then low ≤ num && num ≤ high else low < num && num < high

def quotient (m : Nat) (e : Int) : Nat × Nat :=
  if 0 ≤ e then (m * Nat.pow 2 e.toNat, 1) else (m, Nat.pow 2 (-e).toNat)

/-- The power of ten just above a positive quotient, searched upward from a lower bound. -/
def decimalSize (num den : Nat) : (fuel : Nat) → (from' : Int) → Int
  | 0, k => k
  | fuel + 1, k =>
    let above := if 0 ≤ k then num < den * Nat.pow 10 k.toNat else num * Nat.pow 10 (-k).toNat < den
    if above then k else decimalSize num den fuel (k + 1)

/-- Of the two neighbours on the grid of multiples of `10 ^ power`, the nearer one that reads back;
an exact tie goes to the even neighbour. -/
def onGrid (m : Nat) (e : Int) (power : Int) : Option Nat :=
  let (num, den) := quotient m e
  let (n, d) :=
    if 0 ≤ power then (num, den * Nat.pow 10 power.toNat)
    else (num * Nat.pow 10 (-power).toNat, den)
  let q := n / d
  let r := n % d
  let low := q != 0 && roundsTo m e q power
  let high := roundsTo m e (q + 1) power
  match low, high with
  | true, true => some (if 2 * r < d || (2 * r == d && q % 2 == 0) then q else q + 1)
  | true, false => some q
  | false, true => some (q + 1)
  | false, false => none

def shortestFrom (m : Nat) (e : Int) (size : Int) : (fuel digits : Nat) → Nat × Int
  | 0, digits => (((onGrid m e (size - digits)).getD 0), size - digits)
  | fuel + 1, digits =>
    match onGrid m e (size - digits) with
    | some q => (q, size - digits)
    | none => shortestFrom m e size fuel (digits + 1)

def dropZeros : (fuel : Nat) → Nat → Int → Nat × Int
  | 0, q, power => (q, power)
  | fuel + 1, q, power =>
    if q % 10 = 0 && q != 0 then dropZeros fuel (q / 10) (power + 1) else (q, power)

def shortest (x : Binary64) : Nat × Int :=
  if x.mantissa = 0 then (0, 0)
  else
    let (num, den) := quotient x.mantissa x.exponent
    let start : Int := ((num.log2 : Int) - (den.log2 : Int)) * 3 / 10 - 3
    let size := decimalSize num den 40 start
    let (q, power) := shortestFrom x.mantissa x.exponent size 17 1
    dropZeros 20 q power

/-- Positional notation from 1e-5 up to 1e16, with at least one place after the point; beyond that
the scientific form with a bare exponent. -/
def text (x : Binary64) : String :=
  let sign := if x.negative then "-" else ""
  let (q, power) := x.shortest
  if q = 0 then sign ++ "0.0"
  else
    let digits := Nat.toDigits 10 q
    let count : Int := digits.length
    let point := count + power
    let body : List Char :=
      if 0 ≤ power && point ≤ 16 then digits ++ List.replicate power.toNat '0' ++ ['.', '0']
      else if 0 < point && point ≤ 16 then
        digits.take point.toNat ++ '.' :: digits.drop point.toNat
      else if -5 < point && point ≤ 0 then
        '0' :: '.' :: (List.replicate (-point).toNat '0' ++ digits)
      else
        let exponent := (toString (point - 1)).toList
        match digits with
        | [d] => d :: 'e' :: exponent
        | d :: more => d :: '.' :: (more ++ 'e' :: exponent)
        | [] => []
    sign ++ String.ofList body

end Binary64

/-- A number of a data format: whole numbers stay exact. -/
inductive Numeral where
  | int (n : Int)
  | float (x : Binary64)
  deriving DecidableEq, Repr

def Numeral.text : Numeral → String
  | .int n => toString n
  | .float x => x.text

end ClusterDeploy.Number
