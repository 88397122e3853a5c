import ClusterDeploy.Number.Binary64
/-!
# What a plain scalar means

A scalar without quotes and tag is null, a truth value, a whole number in one of four notations, a
finite or infinite float, or else the text itself.
-/
namespace ClusterDeploy.Yaml

open Number

inductive Scalar where
  | null
  | bool (b : Bool)
  | int (n : Int)
  | float (x : Binary64)
  /-- Infinite or not a number. -/
  | unbounded
  | str (s : String)
  deriving DecidableEq, Repr

def nullWord (s : String) : Bool := ["", "~", "null", "Null", "NULL"].contains s

def boolWord? (s : String) : Option Bool :=
  if ["true", "True", "TRUE"].contains s then some true
  else if ["false", "False", "FALSE"].contains s then some false
  else none

def digit? (radix : Nat) (c : Char) : Option Nat :=
  let n := c.toNat
  let d :=
    if 48 ≤ n && n ≤ 57 then some (n - 48)
    else if 97 ≤ n && n ≤ 102 then some (n - 87)
    else if 65 ≤ n && n ≤ 70 then some (n - 55)
    else none
  d.bind fun d => if d < radix then some d else none

def natural? (radix : Nat) (cs : List Char) : Option Nat :=
  if cs.isEmpty then none
  else cs.foldl (fun n c => do return (← n) * radix + (← digit? radix c)) (some 0)

def splitSign : List Char → Bool × List Char
  | '-' :: rest => (true, rest)
  | '+' :: rest => (false, rest)
  | cs => (false, cs)

/-- Zeros in front of further digits make a text. -/
def isPaddedDigits (cs : List Char) : Bool :=
  match (splitSign cs).2 with
  | '0' :: rest => !rest.isEmpty && rest.all fun c => '0' ≤ c && c ≤ '9'
  | _ => false

def integer? (cs : List Char) : Option Int :=
  let (negative, magnitude) := splitSign cs
  let n :=
    match magnitude with
    | '0' :: 'x' :: rest => natural? 16 rest
    | '0' :: 'o' :: rest => natural? 8 rest
    | '0' :: 'b' :: rest => natural? 2 rest
    | _ => if isPaddedDigits cs then none else natural? 10 magnitude
  n.map fun n => if negative then -(n : Int) else n

def isDecimal (c : Char) : Bool := '0' ≤ c && c ≤ '9'

def exponent? : List Char → Option Int
  | [] => some 0
  | c :: rest =>
    if c == 'e' || c == 'E' then
      let (negative, digits) := splitSign rest
      (natural? 10 digits).map fun n => if negative then -(n : Int) else n
    else none

/-- A finite float: digits with an optional point among or around them, and an optional exponent. -/
def float? (cs : List Char) : Option Binary64 := do
  let (negative, cs) := splitSign cs
  let whole := cs.takeWhile isDecimal
  let rest := cs.dropWhile isDecimal
  let (places, rest) :=
    match rest with
    | '.' :: more => (more.takeWhile isDecimal, more.dropWhile isDecimal)
    | more => ([], more)
  if whole.isEmpty && places.isEmpty then none
  let e ← exponent? rest
  let n ← natural? 10 (whole ++ places)
  Binary64.ofDecimal negative n (e - places.length)

def isUnbounded (s : String) : Bool :=
  [".inf", ".Inf", ".INF", "+.inf", "+.Inf", "+.INF", "-.inf", "-.Inf", "-.INF", ".nan", ".NaN",
    ".NAN"].contains s

def Scalar.ofPlain (s : String) : Scalar :=
  if nullWord s then .null
  else
    match boolWord? s with
    | some b => .bool b
    | none =>
      let cs := s.toList
      match integer? cs with
      | some n => .int n
      | none =>
        if isPaddedDigits cs then .str s
        else if isUnbounded s then .unbounded
        else
          match float? cs with
          | some x => .float x
          | none => .str s

end ClusterDeploy.Yaml
