/-!
# Punycode

The encoding of a label as its plain characters followed by the others, each as a difference in
digits of base 36 whose weights adapt. Every loop has its own measure: the quotient that is written
digit by digit, the remainder that is scaled down, the digits still to be read.
-/
namespace ClusterDeploy.Url.Punycode

def digitChar (d : Nat) : Char := if d < 26 then Char.ofNat (97 + d) else Char.ofNat (22 + d)

def digitValue (c : Char) : Option Nat :=
  let n := c.toNat
  if 97 ≤ n && n ≤ 122 then some (n - 97)
  else if 65 ≤ n && n ≤ 90 then some (n - 65)
  else if 48 ≤ n && n ≤ 57 then some (n - 22)
  else none

def threshold (k bias : Nat) : Nat := max 1 (min 26 (k - bias))

theorem threshold_pos (k bias : Nat) : 1 ≤ threshold k bias := by
  unfold threshold; omega

theorem threshold_le (k bias : Nat) : threshold k bias ≤ 26 := by
  unfold threshold; omega

def scaleDown (delta k : Nat) : Nat × Nat :=
  if 455 < delta then scaleDown (delta / 35) (k + 36) else (delta, k)
termination_by delta
decreasing_by omega

def adapt (delta points : Nat) (first : Bool) : Nat :=
  let d := if first then delta / 700 else delta / 2
  let (d, k) := scaleDown (d + d / points) 0
  k + 36 * d / (d + 38)

def writeDelta (bias k q : Nat) : List Char :=
  let t := threshold k bias
  if q < t then [digitChar q]
  else digitChar (t + (q - t) % (36 - t)) :: writeDelta bias (k + 36) ((q - t) / (36 - t))
termination_by q
decreasing_by
  have h1 := threshold_pos k bias
  have h2 := threshold_le k bias
  calc (q - threshold k bias) / (36 - threshold k bias)
      ≤ q - threshold k bias := Nat.div_le_self _ _
    _ < q := by omega

/-- The state of the encoder: what is written, the difference so far, the bias and the number of
characters handled. -/
structure Encoder where
  out : List Char
  delta : Nat
  bias : Nat
  handled : Nat

def Encoder.see (plain next : Nat) (e : Encoder) (n : Nat) : Encoder :=
  if n < next then { e with delta := e.delta + 1 }
  else if n = next then
    { out := e.out ++ writeDelta e.bias 36 e.delta
      delta := 0
      bias := adapt e.delta (e.handled + 1) (e.handled == plain)
      handled := e.handled + 1 }
  else e

def encodeFrom (input : List Nat) (plain : Nat) : List Nat → (start : Nat) → Encoder → Encoder
  | [], _, e => e
  | next :: more, start, e =>
    let e := { e with delta := e.delta + (next - start) * (e.handled + 1) }
    let e := input.foldl (Encoder.see plain next) e
    encodeFrom input plain more (next + 1) { e with delta := e.delta + 1 }

def insertOnce (x : Nat) : List Nat → List Nat
  | [] => [x]
  | y :: ys => if x < y then x :: y :: ys else if x = y then y :: ys else y :: insertOnce x ys

def encode (label : List Char) : List Char :=
  let plain := label.filter fun c => c.toNat < 128
  let others := label.foldl (fun xs c => if c.toNat < 128 then xs else insertOnce c.toNat xs) []
  let head := if plain.isEmpty then [] else plain ++ ['-']
  let e : Encoder := ⟨head, 0, 72, plain.length⟩
  (encodeFrom (label.map Char.toNat) plain.length others 128 e).out

def readDelta (bias : Nat) : (k weight value : Nat) → List Char → Option (Nat × List Char)
  | _, _, _, [] => none
  | k, weight, value, c :: rest =>
    match digitValue c with
    | none => none
    | some d =>
      let value := value + d * weight
      let t := threshold k bias
      if d < t then some (value, rest) else readDelta bias (k + 36) (weight * (36 - t)) value rest

def insertAt (i : Nat) (x : Nat) (xs : List Nat) : List Nat := xs.take i ++ x :: xs.drop i

def decodeFrom : (fuel : Nat) → (next index bias : Nat) → List Nat → List Char → Option (List Nat)
  | _, _, _, _, out, [] => some out
  | 0, _, _, _, _, _ :: _ => none
  | fuel + 1, next, index', bias, out, c :: rest =>
    match readDelta bias 36 1 0 (c :: rest) with
    | none => none
    | some (delta, rest) =>
      let size := out.length + 1
      let position := index' + delta
      let next := next + position / size
      let index := position % size
      if 0x10FFFF < next || (0xD800 ≤ next && next ≤ 0xDFFF) then none
      else decodeFrom fuel next (index + 1) (adapt delta size (index' == 0))
        (insertAt index next out) rest

def splitLast (label : List Char) : List Char × List Char :=
  let tail := (label.reverse.takeWhile (· != '-')).reverse
  (label.take (label.length - tail.length - 1), tail)

def decode (label : List Char) : Option (List Char) :=
  let (plain, digits) := splitLast label
  (decodeFrom digits.length 128 0 72 (plain.map Char.toNat) digits).map (·.map Char.ofNat)

end ClusterDeploy.Url.Punycode
