import ClusterDeploy.Json.Basic
/-!
# Reading JSON

A strict reader: no comments, no trailing commas, no control characters in strings, no lone
surrogates, at most 127 levels of nesting, and numbers that fit a double. `-0` and whole numbers
beyond 64 bits are read as doubles.
-/
namespace ClusterDeploy.Json

open Number

def skipSpace : List Char → List Char
  | c :: rest => if c = ' ' ∨ c = '\n' ∨ c = '\t' ∨ c = '\r' then skipSpace rest else c :: rest
  | [] => []

def hexValue (c : Char) : Option Nat :=
  let n := c.toNat
  if 48 ≤ n && n ≤ 57 then some (n - 48)
  else if 97 ≤ n && n ≤ 102 then some (n - 87)
  else if 65 ≤ n && n ≤ 70 then some (n - 55)
  else none

def readHex4 : List Char → Option (Nat × List Char)
  | a :: b :: c :: d :: rest => do
    return ((← hexValue a) * 4096 + (← hexValue b) * 256 + (← hexValue c) * 16 + (← hexValue d),
      rest)
  | _ => none

/-- The character after `\u`; a leading surrogate takes its partner along. -/
def readUnicode (cs : List Char) : Option (Char × List Char) := do
  let (n, rest) ← readHex4 cs
  if 0xD800 ≤ n && n ≤ 0xDBFF then
    match rest with
    | '\\' :: 'u' :: more =>
      let (m, rest) ← readHex4 more
      if 0xDC00 ≤ m && m ≤ 0xDFFF then
        some (Char.ofNat (0x10000 + (n - 0xD800) * 1024 + (m - 0xDC00)), rest)
      else none
    | _ => none
  else if 0xDC00 ≤ n && n ≤ 0xDFFF then none
  else some (Char.ofNat n, rest)

def plainEscape : Char → Option Char
  | '"' => some '"'
  | '\\' => some '\\'
  | '/' => some '/'
  | 'b' => some (Char.ofNat 8)
  | 'f' => some (Char.ofNat 12)
  | 'n' => some '\n'
  | 'r' => some '\r'
  | 't' => some '\t'
  | _ => none

/-- The rest of a string after its opening quote; `seen` holds its characters in reverse. -/
def readString : (fuel : Nat) → (seen : List Char) → List Char → Option (String × List Char)
  | 0, _, _ => none
  | _ + 1, _, [] => none
  | fuel + 1, seen, c :: rest =>
    if c = '"' then some (String.ofList seen.reverse, rest)
    else if c = '\\' then
      match rest with
      | 'u' :: more =>
        match readUnicode more with
        | some (d, after) => readString fuel (d :: seen) after
        | none => none
      | e :: more =>
        match plainEscape e with
        | some d => readString fuel (d :: seen) more
        | none => none
      | [] => none
    else if c.toNat < 32 then none
    else readString fuel (c :: seen) rest

def isDigit (c : Char) : Bool := '0' ≤ c && c ≤ '9'

def digitsValue (ds : List Char) : Nat := ds.foldl (fun n d => n * 10 + (d.toNat - 48)) 0

def readExponent : List Char → Option (Option Int × List Char)
  | c :: rest =>
    if c = 'e' ∨ c = 'E' then
      let (negative, rest) : Bool × List Char :=
        match rest with
        | '+' :: more => (false, more)
        | '-' :: more => (true, more)
        | more => (false, more)
      let digits := rest.takeWhile isDigit
      if digits.isEmpty then none
      else
        let n : Int := digitsValue digits
        some (some (if negative then -n else n), rest.dropWhile isDigit)
    else some (none, c :: rest)
  | [] => some (none, [])

def readMagnitude (negative : Bool) (cs : List Char) : Option (Numeral × List Char) := do
  let whole := cs.takeWhile isDigit
  let rest := cs.dropWhile isDigit
  if whole.isEmpty || (1 < whole.length && whole.head? == some '0') then none
  let (fraction, rest) ←
    match rest with
    | '.' :: more =>
      let digits := more.takeWhile isDigit
      if digits.isEmpty then none else some (some digits, more.dropWhile isDigit)
    | more => some (none, more)
  let (exponent, rest) ← readExponent rest
  let n := digitsValue whole
  if fraction.isNone && exponent.isNone &&
      (if negative then n ≤ Nat.pow 2 63 && n != 0 else n < Nat.pow 2 64) then
    some (.int (if negative then -(n : Int) else n), rest)
  else
    let places := fraction.getD []
    let x ← Binary64.ofDecimal negative (digitsValue (whole ++ places))
      (exponent.getD 0 - places.length)
    some (.float x, rest)

def readNumber : List Char → Option (Numeral × List Char)
  | '-' :: rest => readMagnitude true rest
  | cs => readMagnitude false cs

mutual

/-- Reads one value; `depth` counts the levels of nesting still allowed. -/
def readValue : (fuel depth : Nat) → List Char → Option (Json × List Char)
  | 0, _, _ => none
  | fuel + 1, depth, cs =>
    match skipSpace cs with
    | 'n' :: 'u' :: 'l' :: 'l' :: rest => some (null, rest)
    | 't' :: 'r' :: 'u' :: 'e' :: rest => some (bool true, rest)
    | 'f' :: 'a' :: 'l' :: 's' :: 'e' :: rest => some (bool false, rest)
    | '"' :: rest => (readString (rest.length + 1) [] rest).map fun (s, rest) => (str s, rest)
    | '[' :: rest =>
      if depth ≤ 1 then none
      else
        match skipSpace rest with
        | ']' :: rest => some (arr [], rest)
        | rest => (readItems fuel (depth - 1) [] rest).map fun (items, rest) => (arr items, rest)
    | '\x7b' :: rest =>
      if depth ≤ 1 then none
      else
        match skipSpace rest with
        | '\x7d' :: rest => some (obj [], rest)
        | rest => (readMembers fuel (depth - 1) [] rest).map fun (ms, rest) => (obj ms, rest)
    | rest => (readNumber rest).map fun (n, rest) => (num n, rest)

def readItems : (fuel depth : Nat) → (seen : List Json) → List Char →
    Option (List Json × List Char)
  | 0, _, _, _ => none
  | fuel + 1, depth, seen, cs =>
    match readValue fuel depth cs with
    | none => none
    | some (item, rest) =>
      match skipSpace rest with
      | ',' :: rest => readItems fuel depth (item :: seen) rest
      | ']' :: rest => some ((item :: seen).reverse, rest)
      | _ => none

def readMembers : (fuel depth : Nat) → (seen : List (String × Json)) → List Char →
    Option (List (String × Json) × List Char)
  | 0, _, _, _ => none
  | fuel + 1, depth, seen, cs =>
    match skipSpace cs with
    | '"' :: rest =>
      match readString (rest.length + 1) [] rest with
      | none => none
      | some (name, rest) =>
        match skipSpace rest with
        | ':' :: rest =>
          match readValue fuel depth rest with
          | none => none
          | some (value, rest) =>
            match skipSpace rest with
            | ',' :: rest => readMembers fuel depth ((name, value) :: seen) rest
            | '\x7d' :: rest => some (((name, value) :: seen).reverse, rest)
            | _ => none
        | _ => none
    | _ => none

end

/-- The value that a whole text spells; names of members may occur repeatedly. -/
def parse? (text : String) : Option Json := do
  let cs := text.toList
  let (value, rest) ← readValue (2 * cs.length + 2) 128 cs
  if (skipSpace rest).isEmpty then some value else none

end ClusterDeploy.Json
