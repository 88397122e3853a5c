import ClusterDeploy.Number.Binary64
import ClusterDeploy.Text.Blank
/-!
# TOML scalars

Strings in their four notations, whole numbers, floats, truth values, and dates and times. A reader
takes the characters from a position on and gives back those it left.
-/
namespace ClusterDeploy.Toml

inductive Scalar where
  | text (s : String)
  | integer (n : Int)
  | float
  | boolean (b : Bool)
  /-- A date, a time of day, or both. -/
  | moment
  deriving DecidableEq, Repr

def isGap (c : Char) : Bool := c == ' ' || c == '\t'

/-- Tabs are the only control characters a line may hold. -/
def isLineChar (c : Char) : Bool := c == '\t' || (32 ≤ c.toNat && c.toNat != 127)

def skipGap (cs : List Char) : List Char := cs.dropWhile isGap

def newline? : List Char → Option (List Char)
  | '\n' :: rest => some rest
  | '\r' :: '\n' :: rest => some rest
  | _ => none

/-- Passes blanks and a comment up to a line end or the end of the text. -/
def lineRest (cs : List Char) : List Char :=
  match skipGap cs with
  | '#' :: rest => rest.dropWhile isLineChar
  | rest => rest

def endOfLine? (cs : List Char) : Option (List Char) :=
  match lineRest cs with
  | [] => some []
  | rest => newline? rest

def skipLines : (fuel : Nat) → List Char → List Char
  | 0, cs => cs
  | fuel + 1, cs =>
    let rest := lineRest cs
    match newline? rest with
    | some more => skipLines fuel more
    | none => rest

/-! Strings -/

def hexValue? (c : Char) : Option Nat :=
  let n := c.toNat
  if 48 ≤ n && n ≤ 57 then some (n - 48)
  else if 97 ≤ n && n ≤ 102 then some (n - 87)
  else if 65 ≤ n && n ≤ 70 then some (n - 55)
  else none

def hexChar? (digits : Nat) (cs : List Char) : Option (Char × List Char) := do
  let ds := cs.take digits
  if ds.length < digits then none
  let n ← ds.foldlM (fun n c => (hexValue? c).map (n * 16 + ·)) 0
  if n < 0xD800 || (0xE000 ≤ n && n < 0x110000) then some (Char.ofNat n, cs.drop digits) else none

def escape? : List Char → Option (Char × List Char)
  | 'b' :: rest => some (Char.ofNat 8, rest)
  | 't' :: rest => some ('\t', rest)
  | 'n' :: rest => some ('\n', rest)
  | 'f' :: rest => some (Char.ofNat 12, rest)
  | 'r' :: rest => some ('\r', rest)
  | 'e' :: rest => some (Char.ofNat 27, rest)
  | '"' :: rest => some ('"', rest)
  | '\\' :: rest => some ('\\', rest)
  | 'x' :: rest => hexChar? 2 rest
  | 'u' :: rest => hexChar? 4 rest
  | 'U' :: rest => hexChar? 8 rest
  | _ => none

def quoted? : (fuel : Nat) → List Char → Option (List Char × List Char)
  | 0, _ => none
  | _, '"' :: rest => some ([], rest)
  | fuel + 1, '\\' :: rest => do
    let (c, rest) ← escape? rest
    let (cs, rest) ← quoted? fuel rest
    return (c :: cs, rest)
  | fuel + 1, c :: rest =>
    if isLineChar c then (quoted? fuel rest).map fun (cs, rest) => (c :: cs, rest) else none
  | _, [] => none

def literal? : List Char → Option (List Char × List Char)
  | [] => none
  | c :: rest =>
    if c = '\'' then some ([], rest)
    else if isLineChar c then (literal? rest).map fun (cs, rest) => (c :: cs, rest)
    else none

/-- Passes line ends and blanks after a backslash at the end of a line. -/
def foldedLine? (cs : List Char) : Option (List Char) :=
  (newline? (skipGap cs)).map fun rest => rest.dropWhile fun c => isGap c || c == '\n' || c == '\r'

/-- Quotes at the end of a block: three close it, and up to two before them belong to the text. -/
def closing? (quote : Char) (cs : List Char) : Option (List Char × List Char) :=
  let run := (cs.takeWhile (· == quote)).length
  if run < 3 then none
  else
    let kept := min (run - 3) 2
    some (List.replicate kept quote, cs.drop (kept + 3))

def block? (quote : Char) : (fuel : Nat) → List Char → Option (List Char × List Char)
  | 0, _ => none
  | fuel + 1, cs =>
    match closing? quote cs with
    | some closed => some closed
    | none =>
      match newline? cs with
      | some rest => (block? quote fuel rest).map fun (t, rest) => ('\n' :: t, rest)
      | none =>
        match cs with
        | [] => none
        | c :: rest =>
          if c = '\\' && quote = '"' then
            match foldedLine? rest with
            | some rest => block? quote fuel rest
            | none => do
              let (e, rest) ← escape? rest
              let (t, rest) ← block? quote fuel rest
              return (e :: t, rest)
          else if isLineChar c then
            (block? quote fuel rest).map fun (t, rest) => (c :: t, rest)
          else none

/-- A string in any notation; a line end right after three opening quotes does not count. -/
def string? (cs : List Char) : Option (String × List Char) :=
  let fuel := cs.length + 1
  let read : Option (List Char × List Char) :=
    match cs with
    | '"' :: '"' :: '"' :: rest => block? '"' fuel ((newline? rest).getD rest)
    | '\'' :: '\'' :: '\'' :: rest => block? '\'' fuel ((newline? rest).getD rest)
    | '"' :: rest => quoted? fuel rest
    | '\'' :: rest => literal? rest
    | _ => none
  read.map fun (t, rest) => (String.ofList t, rest)

/-! Numbers -/

/-- Digits of a radix; an underscore may stand between two of them. -/
def digits? (radix : Nat) : (afterDigit : Bool) → List Char → Option (List Nat)
  | afterDigit, [] => if afterDigit then some [] else none
  | afterDigit, c :: rest =>
    if c = '_' then if afterDigit then digits? radix false rest else none
    else
      match hexValue? c with
      | some d => if d < radix then (digits? radix true rest).map (d :: ·) else none
      | none => none

def natural? (radix : Nat) (cs : List Char) : Option Nat :=
  (digits? radix false cs).map fun ds => ds.foldl (fun n d => n * radix + d) 0

def decimal? (cs : List Char) : Option Nat :=
  match cs with
  | '0' :: _ :: _ => none
  | _ => natural? 10 cs

def splitSign : List Char → Option Bool × List Char
  | '-' :: rest => (some true, rest)
  | '+' :: rest => (some false, rest)
  | cs => (none, cs)

/-- A whole number of at most 128 bits. Only decimal ones have a sign. -/
def integer? (cs : List Char) : Option Int := do
  let (sign, magnitude) := splitSign cs
  let n : Int ←
    match sign, magnitude with
    | none, '0' :: 'x' :: rest => (natural? 16 rest).map Int.ofNat
    | none, '0' :: 'o' :: rest => (natural? 8 rest).map Int.ofNat
    | none, '0' :: 'b' :: rest => (natural? 2 rest).map Int.ofNat
    | some true, _ => (decimal? magnitude).map fun n => -(n : Int)
    | _, _ => (decimal? magnitude).map Int.ofNat
  if -(Nat.pow 2 127 : Int) ≤ n && n < Nat.pow 2 128 then some n else none

def exponent? : List Char → Option Int
  | [] => some 0
  | c :: rest =>
    if c == 'e' || c == 'E' then
      let (sign, ds) := splitSign rest
      (natural? 10 ds).map fun n => if sign = some true then -(n : Int) else n
    else none

/-- A float, which has places, an exponent, or a name, and must not be too large. -/
def isFloat (cs : List Char) : Bool :=
  let (_, cs) := splitSign cs
  if cs == ['i', 'n', 'f'] || cs == ['n', 'a', 'n'] then true
  else
    let isPart (c : Char) : Bool := ('0' ≤ c && c ≤ '9') || c == '_'
    let whole := cs.takeWhile isPart
    let rest := cs.dropWhile isPart
    match rest with
    | [] => false
    | '.' :: more =>
      let places := more.takeWhile isPart
      match decimal? whole, natural? 10 places, exponent? (more.dropWhile isPart) with
      | some n, some p, some e =>
        let count := (places.filter (· != '_')).length
        (Number.Binary64.ofDecimal false (n * Nat.pow 10 count + p) (e - count)).isSome
      | _, _, _ => false
    | _ =>
      match decimal? whole, exponent? rest with
      | some n, some e => (Number.Binary64.ofDecimal false n e).isSome
      | _, _ => false

/-! Dates and times -/

def field? (count : Nat) (cs : List Char) : Option (Nat × List Char) :=
  let ds := cs.take count
  if ds.length = count && ds.all Char.isDigit then
    some (ds.foldl (fun n c => n * 10 + (c.toNat - 48)) 0, cs.drop count)
  else none

def mark? (c : Char) : List Char → Option (List Char)
  | d :: rest => if d = c then some rest else none
  | [] => none

def daysIn (year month : Nat) : Nat :=
  if month = 2 then
    if year % 4 = 0 && (year % 100 != 0 || year % 400 = 0) then 29 else 28
  else if [4, 6, 9, 11].contains month then 30
  else 31

def date? (cs : List Char) : Option (List Char) := do
  let (year, cs) ← field? 4 cs
  let (month, cs) ← field? 2 (← mark? '-' cs)
  let (day, cs) ← field? 2 (← mark? '-' cs)
  if 1 ≤ month && month ≤ 12 && 1 ≤ day && day ≤ daysIn year month then some cs else none

/-- The seconds, which may be left out, and their fraction. -/
def seconds? (cs : List Char) : Option (List Char) :=
  match cs with
  | ':' :: rest => do
    let (second, rest) ← field? 2 rest
    if 60 < second then none
    match rest with
    | '.' :: places =>
      if places.head?.any Char.isDigit then some (places.dropWhile Char.isDigit) else none
    | _ => some rest
  | _ => some cs

def time? (cs : List Char) : Option (List Char) := do
  let (hour, cs) ← field? 2 cs
  let (minute, cs) ← field? 2 (← mark? ':' cs)
  if hour ≤ 23 && minute ≤ 59 then seconds? cs else none

def offset? : List Char → Option (List Char)
  | [] => some []
  | c :: cs =>
    if c == 'Z' || c == 'z' then some cs
    else if c == '+' || c == '-' then do
      let (hour, cs) ← field? 2 cs
      let (minute, cs) ← field? 2 (← mark? ':' cs)
      if hour ≤ 23 && minute ≤ 59 then some cs else none
    else none

def isMoment (cs : List Char) : Bool :=
  match date? cs with
  | some [] => true
  | some (c :: rest) =>
    (c == 'T' || c == 't' || c == ' ') && ((time? rest).bind offset?) == some []
  | none => time? cs == some []

/-! Words -/

def endsWord (c : Char) : Bool :=
  isGap c || c == '\n' || c == '\r' || c == ',' || c == ']' || c == '\x7d' || c == '#'

/-- A word; a date and a time of day behind one blank are one word. -/
def word (cs : List Char) : List Char × List Char :=
  let first := cs.takeWhile fun c => !endsWord c
  let rest := cs.dropWhile fun c => !endsWord c
  match rest with
  | ' ' :: more =>
    if first.length = 10 && date? first == some [] && more.head?.any Char.isDigit then
      (first ++ ' ' :: more.takeWhile (fun c => !endsWord c), more.dropWhile fun c => !endsWord c)
    else (first, rest)
  | _ => (first, rest)

def Scalar.ofWord? (w : List Char) : Option Scalar :=
  if w == ['t', 'r', 'u', 'e'] then some (.boolean true)
  else if w == ['f', 'a', 'l', 's', 'e'] then some (.boolean false)
  else
    match integer? w with
    | some n => some (.integer n)
    | none => if isFloat w then some .float else if isMoment w then some .moment else none

def scalar? (cs : List Char) : Option (Scalar × List Char) :=
  match cs with
  | '"' :: _ | '\'' :: _ => (string? cs).map fun (s, rest) => (.text s, rest)
  | _ =>
    let (w, rest) := word cs
    (Scalar.ofWord? w).map (·, rest)

end ClusterDeploy.Toml
