import ClusterDeploy.Text.Blank
/-!
# Timestamps

Moments as the cluster writes them: a date, a time of day with an optional fraction, and an offset.
They are written back in universal time, in whole seconds.
-/
namespace ClusterDeploy.Timestamp

open Text

def isDigit (c : Char) : Bool := '0' ≤ c && c ≤ '9'

def value (ds : List Char) : Nat := ds.foldl (fun n d => n * 10 + (d.toNat - 48)) 0

def number (most : Nat) (cs : List Char) : Option (Nat × List Char) :=
  let cs := trimLeft cs
  let ds := (cs.takeWhile isDigit).take most
  if ds.isEmpty then none else some (value ds, cs.drop ds.length)

def expect (c : Char) : List Char → Option (List Char)
  | d :: rest => if c = d then some rest else none
  | [] => none

def isLeap (year : Int) : Bool := year % 4 == 0 && (year % 100 != 0 || year % 400 == 0)

def monthLength (year : Int) (month : Nat) : Nat :=
  match month with
  | 4 | 6 | 9 | 11 => 30
  | 2 => if isLeap year then 29 else 28
  | _ => 31

/-- Days since the first of March of year zero; the year is counted from March on. -/
def dayNumber (year : Int) (month day : Nat) : Int :=
  let y := if month ≤ 2 then year - 1 else year
  let m : Int := (month + 9) % 12
  365 * y + y / 4 - y / 100 + y / 400 + (153 * m + 2) / 5 + day - 1

def dateOf (n : Int) : Int × Int × Int :=
  let era := n / 146097
  let doe := n % 146097
  let yoe := (doe - doe / 1460 + doe / 36524 - doe / 146096) / 365
  let doy := doe - (365 * yoe + yoe / 4 - yoe / 100)
  let mp := (5 * doy + 2) / 153
  let month := if mp < 10 then mp + 3 else mp - 9
  let year := yoe + era * 400 + (if month ≤ 2 then 1 else 0)
  (year, month, doy - (153 * mp + 2) / 5 + 1)

def pad (width : Nat) (n : Int) : String :=
  let ds := toString n.toNat
  String.ofList (List.replicate (width - ds.length) '0') ++ ds

def readOffset (cs : List Char) : Option Int :=
  match trimLeft cs with
  | ['Z'] | ['z'] => some 0
  | 'U' :: 'T' :: 'C' :: [] => some 0
  | sign :: h1 :: h2 :: rest =>
    if (sign == '+' || sign == '-' || sign == '\u2212') && isDigit h1 && isDigit h2 then
      match rest.dropWhile fun c => c == ':' || isBlank c with
      | [m1, m2] =>
        if isDigit m1 && isDigit m2 && m1 < '6' && value [h1, h2] < 24 then
          let s : Int := value [h1, h2] * 3600 + value [m1, m2] * 60
          some (if sign == '+' then s else -s)
        else none
      | _ => none
    else none
  | _ => none

def dropFraction : List Char → Option (List Char)
  | '.' :: rest =>
    if (rest.takeWhile isDigit).isEmpty then none else some (rest.dropWhile isDigit)
  | cs => some cs

def read? (text : String) : Option Int := do
  let (year, rest) ← number 4 text.toList
  let (month, rest) ← number 2 (← expect '-' rest)
  let (day, rest) ← number 2 (← expect '-' rest)
  let rest ←
    match rest with
    | c :: rest => if c == 'T' || c == 't' || c == ' ' then some rest else none
    | [] => none
  let (hour, rest) ← number 2 rest
  let (minute, rest) ← number 2 (← expect ':' rest)
  let (second, rest) ← number 2 (← expect ':' rest)
  let offset ← readOffset (← dropFraction rest)
  if month < 1 || 12 < month || day < 1 || monthLength year month < day || 23 < hour ||
      59 < minute || 60 < second then none
  else
    let second := min second 59
    return dayNumber year month day * 86400 + (hour * 3600 + minute * 60 + second : Nat) - offset

def write (seconds : Int) : String :=
  let (year, month, day) := dateOf (seconds / 86400)
  let s := seconds % 86400
  s!"{pad 4 year}-{pad 2 month}-{pad 2 day}T" ++
    s!"{pad 2 (s / 3600)}:{pad 2 (s / 60 % 60)}:{pad 2 (s % 60)}Z"

/-- A timestamp as it is written back, none when the text is not one. -/
def normalize? (text : String) : Option String := (read? text).map write

end ClusterDeploy.Timestamp
