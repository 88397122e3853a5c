import ClusterDeploy.Number.Binary64
/-!
# JSON values

The value type, the look-up of members, and the compact text of a value.
-/
namespace ClusterDeploy

open Number

inductive Json where
  | null
  | bool (b : Bool)
  | num (n : Numeral)
  | str (s : String)
  | arr (items : List Json)
  | obj (members : List (String × Json))
  deriving Repr, Inhabited

namespace Json

mutual

def decEq : (a b : Json) → Decidable (a = b)
  | null, null => isTrue rfl
  | bool a, bool b => decidable_of_iff (a = b) (by simp)
  | num a, num b => decidable_of_iff (a = b) (by simp)
  | str a, str b => decidable_of_iff (a = b) (by simp)
  | arr a, arr b => @decidable_of_iff _ (a = b) (by simp) (decEqItems a b)
  | obj a, obj b => @decidable_of_iff _ (a = b) (by simp) (decEqMembers a b)
  | null, bool _ | null, num _ | null, str _ | null, arr _ | null, obj _
  | bool _, null | bool _, num _ | bool _, str _ | bool _, arr _ | bool _, obj _
  | num _, null | num _, bool _ | num _, str _ | num _, arr _ | num _, obj _
  | str _, null | str _, bool _ | str _, num _ | str _, arr _ | str _, obj _
  | arr _, null | arr _, bool _ | arr _, num _ | arr _, str _ | arr _, obj _
  | obj _, null | obj _, bool _ | obj _, num _ | obj _, str _ | obj _, arr _ => isFalse nofun

def decEqItems : (items others : List Json) → Decidable (items = others)
  | [], [] => isTrue rfl
  | [], _ :: _ | _ :: _, [] => isFalse nofun
  | a :: items, b :: others =>
    match decEq a b, decEqItems items others with
    | isTrue h, isTrue k => isTrue (by rw [h, k])
    | isFalse h, _ => isFalse fun e => h (List.cons.inj e).1
    | _, isFalse k => isFalse fun e => k (List.cons.inj e).2

def decEqMembers : (members others : List (String × Json)) → Decidable (members = others)
  | [], [] => isTrue rfl
  | [], _ :: _ | _ :: _, [] => isFalse nofun
  | (m, a) :: members, (n, b) :: others =>
    match decEq a b, decEqMembers members others with
    | isTrue h, isTrue k => decidable_of_iff (m = n) (by simp [h, k])
    | isFalse h, _ => isFalse fun e => h (Prod.mk.inj (List.cons.inj e).1).2
    | _, isFalse k => isFalse fun e => k (List.cons.inj e).2

end

instance : DecidableEq Json := decEq

/-- The last member of a name counts. -/
def lookup (name : String) (members : List (String × Json)) : Option Json :=
  (members.reverse.find? fun m => m.1 == name).map (·.2)

def member? : Json → String → Option Json
  | obj members, name => lookup name members
  | _, _ => none

def member (j : Json) (name : String) : Json := (j.member? name).getD null

def isNull : Json → Bool
  | null => true
  | _ => false

def str? : Json → Option String
  | str s => some s
  | _ => none

def int? : Json → Option Int
  | num (.int n) => some n
  | _ => none

def bool? : Json → Option Bool
  | bool b => some b
  | _ => none

def arr? : Json → Option (List Json)
  | arr items => some items
  | _ => none

def obj? : Json → Option (List (String × Json))
  | obj members => some members
  | _ => none

def ofNat (n : Nat) : Json := num (.int n)

def ofStrings (items : List String) : Json := arr (items.map str)

def ofOption (f : α → Json) : Option α → Json
  | none => null
  | some a => f a

def ofMembers (members : List (String × Option Json)) : Json :=
  obj (members.filterMap fun (name, value) => value.map (name, ·))

def hexDigit (n : Nat) : Char := if n < 10 then Char.ofNat (48 + n) else Char.ofNat (87 + n)

def hex4 (n : Nat) : List Char :=
  [hexDigit (n / 4096 % 16), hexDigit (n / 256 % 16), hexDigit (n / 16 % 16), hexDigit (n % 16)]

/-- Quotes, backslashes and control characters are escaped, nothing else. -/
def escapeChar (c : Char) : List Char :=
  if c = '"' then ['\\', '"']
  else if c = '\\' then ['\\', '\\']
  else if c = '\n' then ['\\', 'n']
  else if c = '\r' then ['\\', 'r']
  else if c = '\t' then ['\\', 't']
  else if c.toNat = 8 then ['\\', 'b']
  else if c.toNat = 12 then ['\\', 'f']
  else if c.toNat < 32 then '\\' :: 'u' :: hex4 c.toNat
  else [c]

def quote (s : String) : String :=
  String.ofList ('"' :: (s.toList.flatMap escapeChar ++ ['"']))

mutual

/-- The text of a value without any space. -/
def compact : Json → String
  | null => "null"
  | bool b => if b then "true" else "false"
  | num n => n.text
  | str s => quote s
  | arr items => "[" ++ compactItems items ++ "]"
  | obj members => "\x7b" ++ compactMembers members ++ "\x7d"

def compactItems : List Json → String
  | [] => ""
  | [item] => compact item
  | item :: next :: more => compact item ++ "," ++ compactItems (next :: more)

def compactMembers : List (String × Json) → String
  | [] => ""
  | [(name, value)] => quote name ++ ":" ++ compact value
  | (name, value) :: next :: more =>
    quote name ++ ":" ++ compact value ++ "," ++ compactMembers (next :: more)

end

/-- Inserts into a list sorted by name; a value of the same name is replaced. -/
def insertSorted (name : String) (value : Json) : List (String × Json) → List (String × Json)
  | [] => [(name, value)]
  | (n, v) :: more =>
    if name < n then (name, value) :: (n, v) :: more
    else if name = n then (name, value) :: more
    else (n, v) :: insertSorted name value more

def sortMembers (members : List (String × Json)) : List (String × Json) :=
  members.foldl (fun sorted (name, value) => insertSorted name value sorted) []

mutual

def sorted : Json → Json
  | arr items => arr (sortedItems items)
  | obj members => obj (sortMembers (sortedMembers members))
  | other => other

def sortedItems : List Json → List Json
  | [] => []
  | item :: more => item.sorted :: sortedItems more

def sortedMembers : List (String × Json) → List (String × Json)
  | [] => []
  | (name, value) :: more => (name, value.sorted) :: sortedMembers more

end

end Json

end ClusterDeploy
