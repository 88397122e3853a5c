import ClusterDeploy.Json.Basic
import ClusterDeploy.Yaml.Cursor
import ClusterDeploy.Yaml.Scalar
/-!
# Writing YAML

A value as a block document: mappings and sequences one entry a line, only empty ones in brackets.
A text stands plain where it reads back as itself, else in single quotes, else in double quotes, and
one of several lines as a literal block where the format allows that.
-/
namespace ClusterDeploy.Yaml

def isPrintable (c : Char) : Bool :=
  let n := c.toNat
  n == 10 || (0x20 ≤ n && n ≤ 0x7E) || (0xA0 ≤ n && n ≤ 0xD7FF) ||
    (0xE000 ≤ n && n ≤ 0xFFFD && n != 0xFEFF) || 0x10000 ≤ n

def separates (c : Char) : Bool := isGap c || isBreak c

def startsApart (cs : List Char) : Bool := cs.head?.all separates

/-- Somewhere after the first character a colon ends a word or a number sign begins one. -/
def hasInnerMark : (before : Char) → List Char → Bool
  | _, [] => false
  | before, c :: rest =>
    (c == ':' && startsApart rest) || (c == '#' && separates before) || hasInnerMark c rest

/-- Unquoted, the text would be read as structure. -/
def looksStructured : List Char → Bool
  | [] => false
  | cs@(c :: rest) =>
    cs.take 3 == ['-', '-', '-'] || cs.take 3 == ['.', '.', '.'] ||
      ['#', ',', '[', ']', '\x7b', '\x7d', '&', '*', '!', '|', '>', '\'', '"', '%', '@',
        '\x60'].contains c ||
      (['?', ':', '-'].contains c && startsApart rest) || hasInnerMark c rest

def hasPair (p q : Char → Bool) : List Char → Bool
  | c :: d :: rest => (p c && q d) || hasPair p q (d :: rest)
  | _ => false

def isSpace (c : Char) : Bool := c == ' '

def literalAllowed (cs : List Char) : Bool :=
  cs.all isPrintable && !hasPair isSpace isBreak cs && !cs.getLast?.any isSpace

def singleQuotesAllowed (cs : List Char) : Bool :=
  cs.all isPrintable && !hasPair isSpace isBreak cs && !hasPair isBreak isSpace cs

def plainAllowed (cs : List Char) : Bool :=
  singleQuotesAllowed cs && !cs.any isBreak && !looksStructured cs && !cs.head?.any isSpace &&
    !cs.getLast?.any isSpace

/-- Without quotes the text would not be read as a text. -/
def readsAsOther (s : String) : Bool :=
  match Scalar.ofPlain s with
  | .str _ => isPaddedDigits s.toList
  | _ => true

inductive TextStyle where
  | plain
  | single
  | double
  | literal
  deriving DecidableEq, Repr

def TextStyle.of (s : String) : TextStyle :=
  let cs := s.toList
  if cs.contains '\n' then if literalAllowed cs then .literal else .double
  else if !readsAsOther s && plainAllowed cs then .plain
  else if singleQuotesAllowed cs then .single
  else .double

def hexText (digits n : Nat) : List Char :=
  let ds := (Nat.toDigits 16 n).map fun c => if c.isAlpha then Char.ofNat (c.toNat - 32) else c
  List.replicate (digits - ds.length) '0' ++ ds

def escapeDouble (c : Char) : List Char :=
  let n := c.toNat
  if isPrintable c && !isBreak c && c != '"' && c != '\\' then [c]
  else
    '\\' ::
      match n with
      | 0 => ['0']
      | 7 => ['a']
      | 8 => ['b']
      | 9 => ['t']
      | 10 => ['n']
      | 11 => ['v']
      | 12 => ['f']
      | 13 => ['r']
      | 0x1B => ['e']
      | 0x22 => ['"']
      | 0x5C => ['\\']
      | 0x85 => ['N']
      | 0x2028 => ['L']
      | 0x2029 => ['P']
      | _ =>
        if n ≤ 0xFF then 'x' :: hexText 2 n
        else if n ≤ 0xFFFF then 'u' :: hexText 4 n
        else 'U' :: hexText 8 n

def pad (indent : Nat) : List Char := List.replicate indent ' '

/-- Lines are kept and indented where they start with a character. -/
def indentLines (indent : Nat) : (atStart : Bool) → List Char → List Char
  | _, [] => []
  | atStart, c :: rest =>
    if isBreak c then c :: indentLines indent true rest
    else (if atStart then pad indent else []) ++ c :: indentLines indent false rest

def doubleApostrophes (cs : List Char) : List Char :=
  cs.flatMap fun c => if c = '\'' then [c, c] else [c]

/-- What follows the bar of a literal block: the indentation where the text itself starts with a
blank, and whether the line ends after the text are dropped or all kept. -/
def literalHeader (cs : List Char) : List Char :=
  (if cs.head?.any fun c => isSpace c || isBreak c then ['2'] else []) ++
    match cs.reverse with
    | [] => ['-']
    | [c] => if isBreak c then ['+'] else ['-']
    | c :: d :: _ => if !isBreak c then ['-'] else if isBreak d then ['+'] else []

/-- A text inside a block whose entries stand at `indent`. -/
def textLayout (indent : Nat) (s : String) : List Char :=
  let cs := s.toList
  match TextStyle.of s with
  | .plain => cs
  | .single =>
    let inner := indentLines (indent + 2) false (doubleApostrophes cs)
    '\'' :: (inner ++ (if cs.getLast?.any isBreak then pad (indent + 2) else []) ++ ['\''])
  | .double => '"' :: (cs.flatMap escapeDouble ++ ['"'])
  | .literal => '|' :: (literalHeader cs ++ '\n' :: indentLines (indent + 2) true cs)

def endLine (cs : List Char) : List Char :=
  if cs.getLast? = some '\n' then cs else cs ++ ['\n']

inductive Position where
  | afterKey
  | afterMark
  deriving DecidableEq, Repr

/-- A key of one line that is not too long stands before its colon, any other one after a question
mark. -/
def keyPosition (s : String) : Position :=
  if s.toList.any isBreak || 128 < s.utf8ByteSize then .afterMark else .afterKey

/-- A key of a mapping at `indent`, up to its colon. -/
def keyLayout (indent : Nat) (s : String) : List Char :=
  match keyPosition s with
  | .afterKey => textLayout indent s ++ [':']
  | .afterMark => '?' :: ' ' :: endLine (textLayout indent s) ++ pad indent ++ [':']

mutual

/-- The lines of a value inside a block at `indent`, from where its key or mark ends. -/
def layout (indent : Nat) (place : Position) : Json → List Char
  | .null => " null\n".toList
  | .bool b => (if b then " true\n" else " false\n").toList
  | .num n => ' ' :: endLine n.text.toList
  | .str s => ' ' :: endLine (textLayout indent s)
  | .arr items =>
    if items.isEmpty then " []\n".toList
    else
      match place with
      | .afterKey => '\n' :: (pad indent ++ itemLines indent items)
      | .afterMark => ' ' :: itemLines (indent + 2) items
  | .obj members =>
    if members.isEmpty then " \x7b\x7d\n".toList
    else
      match place with
      | .afterKey => '\n' :: (pad (indent + 2) ++ memberLines (indent + 2) members)
      | .afterMark => ' ' :: memberLines (indent + 2) members

/-- The items of a sequence; the first one starts where the text stands already. -/
def itemLines (indent : Nat) : List Json → List Char
  | [] => []
  | item :: more =>
    '-' :: layout indent .afterMark item ++
      (if more.isEmpty then [] else pad indent ++ itemLines indent more)

/-- The members of a mapping; the first one starts where the text stands already. -/
def memberLines (indent : Nat) : List (String × Json) → List Char
  | [] => []
  | (name, value) :: more =>
    keyLayout indent name ++ layout indent (keyPosition name) value ++
      (if more.isEmpty then [] else pad indent ++ memberLines indent more)

end

def render (members : List (String × Json)) : String :=
  if members.isEmpty then "\x7b\x7d\n" else String.ofList (memberLines 0 members)

end ClusterDeploy.Yaml
