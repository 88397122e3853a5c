import ClusterDeploy.Yaml.Text
/-!
# YAML tokens

Cuts a text into tokens. The indentation of block collections is made explicit by start and end
tokens. A key before a colon is only recognised at the colon, so the scanner remembers for every
level of flow nesting where a key could have started, on one line and within 1024 characters.
-/
namespace ClusterDeploy.Yaml

inductive Token where
  | versionDirective
  | tagDirective (handle start : String)
  | documentStart
  | documentEnd
  | blockSequenceStart
  | blockMappingStart
  | blockEnd
  | flowSequenceStart
  | flowSequenceEnd
  | flowMappingStart
  | flowMappingEnd
  | blockEntry
  | flowEntry
  | key
  | value
  | alias (name : String)
  | anchor (name : String)
  | tag (handle suffix : String)
  | scalar (plain : Bool) (text : String)
  | streamEnd
  deriving DecidableEq, Repr

structure KeyCandidate where
  /-- The number of tokens before it. -/
  number : Nat
  index : Nat
  line : Nat
  column : Nat
  /-- The line can only go on if it is a key. -/
  required : Bool

structure Scanner where
  pos : Cursor
  /-- The tokens so far, the last one first. -/
  tokens : List Token := []
  count : Nat := 0
  /-- The columns of the open block collections, the innermost first. -/
  indents : List Nat := []
  /-- One candidate for each level of flow nesting and one for the block level. -/
  keys : List (Option KeyCandidate) := [none]
  /-- A key may start here. -/
  keyAllowed : Bool := true

namespace Scanner

def inFlow (s : Scanner) : Bool := 1 < s.keys.length

/-- One more than the column of the innermost block collection. -/
def indent (s : Scanner) : Nat :=
  match s.indents with
  | [] => 0
  | column :: _ => column + 1

def push (s : Scanner) (t : Token) : Scanner :=
  { s with tokens := t :: s.tokens, count := s.count + 1 }

def insertAt (s : Scanner) (number : Nat) (t : Token) : Scanner :=
  let later := s.count - number
  { s with tokens := s.tokens.take later ++ t :: s.tokens.drop later, count := s.count + 1 }

def allow (s : Scanner) (b : Bool) : Scanner := { s with keyAllowed := b }

def move (s : Scanner) (p : Cursor) : Scanner := { s with pos := p }

/-- Passes blanks, comments and line breaks. Tabs do not indent: they are passed only where no key
can start. -/
def skipSpace : (fuel : Nat) → Scanner → Scanner
  | 0, s => s
  | fuel + 1, s =>
    match s.pos.head? with
    | none => s
    | some c =>
      if s.pos.column == 0 && c == '\uFEFF' then skipSpace fuel (s.move s.pos.skip)
      else if c == ' ' || (c == '\t' && (s.inFlow || !s.keyAllowed)) then
        skipSpace fuel (s.move s.pos.skip)
      else if c == '#' then skipSpace fuel (s.move (s.pos.takeWhile fun d => !isBreak d).2)
      else if isBreak c then
        let s := s.move s.pos.skipBreak
        skipSpace fuel (if s.inFlow then s else s.allow true)
      else s

/-- A candidate on an earlier line or too far back is none any more. -/
def refreshKey (p : Cursor) : Option KeyCandidate → Option (Option KeyCandidate)
  | none => some none
  | some k =>
    if k.line < p.line || k.index + 1024 < p.index then if k.required then none else some none
    else some (some k)

def refreshKeys (s : Scanner) : Option Scanner :=
  (s.keys.mapM (refreshKey s.pos)).map fun keys => { s with keys }

def unroll (s : Scanner) (column : Nat) : Scanner :=
  if s.inFlow then s
  else
    let closed := s.indents.takeWhile fun c => column < c
    { s with
      indents := s.indents.drop closed.length
      tokens := List.replicate closed.length .blockEnd ++ s.tokens
      count := s.count + closed.length }

def unrollAll (s : Scanner) : Scanner :=
  if s.inFlow then s
  else
    { s with
      indents := []
      tokens := List.replicate s.indents.length .blockEnd ++ s.tokens
      count := s.count + s.indents.length }

def roll (s : Scanner) (column number : Nat) (t : Token) : Scanner :=
  if s.inFlow || column < s.indent then s
  else { s.insertAt number t with indents := column :: s.indents }

/-- Forgets the candidate of this level; a required one must not be forgotten. -/
def dropKey (s : Scanner) : Option Scanner :=
  match s.keys with
  | some k :: more => if k.required then none else some { s with keys := none :: more }
  | _ => some s

def saveKey (s : Scanner) : Option Scanner :=
  if s.keyAllowed then do
    let s ← s.dropKey
    let p := s.pos
    let k : KeyCandidate :=
      { number := s.count, index := p.index, line := p.line, column := p.column
        required := !s.inFlow && s.indents.head? == some p.column }
    return { s with keys := some k :: s.keys.drop 1 }
  else some s

def openFlow (s : Scanner) (t : Token) : Option Scanner := do
  let s ← s.saveKey
  return ({ s with keys := none :: s.keys }.allow true).move s.pos.skip |>.push t

def closeFlow (s : Scanner) (t : Token) : Option Scanner := do
  let s ← s.dropKey
  let keys := if s.inFlow then s.keys.drop 1 else s.keys
  return ({ s with keys }.allow false).move s.pos.skip |>.push t

/-- A dash or a question mark that opens an entry or a key of a block collection. -/
def blockMark (s : Scanner) (start t : Token) (allowAfter : Bool) : Option Scanner :=
  if s.inFlow then do
    let s ← s.dropKey
    return ((s.allow allowAfter).move s.pos.skip).push t
  else if !s.keyAllowed then none
  else do
    let s ← (s.roll s.pos.column s.count start).dropKey
    return ((s.allow allowAfter).move s.pos.skip).push t

def valueMark (s : Scanner) : Option Scanner :=
  match s.keys with
  | some k :: more =>
    let s := { s with keys := none :: more }.insertAt k.number .key
    let s := s.roll k.column k.number .blockMappingStart
    some (((s.allow false).move s.pos.skip).push .value)
  | _ =>
    if s.inFlow then some (((s.allow false).move s.pos.skip).push .value)
    else if !s.keyAllowed then none
    else
      let s := s.roll s.pos.column s.count .blockMappingStart
      some (((s.allow true).move s.pos.skip).push .value)

def endLine (p : Cursor) : Option Cursor :=
  let p := (p.takeWhile isGap).2
  let p := if p.is '#' then (p.takeWhile fun c => !isBreak c).2 else p
  if isBreakOrEnd p.head? then some p.skipBreak else none

def isUriChar (verbatim : Bool) (c : Char) : Bool :=
  isWordChar c || ";/?:@&=+$.!~*'()%".toList.contains c || (verbatim && ",[]".toList.contains c)

/-- The text of a tag after its handle, where `%` escapes octets. -/
def uriText (cs : List Char) : Option String :=
  let rec octets : List Char → Option (List UInt8)
    | [] => some []
    | '%' :: a :: b :: rest => do
      return UInt8.ofNat ((← hexDigit? a) * 16 + (← hexDigit? b)) :: (← octets rest)
    | '%' :: _ => none
    | c :: rest => do return (c.toString.toUTF8.toList) ++ (← octets rest)
  do String.fromUTF8? (ByteArray.mk (← octets cs).toArray)

def tagHandle (p : Cursor) : List Char × Cursor :=
  let (word, q) := p.skip.takeWhile isWordChar
  if q.is '!' then ('!' :: word ++ ['!'], q.skip) else ('!' :: word, q)

def directive (s : Scanner) : Option Scanner := do
  let s ← s.unrollAll.dropKey
  let s := s.allow false
  let (name, p) := s.pos.skip.takeWhile isWordChar
  if name.isEmpty || !isGapOrEnd p.head? then none
  let p := (p.takeWhile isGap).2
  if name == "YAML".toList then
    let isDigit (c : Char) : Bool := '0' ≤ c && c ≤ '9'
    let (major, p) := p.takeWhile isDigit
    if major.isEmpty || !p.is '.' then none
    let (minor, p) := p.skip.takeWhile isDigit
    if minor.isEmpty || major != ['1'] || !(minor == ['1'] || minor == ['2']) then none
    return (s.move (← endLine p)).push .versionDirective
  else if name == "TAG".toList then
    let (handle, p) := tagHandle p
    if !isGapOrEnd p.head? then none
    let (start, p) := (p.takeWhile isGap).2.takeWhile (isUriChar true)
    if start.isEmpty || !isGapOrEnd p.head? then none
    let start ← uriText start
    return (s.move (← endLine p)).push (.tagDirective (String.ofList handle) start)
  else none

def anchorOrAlias (s : Scanner) (make : String → Token) : Option Scanner := do
  let s := (← s.saveKey).allow false
  let (name, p) := s.pos.skip.takeWhile isWordChar
  let ends := isGapOrEnd p.head? || p.head?.any fun c => "?:,]\x7d%@\x60".toList.contains c
  if name.isEmpty || !ends then none
  return (s.move p).push (make (String.ofList name))

def tagMark (s : Scanner) : Option Scanner := do
  let s := (← s.saveKey).allow false
  let (token, p) ←
    if s.pos.at? 1 == some '<' then do
      let (uri, p) := (s.pos.skipMany 2).takeWhile (isUriChar true)
      if uri.isEmpty || !p.is '>' then none
      pure (Token.tag "" (← uriText uri), p.skip)
    else do
      let (handle, p) := tagHandle s.pos
      let named := 1 < handle.length && handle.getLast? == some '!'
      let (uri, p) := p.takeWhile (isUriChar false)
      if named then
        if uri.isEmpty then none
        pure (Token.tag (String.ofList handle) (← uriText uri), p)
      else
        let suffix ← uriText (handle.drop 1 ++ uri)
        pure (if suffix.isEmpty then Token.tag "" "!" else Token.tag "!" suffix, p)
  let ends := isGapOrEnd p.head? || (s.inFlow && p.is ',')
  if ends then return (s.move p).push token else none

def blockScalar (s : Scanner) (literal : Bool) : Option Scanner := do
  let s := (← s.dropKey).allow true
  let (text, p) ← readBlock literal s.indent s.pos.skip
  return (s.move p).push (.scalar false (String.ofList text))

def quotedScalar (s : Scanner) (single : Bool) : Option Scanner := do
  let s := (← s.saveKey).allow false
  let (text, p) ← readQuoted single (s.pos.rest.length + 1) [] s.pos.skip
  return (s.move p).push (.scalar false (String.ofList text))

def plainScalar (s : Scanner) : Option Scanner := do
  let s := (← s.saveKey).allow false
  let (text, p, broken) ← readPlain s.inFlow s.indent (s.pos.rest.length + 1) [] {} s.pos
  let s := if broken then s.allow true else s
  return (s.move p).push (.scalar true (String.ofList text))

def isIndicator (c : Char) : Bool := "-?:,[]\x7b\x7d#&*!|>'\"%@\x60".toList.contains c

/-- Reads the next token; the part after a document is closed by the end of the stream. -/
def next (s : Scanner) : Option Scanner := do
  let s ← (s.skipSpace (s.pos.rest.length + 1)).refreshKeys
  let s := s.unroll s.pos.column
  let p := s.pos
  match p.rest with
  | [] =>
    let s ← s.unrollAll.dropKey
    return (s.allow false).push .streamEnd
  | c :: rest =>
    let gapAfter := isGapOrEnd rest.head?
    if p.column == 0 && c == '%' then s.directive
    else if p.isDocumentMark then
      let s ← s.unrollAll.dropKey
      return ((s.allow false).move (p.skipMany 3)).push
        (if c == '-' then .documentStart else .documentEnd)
    else if c == '[' then s.openFlow .flowSequenceStart
    else if c == '\x7b' then s.openFlow .flowMappingStart
    else if c == ']' then s.closeFlow .flowSequenceEnd
    else if c == '\x7d' then s.closeFlow .flowMappingEnd
    else if c == ',' then
      let s ← s.dropKey
      return ((s.allow true).move p.skip).push .flowEntry
    else if c == '-' && gapAfter then s.blockMark .blockSequenceStart .blockEntry true
    else if c == '?' && (s.inFlow || gapAfter) then
      s.blockMark .blockMappingStart .key (!s.inFlow)
    else if c == ':' && (s.inFlow || gapAfter) then s.valueMark
    else if c == '*' then s.anchorOrAlias .alias
    else if c == '&' then s.anchorOrAlias .anchor
    else if c == '!' then s.tagMark
    else if c == '|' && !s.inFlow then s.blockScalar true
    else if c == '>' && !s.inFlow then s.blockScalar false
    else if c == '\'' then s.quotedScalar true
    else if c == '"' then s.quotedScalar false
    else if !(isGap c || isBreak c || isIndicator c) || (c == '-' && !rest.head?.any isGap) ||
        (!s.inFlow && (c == '?' || c == ':') && !gapAfter) then s.plainScalar
    else none

/-- Reads tokens up to the end of the stream or to the first fault; every step passes a character
or ends. -/
def run : (fuel : Nat) → Scanner → List Token
  | 0, s => s.tokens.reverse
  | fuel + 1, s =>
    match s.next with
    | none => s.tokens.reverse
    | some s =>
      match s.tokens with
      | .streamEnd :: _ => s.tokens.reverse
      | _ => run fuel s

end Scanner

/-- The tokens of a text up to the first fault; without one the last token is the end of the stream.
A text with characters that are not allowed has no token at all. -/
def tokensOf (text : List Char) : List Token :=
  let text :=
    match text with
    | '\uFEFF' :: rest => rest
    | other => other
  if text.all isAllowed then Scanner.run (text.length + 2) { pos := { rest := text } } else []

end ClusterDeploy.Yaml
