import ClusterDeploy.Yaml.Cursor
/-!
# Scalars as they are written

Reading of plain, quoted and block scalars: where they end, and how their lines are folded into one
text. A reader gives the text and the position after it, or nothing when the scalar is malformed.
-/
namespace ClusterDeploy.Yaml

/-- What separates two words of a scalar: blanks on one line, or line breaks. -/
structure Gap where
  blanks : List Char := []
  /-- Some line break was passed. -/
  broken : Bool := false
  /-- The first break. -/
  first : List Char := []
  /-- The further breaks. -/
  more : List Char := []

/-- The text a gap stands for: a single line feed becomes a space, several lose the first. -/
def Gap.text (g : Gap) : List Char :=
  if g.broken then
    if g.first.head? == some '\n' then (if g.more.isEmpty then [' '] else g.more)
    else g.first ++ g.more
  else g.blanks

/-- Adds a break to a gap. -/
def Gap.addBreak (g : Gap) (br : List Char) : Gap :=
  if g.broken then { g with more := g.more ++ br }
  else { blanks := [], broken := true, first := br }

/-- Passes blanks and breaks. A tab must not stand for indentation: in a plain scalar it fails when
it starts a line before column `indent`. -/
def readGap (indent : Nat) : (fuel : Nat) → Gap → Cursor → Option (Gap × Cursor)
  | 0, g, p => some (g, p)
  | fuel + 1, g, p =>
    match p.head? with
    | none => some (g, p)
    | some c =>
      if isGap c then
        if g.broken && p.column < indent && c == '\t' then none
        else
          readGap indent fuel (if g.broken then g else { g with blanks := g.blanks ++ [c] }) p.skip
      else if isBreak c then
        let (br, p) := p.takeBreak
        readGap indent fuel (g.addBreak br) p
      else some (g, p)

/-! ## Plain scalars -/

def isFlowMark (c : Char) : Bool := [',', '[', ']', '\x7b', '\x7d'].contains c

def endsPlain (inFlow : Bool) (c : Char) (next : Option Char) : Bool :=
  (c == ':' && isGapOrEnd next) || (inFlow && isFlowMark c)

/-- The characters up to the next blank, break or end; fails on a colon glued to a flow mark. -/
def readPlainWord (inFlow : Bool) : (fuel : Nat) → (seen : List Char) → Cursor →
    Option (List Char × Cursor × Bool)
  | 0, seen, p => some (seen.reverse, p, true)
  | fuel + 1, seen, p =>
    match p.rest with
    | [] => some (seen.reverse, p, true)
    | c :: rest =>
      if isGap c || isBreak c then some (seen.reverse, p, false)
      else if inFlow && c == ':' && rest.head?.any fun d => isFlowMark d || d == '?' then none
      else if endsPlain inFlow c rest.head? then some (seen.reverse, p, true)
      else readPlainWord inFlow fuel (c :: seen) p.skip

/-- Reads words until one ends the scalar. Besides the text this tells whether a line was ended,
after which a new key may start. -/
def readPlain (inFlow : Bool) (indent : Nat) : (fuel : Nat) → (text : List Char) → Gap → Cursor →
    Option (List Char × Cursor × Bool)
  | 0, text, g, p => some (text, p, g.broken)
  | fuel + 1, text, g, p =>
    if p.isDocumentMark || p.is '#' then some (text, p, g.broken)
    else
      match readPlainWord inFlow (p.rest.length + 1) [] p with
      | none => none
      | some (word, p, done) =>
        let started := !word.isEmpty
        let text := if started then text ++ g.text ++ word else text
        let g := if started then {} else g
        if done then some (text, p, g.broken)
        else
          match readGap indent (p.rest.length + 1) g p with
          | none => none
          | some (g, p) =>
            if !inFlow && p.column < indent then some (text, p, g.broken)
            else readPlain inFlow indent fuel text g p

/-! ## Quoted scalars -/

def hexDigit? (c : Char) : Option Nat :=
  let n := c.toNat
  if 48 ≤ n && n ≤ 57 then some (n - 48)
  else if 97 ≤ n && n ≤ 102 then some (n - 87)
  else if 65 ≤ n && n ≤ 70 then some (n - 55)
  else none

def hexChar? (digits : List Char) (count : Nat) : Option Char := do
  if digits.length < count then none
  let n ← (digits.take count).foldl (fun n d => return (← n) * 16 + (← hexDigit? d)) (some 0)
  if (0xD800 ≤ n && n ≤ 0xDFFF) || 0x10FFFF < n then none else some (Char.ofNat n)

def escapeChar? : Char → Option Char
  | '0' => some (Char.ofNat 0)
  | 'a' => some (Char.ofNat 7)
  | 'b' => some (Char.ofNat 8)
  | 't' | '\t' => some '\t'
  | 'n' => some '\n'
  | 'v' => some (Char.ofNat 11)
  | 'f' => some (Char.ofNat 12)
  | 'r' => some '\r'
  | 'e' => some (Char.ofNat 27)
  | ' ' => some ' '
  | '"' => some '"'
  | '/' => some '/'
  | '\\' => some '\\'
  | 'N' => some '\u0085'
  | '_' => some '\u00A0'
  | 'L' => some '\u2028'
  | 'P' => some '\u2029'
  | _ => none

def escapeWidth : Char → Nat
  | 'x' => 2
  | 'u' => 4
  | 'U' => 8
  | _ => 0

/-- The characters up to a blank, a break, an escaped break or the closing quote. The last part
tells whether an escaped break was passed. -/
def readQuotedWord (single : Bool) : (fuel : Nat) → (seen : List Char) → Cursor →
    Option (List Char × Cursor × Bool)
  | 0, _, _ => none
  | fuel + 1, seen, p =>
    match p.rest with
    | [] => some (seen.reverse, p, false)
    | c :: rest =>
      if isGap c || isBreak c then some (seen.reverse, p, false)
      else if single && c == '\'' then
        if rest.head? == some '\'' then readQuotedWord single fuel ('\'' :: seen) (p.skipMany 2)
        else some (seen.reverse, p, false)
      else if !single && c == '"' then some (seen.reverse, p, false)
      else if !single && c == '\\' then
        match rest with
        | [] => none
        | e :: digits =>
          if isBreak e then some (seen.reverse, p.skip.skipBreak, true)
          else if escapeWidth e = 0 then
            match escapeChar? e with
            | some d => readQuotedWord single fuel (d :: seen) (p.skipMany 2)
            | none => none
          else
            match hexChar? digits (escapeWidth e) with
            | some d => readQuotedWord single fuel (d :: seen) (p.skipMany (2 + escapeWidth e))
            | none => none
      else readQuotedWord single fuel (c :: seen) p.skip

def readQuoted (single : Bool) : (fuel : Nat) → (text : List Char) → Cursor →
    Option (List Char × Cursor)
  | 0, _, _ => none
  | fuel + 1, text, p =>
    if p.isDocumentMark || p.rest.isEmpty then none
    else
      match readQuotedWord single (p.rest.length + 1) [] p with
      | none => none
      | some (word, p, escaped) =>
        let text := text ++ word
        if p.is (if single then '\'' else '"') then some (text, p.skip)
        else
          match readGap 0 (p.rest.length + 1) { broken := escaped } p with
          | none => none
          | some (g, p) => readQuoted single fuel (text ++ g.text) p

/-! ## Block scalars -/

inductive Chomping where
  | strip
  | clip
  | keep
  deriving DecidableEq

/-- Passes the indentation of lines and the breaks of empty ones. Without a known indentation the
deepest one seen counts, and tabs are refused in it. -/
def readBlockBreaks (indent : Nat) : (fuel deepest : Nat) → (breaks : List Char) → Cursor →
    Option (Nat × List Char × Cursor)
  | 0, _, _, _ => none
  | fuel + 1, deepest, breaks, p =>
    match p.head? with
    | some ' ' =>
      if indent = 0 || p.column < indent then readBlockBreaks indent fuel deepest breaks p.skip
      else some (max deepest p.column, breaks, p)
    | some '\t' =>
      if indent = 0 || p.column < indent then none else some (max deepest p.column, breaks, p)
    | some c =>
      if isBreak c then
        let (br, q) := p.takeBreak
        readBlockBreaks indent fuel (max deepest p.column) (breaks ++ br) q
      else some (max deepest p.column, breaks, p)
    | none => some (max deepest p.column, breaks, p)

structure BlockText where
  text : List Char := []
  /-- The break that ended the last line. -/
  ending : List Char := []
  /-- The breaks of empty lines after it. -/
  trailing : List Char := []
  /-- The last line started with a blank. -/
  indented : Bool := false

def BlockText.join (literal nextIndented : Bool) (b : BlockText) : List Char :=
  if !literal && b.ending.head? == some '\n' && !b.indented && !nextIndented then
    b.text ++ (if b.trailing.isEmpty then [' '] else []) ++ b.trailing
  else b.text ++ b.ending ++ b.trailing

def readBlockLines (literal : Bool) (indent : Nat) : (fuel : Nat) → BlockText → Cursor →
    Option (BlockText × Cursor)
  | 0, _, _ => none
  | fuel + 1, b, p =>
    if p.column != indent || p.rest.isEmpty then some (b, p)
    else
      let nextIndented := p.head?.any isGap
      let (line, p) := p.takeWhile fun c => !isBreak c
      let text := b.join literal nextIndented ++ line
      let (ending, p) := p.takeBreak
      match readBlockBreaks indent (p.rest.length + 1) 0 [] p with
      | none => none
      | some (_, trailing, p) =>
        readBlockLines literal indent fuel { text, ending, trailing, indented := nextIndented } p

def readBlockHeader (p : Cursor) : Option (Chomping × Nat × Cursor) :=
  let chomping? (p : Cursor) : Option (Chomping × Cursor) :=
    if p.is '+' then some (.keep, p.skip) else if p.is '-' then some (.strip, p.skip) else none
  let digit? (p : Cursor) : Option (Nat × Cursor) :=
    match p.head? with
    | some c => if '0' ≤ c && c ≤ '9' then some (c.toNat - 48, p.skip) else none
    | none => none
  let (chomping, indent, p) :=
    match chomping? p with
    | some (chomping, p) =>
      match digit? p with
      | some (n, p) => (chomping, some n, p)
      | none => (chomping, none, p)
    | none =>
      match digit? p with
      | some (n, p) =>
        match chomping? p with
        | some (chomping, p) => (chomping, some n, p)
        | none => (.clip, some n, p)
      | none => (.clip, none, p)
  if indent == some 0 then none
  else
    let p := (p.takeWhile isGap).2
    let p := if p.is '#' then (p.takeWhile fun c => !isBreak c).2 else p
    if isBreakOrEnd p.head? then some (chomping, indent.getD 0, p.skipBreak) else none

/-- Reads a block scalar after its indicator; `parent` is the indentation around it, one more than
its column. -/
def readBlock (literal : Bool) (parent : Nat) (p : Cursor) : Option (List Char × Cursor) := do
  let (chomping, explicit, p) ← readBlockHeader p
  let known := if explicit = 0 then 0 else (parent - 1) + explicit
  let (deepest, leading, p) ← readBlockBreaks known (p.rest.length + 1) 0 [] p
  let indent := if known = 0 then max (max deepest parent) 1 else known
  let (b, p) ← readBlockLines literal indent (p.rest.length + 1) { trailing := leading } p
  let text := if chomping == .strip then b.text else b.text ++ b.ending
  return (if chomping == .keep then text ++ b.trailing else text, p)

end ClusterDeploy.Yaml
