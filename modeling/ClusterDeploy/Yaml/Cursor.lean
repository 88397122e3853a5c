import ClusterDeploy.Text.Blank
/-!
# A position in a YAML text

The characters still to be read with the line and column they start at, and the classes of
characters that YAML distinguishes.
-/
namespace ClusterDeploy.Yaml

structure Cursor where
  rest : List Char
  index : Nat := 0
  line : Nat := 0
  column : Nat := 0

def isBreak (c : Char) : Bool :=
  c == '\n' || c == '\r' || c == '\u0085' || c == '\u2028' || c == '\u2029'

def isGap (c : Char) : Bool := c == ' ' || c == '\t'

/-- The end of the text counts as a break. -/
def isBreakOrEnd : Option Char → Bool
  | none => true
  | some c => isBreak c

def isGapOrEnd : Option Char → Bool
  | none => true
  | some c => isGap c || isBreak c

def isWordChar (c : Char) : Bool :=
  ('a' ≤ c && c ≤ 'z') || ('A' ≤ c && c ≤ 'Z') || ('0' ≤ c && c ≤ '9') || c == '_' || c == '-'

def isAllowed (c : Char) : Bool :=
  let n := c.toNat
  n == 9 || n == 10 || n == 13 || (0x20 ≤ n && n ≤ 0x7E) || n == 0x85 ||
    (0xA0 ≤ n && n ≤ 0xFFFD) || 0x10000 ≤ n

namespace Cursor

def head? (p : Cursor) : Option Char := p.rest.head?

def at? (p : Cursor) (n : Nat) : Option Char := p.rest[n]?

def is (p : Cursor) (c : Char) : Bool := p.rest.head? == some c

/-- Passes one character that is no line break. -/
def skip (p : Cursor) : Cursor :=
  { p with rest := p.rest.drop 1, index := p.index + 1, column := p.column + 1 }

def skipMany (p : Cursor) (n : Nat) : Cursor :=
  { p with rest := p.rest.drop n, index := p.index + n, column := p.column + n }

/-- Passes a line break; it is read as a line feed unless it separates lines or paragraphs. -/
def takeBreak (p : Cursor) : List Char × Cursor :=
  let next (n : Nat) : Cursor :=
    { rest := p.rest.drop n, index := p.index + n, line := p.line + 1, column := 0 }
  match p.rest with
  | '\r' :: '\n' :: _ => (['\n'], next 2)
  | '\u2028' :: _ => (['\u2028'], next 1)
  | '\u2029' :: _ => (['\u2029'], next 1)
  | _ :: _ => (['\n'], next 1)
  | [] => ([], p)

def skipBreak (p : Cursor) : Cursor := p.takeBreak.2

/-- Passes the characters at the head that satisfy a test; none of them is a break. -/
def takeWhile (p : Cursor) (test : Char → Bool) : List Char × Cursor :=
  let taken := p.rest.takeWhile test
  (taken, p.skipMany taken.length)

/-- Three equal characters at the start of a line, on their own, mark a document. -/
def isMark (p : Cursor) (c : Char) : Bool :=
  p.column == 0 && p.rest.take 3 == [c, c, c] && isGapOrEnd (p.at? 3)

def isDocumentMark (p : Cursor) : Bool := p.isMark '-' || p.isMark '.'

end Cursor

end ClusterDeploy.Yaml
