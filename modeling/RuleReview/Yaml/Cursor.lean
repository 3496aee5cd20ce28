import RuleReview.Text.Digit
import RuleReview.Yaml.Problem

/-! # A place in a YAML text

A cursor is the text that is left, with the index, line and column where it starts. Five characters break
lines; the first three read as a line feed.
-/
namespace RuleReview.Yaml

structure Cursor where
  rest : Text
  index : Nat := 0
  line : Nat := 0
  column : Nat := 0

def isBreak (c : Char) : Bool := c = '\n' || c = '\r' || c = '\x85' || c = '\u2028' || c = '\u2029'

def isGap (c : Char) : Bool := c = ' ' || c = '\t'

def endsLine (c : Option Char) : Bool := c.all isBreak

def endsField (c : Option Char) : Bool := c.all fun c => c = ' ' || isBreak c

def endsWord (c : Option Char) : Bool := c.all fun c => isGap c || isBreak c

def isNameChar (c : Char) : Bool := c.isAlphanum || c = '-' || c = '_'

namespace Cursor

def ofText (s : Text) : Cursor := ⟨s, 0, 0, 0⟩

def peek (c : Cursor) (k : Nat) : Option Char := c.rest[k]?

def here (c : Cursor) : Option Char := c.rest.head?

/-- Past one character. A carriage return before a line feed does not end the line yet; a byte order mark
has no width. -/
def next (c : Cursor) : Cursor :=
  match c.rest with
  | [] => c
  | d :: rest =>
    if isBreak d && !(d = '\r' && rest.head? = some '\n') then ⟨rest, c.index + 1, c.line + 1, 0⟩
    else ⟨rest, c.index + 1, c.line, if d = '\uFEFF' then c.column else c.column + 1⟩

def forward : Nat → Cursor → Cursor
  | 0, c => c
  | n + 1, c => forward n c.next

def span (c : Cursor) (p : Char → Bool) : Text × Cursor :=
  let taken := c.rest.takeWhile p
  (taken, c.forward taken.length)

def skip (c : Cursor) (p : Char → Bool) : Cursor := (c.span p).2

def skipSpaces (c : Cursor) : Cursor := c.skip (· == ' ')

/-- One line break: the character that it reads as, and the place after it. -/
def lineBreak? (c : Cursor) : Option (Char × Cursor) :=
  match c.rest with
  | '\r' :: '\n' :: _ => some ('\n', c.forward 2)
  | d :: _ =>
    if d = '\u2028' ∨ d = '\u2029' then some (d, c.next)
    else if isBreak d then some ('\n', c.next) else none
  | [] => none

def afterBreak (c : Cursor) : Cursor := c.lineBreak?.elim c (·.2)

def indentation (c : Cursor) (column : Nat) : Cursor :=
  c.forward (min (column - c.column) (c.rest.takeWhile (· == ' ')).length)

def atMark (c : Cursor) (mark : Text) : Bool := mark.isPrefixOf c.rest && endsWord (c.peek 3)

def atDocumentMark (c : Cursor) : Bool := c.atMark "---".toList || c.atMark "...".toList

def blankLine? (c : Cursor) : Option Cursor :=
  let c := c.skipSpaces
  let c := if c.here = some '#' then c.skip (!isBreak ·) else c
  if endsLine c.here then some c.afterBreak else none

end Cursor

end RuleReview.Yaml
