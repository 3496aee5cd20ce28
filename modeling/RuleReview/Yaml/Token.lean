import RuleReview.Yaml.Property

/-! # The tokens of a YAML text

Indentation becomes tokens that start and end blocks. A key without its sign is recognised only when the `:`
after it is reached, so the place of each key that may still turn out to be one is kept; such a key stays
within a line and 1024 characters. Before a fault, the tokens are those whose place is settled.
-/
namespace RuleReview.Yaml

inductive Token where
  | directive (d : Directive)
  | documentStart
  | documentEnd
  | blockSequence
  | blockMapping
  | blockEnd
  | flowSequence
  | flowSequenceEnd
  | flowMapping
  | flowMappingEnd
  | flowEntry
  | entry
  | key
  | value
  | reference (name : Text)
  | anchor (name : Text)
  | tag (name : TagName)
  | scalar (text : Glyphs) (plain : Bool)
  | finish

structure Tokens where
  tokens : List Token
  fault : Option Problem := none

structure KeyPlace where
  position : Nat
  required : Bool
  index : Nat
  line : Nat
  column : Nat

/-- The state between tokens, of which the last is first: `indents` are the columns of the open blocks, innermost
first, above the outermost one, which is before the first column. -/
structure Scan where
  cursor : Cursor
  tokens : List Token := []
  count : Nat := 0
  flow : Nat := 0
  indents : List Int := [-1]
  keyAllowed : Bool := true
  keys : List (Nat × KeyPlace) := []

namespace Scan

def keyReach : Nat := 1024

def indent (s : Scan) : Int := s.indents.headD (-1)

def emit (s : Scan) (t : Token) : Scan := { s with tokens := t :: s.tokens, count := s.count + 1 }

def unwind (s : Scan) (column : Int) : Scan :=
  if s.flow = 0 then
    let closed := s.indents.takeWhile fun i => column < i
    { s with
      indents := s.indents.drop closed.length
      tokens := List.replicate closed.length .blockEnd ++ s.tokens
      count := s.count + closed.length }
  else s

def openBlock? (s : Scan) (column : Nat) : Option Scan :=
  if s.indent < column then some { s with indents := (column : Int) :: s.indents } else none

def isStale (s : Scan) (k : KeyPlace) : Bool :=
  k.line != s.cursor.line || keyReach < s.cursor.index - k.index

/-- A key that can no longer be one is forgotten; one that had to be a key is a fault. -/
def dropStale (s : Scan) : Except Problem Scan :=
  if s.keys.any fun k => s.isStale k.2 && k.2.required then .error .malformed
  else .ok { s with keys := s.keys.filter fun k => !s.isStale k.2 }

def dropKey (s : Scan) : Except Problem Scan :=
  if (s.keys.lookup s.flow).any (·.required) then .error .malformed
  else .ok { s with keys := s.keys.filter (·.1 != s.flow) }

def saveKey (s : Scan) : Except Problem Scan :=
  if s.keyAllowed then do
    let c := s.cursor
    let required := s.flow = 0 && s.indent == (c.column : Int)
    let s ← s.dropKey
    return { s with keys := s.keys ++ [(s.flow, ⟨s.count, required, c.index, c.line, c.column⟩)] }
  else .ok s

/-- Past spaces, comments and line breaks; after a line break of a block a key may start. -/
def toNext : Nat → Scan → Scan
  | 0, s => s
  | fuel + 1, s =>
    let c := s.cursor.skipSpaces
    let c := if c.here = some '#' then c.skip (!isBreak ·) else c
    match c.lineBreak? with
    | some (_, c) => toNext fuel { s with cursor := c, keyAllowed := s.keyAllowed || s.flow = 0 }
    | none => { s with cursor := c }

def take (s : Scan) (n : Nat) (keyAllowed : Bool) (t : Token) : Scan :=
  { s with cursor := s.cursor.forward n, keyAllowed := keyAllowed }.emit t

def documentMark (s : Scan) (t : Token) : Except Problem Scan := do
  let s ← (s.unwind (-1)).dropKey
  return s.take 3 false t

def flowStart (s : Scan) (t : Token) : Except Problem Scan := do
  let s ← s.saveKey
  return { s with flow := s.flow + 1 }.take 1 true t

def flowEnd (s : Scan) (t : Token) : Except Problem Scan := do
  if s.flow = 0 then .error .malformed
  let s ← s.dropKey
  return { s with flow := s.flow - 1 }.take 1 false t

def flowEntry (s : Scan) : Except Problem Scan := do
  let s ← s.dropKey
  return s.take 1 true .flowEntry

def openFor (s : Scan) (t : Token) : Except Problem Scan :=
  if s.flow != 0 then .ok s
  else if !s.keyAllowed then .error .malformed
  else .ok ((s.openBlock? s.cursor.column).elim s (·.emit t))

def entry (s : Scan) : Except Problem Scan := do
  let s ← (← s.openFor .blockSequence).dropKey
  return s.take 1 true .entry

def key (s : Scan) : Except Problem Scan := do
  let s ← (← s.openFor .blockMapping).dropKey
  return s.take 1 (s.flow = 0) .key

/-- At a `:`. The remembered key before it becomes a key, and where it is the first of its block the block
starts before it. -/
def value (s : Scan) : Except Problem Scan := do
  match s.keys.lookup s.flow with
  | some k =>
    let after := s.tokens.take (s.count - k.position)
    let before := s.tokens.drop (s.count - k.position)
    let s := { s with keys := s.keys.filter (·.1 != s.flow) }
    let (start, s) := match if s.flow = 0 then s.openBlock? k.column else none with
      | some s => ([Token.key, .blockMapping], s)
      | none => ([Token.key], s)
    return { s with tokens := after ++ start ++ before, count := s.count + start.length }.take 1 false .value
  | none =>
    let s ← (← s.openFor .blockMapping).dropKey
    return s.take 1 (s.flow = 0) .value

def word (s : Scan) (skipped : Nat) (read : Cursor → Except Problem (Token × Cursor)) : Except Problem Scan := do
  let s ← s.saveKey
  let (t, c) ← read (s.cursor.forward skipped)
  return { s with cursor := c, keyAllowed := false }.emit t

def blockScalar (s : Scan) (folded : Bool) : Except Problem Scan := do
  let s ← { s with keyAllowed := true }.dropKey
  let (t, c) ← Block.text folded s.indent s.cursor.next
  return { s with cursor := c }.emit (.scalar (.ofText t) false)

def plain (s : Scan) : Except Problem Scan := do
  let s ← s.saveKey
  let (t, broken, c) := Plain.text (s.flow != 0) s.indent (s.cursor.rest.length + 1) [] false s.cursor
  return { s with cursor := c, keyAllowed := broken }.emit (.scalar (.ofText t) true)

def quoted (s : Scan) (double : Bool) : Except Problem Scan :=
  s.word 1 fun c => (Quoted.text double (c.rest.length + 1) c).map fun (t, c) => (.scalar t false, c)

def indicators : Text := "-?:,[]\x7b\x7d#&*!|>'\"%@\x60"

def startsPlain (s : Scan) (c : Char) : Bool :=
  !(isGap c || isBreak c || indicators.contains c) ||
    (!endsWord (s.cursor.peek 1) && (c = '-' || (s.flow = 0 && (c = '?' || c = ':'))))

def finish (s : Scan) : Except Problem Scan := do
  let s ← (s.unwind (-1)).dropKey
  return { s with keys := [] }.emit .finish

def token (s : Scan) (c : Char) : Except Problem Scan := do
  let lone := endsWord (s.cursor.peek 1)
  if c = '%' && s.cursor.column = 0 then
    let s ← (s.unwind (-1)).dropKey
    let (d, after) ← Property.directive s.cursor.next
    return { s with cursor := after, keyAllowed := false }.emit (.directive d)
  else if s.cursor.column = 0 && s.cursor.atMark "---".toList then s.documentMark .documentStart
  else if s.cursor.column = 0 && s.cursor.atMark "...".toList then s.documentMark .documentEnd
  else if c = '[' then s.flowStart .flowSequence
  else if c = '\x7b' then s.flowStart .flowMapping
  else if c = ']' then s.flowEnd .flowSequenceEnd
  else if c = '\x7d' then s.flowEnd .flowMappingEnd
  else if c = ',' then s.flowEntry
  else if c = '-' && lone then s.entry
  else if c = '?' && (s.flow != 0 || lone) then s.key
  else if c = ':' && (s.flow != 0 || lone) then s.value
  else if c = '*' then s.word 1 fun c => (Property.anchor c).map fun (n, c) => (.reference n, c)
  else if c = '&' then s.word 1 fun c => (Property.anchor c).map fun (n, c) => (.anchor n, c)
  else if c = '!' then s.word 0 fun c => (Property.tag c).map fun (n, c) => (.tag n, c)
  else if c = '|' && s.flow = 0 then s.blockScalar false
  else if c = '>' && s.flow = 0 then s.blockScalar true
  else if c = '\'' then s.quoted false
  else if c = '"' then s.quoted true
  else if s.startsPlain c then s.plain
  else .error .malformed

def step (s : Scan) : Except Problem (Scan × Bool) := do
  let s ← (toNext (s.cursor.rest.length + 1) s).dropStale
  let s := s.unwind s.cursor.column
  match s.cursor.here with
  | none => return (← s.finish, true)
  | some c => return (← s.token c, false)

/-- The tokens before which no more can come: those before the first place that may still be a key. -/
def settled (s : Scan) : List Token :=
  let places := (s.keys.filter fun k => !s.isStale k.2).map (·.2.position)
  (s.tokens.drop (s.count - places.foldl min s.count)).reverse

def run : Nat → Scan → Tokens
  | 0, s => ⟨s.settled, some .malformed⟩
  | fuel + 1, s =>
    match s.step with
    | .error p => ⟨s.settled, some p⟩
    | .ok (s, true) => ⟨s.tokens.reverse, none⟩
    | .ok (s, false) => run fuel s

end Scan

def isTextChar (c : Char) : Bool :=
  let n := c.toNat
  n = 0x09 || n = 0x0a || n = 0x0d || (0x20 ≤ n && n ≤ 0x7e) || n = 0x85 || (0xa0 ≤ n && n ≤ 0xd7ff) ||
    (0xe000 ≤ n && n ≤ 0xfffd) || 0x10000 ≤ n

/-- The tokens of a text; a byte order mark at its start is skipped. -/
def Tokens.ofText (s : Text) : Tokens :=
  if !s.all isTextChar then ⟨[], some .malformed⟩
  else
    let c := Cursor.ofText s
    let c := if c.here = some '\uFEFF' then c.next else c
    Scan.run (2 * s.length + 2) { cursor := c }

end RuleReview.Yaml
