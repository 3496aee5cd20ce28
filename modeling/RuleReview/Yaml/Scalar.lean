import RuleReview.Yaml.Cursor

/-! # The text of a scalar

Plain scalars end before `: ` and ` #`, quoted ones at their quote, block scalars where the indentation ends.
In all of them a single line break reads as a space unless the style keeps it, and further breaks are kept.
-/
namespace RuleReview.Yaml

/-- The break between two lines as text: a space for a single line feed. -/
def foldedBreak (b : Char) (more : Text) : Text :=
  (if b != '\n' then [b] else if more.isEmpty then [' '] else []) ++ more

namespace Quoted

def escapes : List (Char × Char) :=
  [('0', '\x00'), ('a', '\x07'), ('b', '\x08'), ('t', '\t'), ('\t', '\t'), ('n', '\n'), ('v', '\x0b'),
   ('f', '\x0c'), ('r', '\r'), ('e', '\x1b'), (' ', ' '), ('"', '"'), ('\\', '\\'), ('/', '/'),
   ('N', '\x85'), ('_', '\xa0'), ('L', '\u2028'), ('P', '\u2029')]

def escapeWidth? (c : Char) : Option Nat :=
  if c = 'x' then some 2 else if c = 'u' then some 4 else if c = 'U' then some 8 else none

/-- Line breaks and the gaps around them; a document marker at the start of a line is refused. -/
def breaks : Nat → Cursor → Except Problem (Text × Cursor)
  | 0, c => .ok ([], c)
  | fuel + 1, c =>
    if c.atDocumentMark then .error .malformed
    else
      let c := c.skip isGap
      match c.lineBreak? with
      | none => .ok ([], c)
      | some (b, c) => (breaks fuel c).map fun (t, c) => (b :: t, c)

def pointLimit : Nat := 0x7fffffff

def glyphOf (n : Nat) : Except Problem Glyph :=
  if pointLimit < n then .error .codePointSize
  else if 0x110000 ≤ n then .error .codePoint
  else .ok (.ofPoint n)

def escape (c : Cursor) : Except Problem (Glyphs × Cursor) :=
  match c.here with
  | none => .error .malformed
  | some d =>
    match escapes.lookup d, escapeWidth? d with
    | some e, _ => .ok ([.char e], c.next)
    | none, some width => do
      let digits ← (c.next.rest.take width).mapM fun h => (Text.hexValue? h).elim (.error .malformed) .ok
      if digits.length < width then .error .malformed
      return ([← glyphOf (digits.foldl (fun n h => 16 * n + h) 0)], c.forward (width + 1))
    | none, none =>
      match c.lineBreak? with
      | some (_, c) => (breaks c.rest.length c).map fun (t, c) => (.ofText t, c)
      | none => .error .malformed

def solid (double : Bool) : Nat → Cursor → Except Problem (Glyphs × Cursor)
  | 0, c => .ok ([], c)
  | fuel + 1, c =>
    match c.here with
    | none => .ok ([], c)
    | some d =>
      if isGap d || isBreak d then .ok ([], c)
      else if d = '\'' && !double then
        if c.peek 1 = some '\'' then (solid double fuel (c.forward 2)).map fun (t, c) => (.char '\'' :: t, c)
        else .ok ([], c)
      else if d = '"' && double then .ok ([], c)
      else if d = '\\' && double then do
        let (e, c) ← escape c.next
        let (t, c) ← solid double fuel c
        return (e ++ t, c)
      else (solid double fuel c.next).map fun (t, c) => (.char d :: t, c)

def gap (c : Cursor) : Except Problem (Text × Cursor) :=
  let (white, c) := c.span isGap
  match c.here, c.lineBreak? with
  | none, _ => .error .malformed
  | some _, some (b, c) => (breaks (c.rest.length + 1) c).map fun (more, c) => (foldedBreak b more, c)
  | some _, none => .ok (white, c)

def text (double : Bool) : Nat → Cursor → Except Problem (Glyphs × Cursor)
  | 0, _ => .error .malformed
  | fuel + 1, c => do
    let (t, c) ← solid double (c.rest.length + 1) c
    if c.here = some (if double then '"' else '\'') then return (t, c.next)
    let (white, c) ← gap c
    let (more, c) ← text double fuel c
    return (t ++ .ofText white ++ more, c)

end Quoted

namespace Block

inductive Chomping where
  | clip
  | strip
  | keep
  deriving DecidableEq

def chomping? (c : Option Char) : Option Chomping :=
  if c = some '+' then some .keep else if c = some '-' then some .strip else none

def increment (c : Cursor) : Except Problem (Option Nat × Cursor) :=
  match c.here with
  | some d =>
    if d = '0' then .error .malformed
    else if d.isDigit then .ok (some (d.toNat - 48), c.next)
    else .ok (none, c)
  | none => .ok (none, c)

def header (c : Cursor) : Except Problem ((Chomping × Option Nat) × Cursor) := do
  let (first, c) := match chomping? c.here with
    | some k => (some k, c.next)
    | none => (none, c)
  let (indent, c) ← increment c
  let (last, c) := match first, indent, chomping? c.here with
    | none, some _, some k => (some k, c.next)
    | _, _, _ => (none, c)
  if !endsField c.here then .error .malformed
  match c.blankLine? with
  | some c => return ((first.or last |>.getD .clip, indent), c)
  | none => .error .malformed

/-- Blank lines at the start, with the widest indentation among them and of the first other line. -/
def leading : Nat → Nat → Cursor → Text × Nat × Cursor
  | 0, widest, c => ([], widest, c)
  | fuel + 1, widest, c =>
    if c.here = some ' ' then leading fuel (max widest c.next.column) c.next
    else match c.lineBreak? with
      | some (b, c) => let (t, w, c) := leading fuel widest c; (b :: t, w, c)
      | none => ([], widest, c)

def breaks (indent : Nat) : Nat → Cursor → Text × Cursor
  | 0, c => ([], c)
  | fuel + 1, c =>
    let c := c.indentation indent
    match c.lineBreak? with
    | some (b, c) => let (t, c) := breaks indent fuel c; (b :: t, c)
    | none => ([], c)

def isFlush (c : Cursor) : Bool := !c.here.any isGap

/-- The lines at an indentation; `before` holds the blank lines before the first. -/
def body (folded : Bool) (k : Chomping) (indent : Nat) : Nat → Text → Cursor → Text × Cursor
  | 0, _, c => ([], c)
  | fuel + 1, before, c =>
    let flush := isFlush c
    let (line, c) := c.span (!isBreak ·)
    let (b, c) := match c.lineBreak? with
      | some (b, c) => ([b], c)
      | none => ([], c)
    let (after, c) := breaks indent (c.rest.length + 1) c
    if c.column = indent && c.here.isSome then
      let join : Text :=
        if folded && b = ['\n'] && flush && isFlush c then (if after.isEmpty then [' '] else []) else b
      let (t, c) := body folded k indent fuel after c
      (before ++ line ++ join ++ t, c)
    else
      let finish := match k with
        | .strip => []
        | .clip => b
        | .keep => b ++ after
      (before ++ line ++ finish, c)

def text (folded : Bool) (parent : Int) (c : Cursor) : Except Problem (Text × Cursor) := do
  let ((k, increment), c) ← header c
  let least := (parent + 1).toNat.max 1
  let fuel := c.rest.length + 1
  let (before, indent, c) := match increment with
    | some n => let (t, d) := breaks (least + n - 1) fuel c; (t, least + n - 1, d)
    | none => let (t, widest, d) := leading fuel 0 c; (t, max least widest, d)
  if c.column = indent && c.here.isSome then return body folded k indent fuel before c
  return (if k = .keep then before else [], c)

end Block

namespace Plain

def stops (flow : Bool) (c : Option Char) (after : Option Char) : Bool :=
  endsWord c ||
    (c = some ':' && (endsWord after || (flow && after.any fun a => ",[]\x7b\x7d".toList.contains a))) ||
    (flow && c.any fun a => ",?[]\x7b\x7d".toList.contains a)

def word (flow : Bool) : Text → Text
  | [] => []
  | c :: rest => if stops flow (some c) rest.head? then [] else c :: word flow rest

/-- Line breaks and spaces before the next line; nothing at a document marker. -/
def breaks : Nat → Cursor → Option Text × Cursor
  | 0, c => (some [], c)
  | fuel + 1, c =>
    if c.here = some ' ' then breaks fuel c.next
    else match c.lineBreak? with
      | none => (some [], c)
      | some (b, c) =>
        if c.atDocumentMark then (none, c)
        else let (t, c) := breaks fuel c; (t.map (b :: ·), c)

def gap (c : Cursor) : Text × Bool × Cursor :=
  let (white, c) := c.span (· == ' ')
  match c.lineBreak? with
  | none => (white, false, c)
  | some (b, c) =>
    if c.atDocumentMark then ([], true, c)
    else match breaks (c.rest.length + 1) c with
      | (some more, c) => (foldedBreak b more, true, c)
      | (none, c) => ([], true, c)

/-- The text of a plain scalar in a block at an indentation, whether a line ended after it, and the place
after it. `before` stands between what was read and the next word. -/
def text (flow : Bool) (indent : Int) : Nat → Text → Bool → Cursor → Text × Bool × Cursor
  | 0, _, broken, c => ([], broken, c)
  | fuel + 1, before, broken, c =>
    let w := if c.here = some '#' then [] else word flow c.rest
    if w.isEmpty then ([], broken, c)
    else
      let (between, broken, c) := gap (c.forward w.length)
      if between.isEmpty || c.here = some '#' || (!flow && (c.column : Int) < indent + 1) then
        (before ++ w, broken, c)
      else
        let (t, broken, c) := text flow indent fuel between broken c
        (before ++ w ++ t, broken, c)

end Plain

end RuleReview.Yaml
