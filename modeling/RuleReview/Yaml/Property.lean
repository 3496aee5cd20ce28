import RuleReview.Text.Utf8
import RuleReview.Yaml.Scalar

/-! # Anchors, tags and directives -/
namespace RuleReview.Yaml

/-- A handle that stands for a prefix, and the rest of the tag; without a handle the tag is complete. -/
structure TagName where
  handle : Option Text
  rest : Text

inductive Directive where
  | version (major : Nat)
  | tag (handle start : Text)
  | other

namespace Property

def anchor (c : Cursor) : Except Problem (Text × Cursor) :=
  let (name, c) := c.span isNameChar
  if name.isEmpty || !(endsWord c.here || c.here.any fun d => "?:,]\x7d%@\x60".toList.contains d) then
    .error .malformed
  else .ok (name, c)

def handle (c : Cursor) : Except Problem (Text × Cursor) :=
  if c.here != some '!' then .error .malformed
  else if c.peek 1 = some ' ' then .ok ("!", c.next)
  else
    let (name, d) := c.next.span isNameChar
    if d.here = some '!' then .ok ('!' :: name ++ ['!'], d.next)
    else .error .malformed

def isUriChar (c : Char) : Bool := c.isAlphanum || "-;/?:@&=+$,_.!~*'()[]".toList.contains c

def escapedBytes : Nat → Cursor → Except Problem (List UInt8 × Cursor)
  | 0, c => .ok ([], c)
  | fuel + 1, c =>
    if c.here != some '%' then .ok ([], c)
    else match (c.peek 1).bind Text.hexValue?, (c.peek 2).bind Text.hexValue? with
      | some a, some b => (escapedBytes fuel (c.forward 3)).map fun (bs, c) => (UInt8.ofNat (16 * a + b) :: bs, c)
      | _, _ => .error .malformed

def uriFrom : Nat → Cursor → Except Problem (Text × Cursor)
  | 0, c => .ok ([], c)
  | fuel + 1, c =>
    match c.here with
    | some d =>
      if d = '%' then do
        let (bs, c) ← escapedBytes (c.rest.length + 1) c
        match Text.decode? bs with
        | none => .error .malformed
        | some t =>
          let (u, c) ← uriFrom fuel c
          return (t ++ u, c)
      else if isUriChar d then (uriFrom fuel c.next).map fun (t, c) => (d :: t, c)
      else .ok ([], c)
    | none => .ok ([], c)

def uri (c : Cursor) : Except Problem (Text × Cursor) := do
  let (t, c) ← uriFrom (c.rest.length + 1) c
  if t.isEmpty then .error .malformed else return (t, c)

def tag (c : Cursor) : Except Problem (TagName × Cursor) := do
  let (name, c) ← match c.peek 1 with
    | some '<' => do
      let (t, d) ← uri (c.forward 2)
      if d.here = some '>' then pure ((⟨none, t⟩ : TagName), d.next) else .error .malformed
    | d =>
      if endsWord d then pure ((⟨none, "!"⟩ : TagName), c.next)
      else if ((c.next.rest.takeWhile fun e => !(e = ' ' || isBreak e)).contains '!') then do
        let (h, d) ← handle c
        let (t, d) ← uri d
        pure ((⟨some h, t⟩ : TagName), d)
      else do
        let (t, d) ← uri c.next
        pure ((⟨some "!", t⟩ : TagName), d)
  if endsField c.here then return (name, c) else .error .malformed

def number (c : Cursor) : Except Problem (Nat × Cursor) :=
  let (t, d) := c.span Char.isDigit
  if t.isEmpty then .error .malformed
  else if Numeral.digitLimit < t.length then .error (.numeral (.tooLong t.length))
  else .ok (Text.numberOfDigits t, d)

def versionValue (c : Cursor) : Except Problem (Directive × Cursor) := do
  let (major, c) ← number c.skipSpaces
  if c.here != some '.' then .error .malformed
  let (_, c) ← number c.next
  if endsField c.here then return (.version major, c) else .error .malformed

def tagValue (c : Cursor) : Except Problem (Directive × Cursor) := do
  let (h, c) ← handle c.skipSpaces
  if c.here != some ' ' then .error .malformed
  let (t, c) ← uri c.skipSpaces
  if endsField c.here then return (.tag h t, c) else .error .malformed

def directive (c : Cursor) : Except Problem (Directive × Cursor) := do
  let (name, c) := c.span isNameChar
  if name.isEmpty || !endsField c.here then .error .malformed
  let (d, c) ← if name = "YAML".toList then versionValue c
    else if name = "TAG".toList then tagValue c
    else pure (.other, c.skip (!isBreak ·))
  match c.blankLine? with
  | some c => return (d, c)
  | none => .error .malformed

end Property

end RuleReview.Yaml
