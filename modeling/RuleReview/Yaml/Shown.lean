import RuleReview.Yaml.Object

/-! # The text of a YAML value

A text shows as itself on its own and quoted inside another value; dates show as they are written on their
own and by their parts inside another value.
-/
namespace RuleReview.Yaml

def padded (width n : Nat) : Text :=
  let ds := Text.ofNat n
  List.replicate (width - ds.length) '0' ++ ds

def Date.shown (d : Date) : Text :=
  .concat [padded 4 d.year, "-", padded 2 d.month, "-", padded 2 d.day]

def zoneShown (minutes : Int) : Text :=
  .concat [if minutes < 0 then "-" else "+", padded 2 (minutes.natAbs / 60), ":", padded 2 (minutes.natAbs % 60)]

def Clock.shown (c : Clock) : Text :=
  .concat [padded 2 c.hour, ":", padded 2 c.minute, ":", padded 2 c.second,
    if c.micro = 0 then [] else '.' :: padded 6 c.micro, c.zone.elim [] zoneShown]

def call (name : Text) (arguments : List Text) : Text :=
  .concat [name, "(", Text.joinWith ", " arguments, ")"]

def zoneParts (minutes : Int) : Text :=
  if minutes = 0 then "datetime.timezone.utc"
  else call "datetime.timezone" [spanText (minutes / 1440) (60 * (minutes % 1440))]

def momentParts (d : Date) (c : Clock) : Text :=
  let seconds := if c.micro != 0 then [c.second, c.micro] else if c.second != 0 then [c.second] else []
  let zone := c.zone.toList.map fun z => Text.concat ["tzinfo=", zoneParts z]
  call "datetime.datetime" (([d.year, d.month, d.day, c.hour, c.minute] ++ seconds).map Text.ofNat ++ zone)

def byteShown (quote : Char) (b : UInt8) : Text :=
  let c := Char.ofNat b.toNat
  if c = quote ∨ c = '\\' then ['\\', c]
  else if c = '\t' then ['\\', 't']
  else if c = '\n' then ['\\', 'n']
  else if c = '\r' then ['\\', 'r']
  else if b < 0x20 ∨ 0x7f ≤ b then '\\' :: 'x' :: Text.hex 2 b.toNat
  else [c]

def bytesShown (bs : List UInt8) : Text :=
  let quote := if bs.contains 39 && !bs.contains 34 then '"' else '\''
  'b' :: quote :: bs.flatMap (byteShown quote) ++ [quote]

def Moment.shown (m : Moment) : Text :=
  m.clock.elim m.date.shown fun c => .concat [m.date.shown, " ", c.shown]

def Moment.parts (m : Moment) : Text :=
  m.clock.elim (call "datetime.date" ([m.date.year, m.date.month, m.date.day].map Text.ofNat)) (momentParts m.date)

def Atom.nested : Atom → Except Problem Text
  | .null => .ok "None"
  | .bool b => .ok (if b then "True" else "False")
  | .int n => (Numeral.ofInt n).mapError .numeral
  | .float x => .ok x.toText
  | .notNumber _ => .ok Binary64.nan.toText
  | .moment m => .ok m.parts
  | .bytes bs => .ok (bytesShown bs)
  | .str s => .ok s.quoted

namespace Document

def depthLimit : Nat := 985

def bracketed (left right : Char) (parts : List Text) : Text := left :: Text.joinWith ", " parts ++ [right]

/-- The object of a node as it shows inside another one; `around` are the nodes around it, whose content is
not shown again. -/
def nested (d : Document) : Nat → List NodeId → NodeId → Except Problem Text
  | 0, _, _ => .error .tooDeep
  | levels + 1, around, id =>
    let inside := nested d levels (id :: around)
    match d.object id with
    | .atom a => a.nested
    | .set items =>
      if items.isEmpty then .ok "set()" else (bracketed '\x7b' '\x7d') <$> items.mapM Atom.nested
    | .list items =>
      if around.contains id then .ok "[...]" else (bracketed '[' ']') <$> items.mapM inside
    | .map ms =>
      if around.contains id then .ok "\x7b...\x7d"
      else (bracketed '\x7b' '\x7d') <$> ms.mapM fun (k, v) => do
        return Text.concat [← k.nested, ": ", ← inside v]
    | .pairs items =>
      if around.contains id then .ok "[...]"
      else (bracketed '[' ']') <$> items.mapM fun (k, v) => do
        return Text.concat ["(", ← inside k, ", ", ← inside v, ")"]

def shown (d : Document) (id : NodeId) : Except Problem Glyphs :=
  match d.object id with
  | .atom (.str s) => .ok s
  | .atom (.moment m) => .ok (.ofText m.shown)
  | _ => (nested d depthLimit [] id).map .ofText

end Document

end RuleReview.Yaml
