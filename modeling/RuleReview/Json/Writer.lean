import RuleReview.Json.Basic
import RuleReview.Decimal.Shortest

/-! # Writing JSON

Strings escape quotes, backslashes and control characters; the characters that may stand as they are
otherwise are a parameter. Two layouts: on one line, and indented by two.
-/
namespace RuleReview.Json

def surrogates (n : Nat) : Nat × Nat := (0xd800 + (n - 0x10000) / 0x400, 0xdc00 + (n - 0x10000) % 0x400)

def escaped (n : Nat) : Text :=
  if n < 0x10000 then '\\' :: 'u' :: Text.hex 4 n
  else let (hi, lo) := surrogates n; '\\' :: 'u' :: Text.hex 4 hi ++ '\\' :: 'u' :: Text.hex 4 lo

def writeChar (plain : Char → Bool) (c : Char) : Text :=
  if c = '"' then ['\\', '"']
  else if c = '\\' then ['\\', '\\']
  else if c = '\n' then ['\\', 'n']
  else if c = '\r' then ['\\', 'r']
  else if c = '\t' then ['\\', 't']
  else if c = '\x08' then ['\\', 'b']
  else if c = '\x0c' then ['\\', 'f']
  else if c.toNat < 0x20 || !plain c then escaped c.toNat
  else [c]

def writeText (plain : Char → Bool) (s : Text) : Text := '"' :: s.flatMap (writeChar plain) ++ ['"']

def writeGlyph (plain : Char → Bool) : Glyph → Text
  | .char c => writeChar plain c
  | .half u => escaped u

/-- A string with broken characters, which are always escaped. -/
def writeGlyphs (plain : Char → Bool) (s : Glyphs) : Text := '"' :: s.flatMap (writeGlyph plain) ++ ['"']

def writeFloat : Binary64 → Text
  | .nan => "NaN"
  | .infinite neg => if neg then "-Infinity" else "Infinity"
  | x => x.toText

mutual

def write (plain : Char → Bool) : Json → Text
  | .null => "null"
  | .bool b => if b then "true" else "false"
  | .int n => Text.ofInt n
  | .float x => writeFloat x
  | .str s => writeText plain s
  | .broken s => writeGlyphs plain s
  | .arr items => '[' :: writeItems plain items ++ [']']
  | .obj members => '{' :: writeMembers plain members ++ ['}']
  | .brokenObj members => '{' :: writeBroken plain members ++ ['}']

def writeItems (plain : Char → Bool) : List Json → Text
  | [] => []
  | [v] => write plain v
  | v :: vs => write plain v ++ ',' :: ' ' :: writeItems plain vs

def writeMembers (plain : Char → Bool) : List (Text × Json) → Text
  | [] => []
  | [(k, v)] => writeText plain k ++ ':' :: ' ' :: write plain v
  | (k, v) :: ms => writeText plain k ++ ':' :: ' ' :: write plain v ++ ',' :: ' ' :: writeMembers plain ms

def writeBroken (plain : Char → Bool) : List (Glyphs × Json) → Text
  | [] => []
  | [(k, v)] => writeGlyphs plain k ++ ':' :: ' ' :: write plain v
  | (k, v) :: ms => writeGlyphs plain k ++ ':' :: ' ' :: write plain v ++ ',' :: ' ' :: writeBroken plain ms

end

def newline (depth : Nat) : Text := '\n' :: List.replicate (2 * depth) ' '

mutual

def pretty (plain : Char → Bool) (depth : Nat) : Json → Text
  | .arr [] => ['[', ']']
  | .obj [] => ['{', '}']
  | .arr (v :: vs) => '[' :: prettyItems plain (depth + 1) (v :: vs) ++ newline depth ++ [']']
  | .obj (m :: ms) => '{' :: prettyMembers plain (depth + 1) (m :: ms) ++ newline depth ++ ['}']
  | v => write plain v

def prettyItems (plain : Char → Bool) (depth : Nat) : List Json → Text
  | [] => []
  | [v] => newline depth ++ pretty plain depth v
  | v :: vs => newline depth ++ pretty plain depth v ++ ',' :: prettyItems plain depth vs

def prettyMembers (plain : Char → Bool) (depth : Nat) : List (Text × Json) → Text
  | [] => []
  | [(k, v)] => newline depth ++ writeText plain k ++ ':' :: ' ' :: pretty plain depth v
  | (k, v) :: ms =>
    newline depth ++ writeText plain k ++ ':' :: ' ' :: pretty plain depth v ++
      ',' :: prettyMembers plain depth ms

end

end RuleReview.Json
