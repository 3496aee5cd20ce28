import RuleReview.Text.Blank
import RuleReview.Text.Case
import RuleReview.Text.Quoted
import RuleReview.Text.Utf8

/-! # Texts with broken characters

An escape may name one half of a surrogate pair without the other one. What is read from escapes is a list of
glyphs, which is a text only when none of them is such a half.
-/
namespace RuleReview

/-- A code unit for one half of a pair. -/
abbrev Surrogate := { n : Nat // 0xd800 ≤ n ∧ n ≤ 0xdfff }

inductive Glyph where
  | char (c : Char)
  | half (u : Surrogate)
  deriving DecidableEq, Repr, Inhabited

abbrev Glyphs := List Glyph

namespace Glyph

def char? : Glyph → Option Char
  | .char c => some c
  | .half _ => none

def lossy : Glyph → Char
  | .char c => c
  | .half _ => '\uFFFD'

def ofPoint (n : Nat) : Glyph := if h : 0xd800 ≤ n ∧ n ≤ 0xdfff then .half ⟨n, h⟩ else .char (Char.ofNat n)

def point : Glyph → Nat
  | .char c => c.toNat
  | .half u => u

def quoted (q : Char) : Glyph → Text
  | .char c => Text.quotedChar q c
  | .half u => '\\' :: 'u' :: Text.hex 4 u

end Glyph

namespace Glyphs

def ofText (s : Text) : Glyphs := s.map .char

def text? (g : Glyphs) : Option Text := g.mapM Glyph.char?

def lossy (g : Glyphs) : Text := g.map Glyph.lossy

def quoted (g : Glyphs) : Text :=
  let q := Text.quoteMark (lossy g)
  q :: g.flatMap (Glyph.quoted q) ++ [q]

def escaped (g : Glyphs) : Text :=
  g.flatMap fun
    | .char c => [c]
    | .half u => '\\' :: 'u' :: Text.hex 4 u

/-- The bytes that a glyph stands for in the name of a file. -/
def fileBytes? : Glyph → Option (List UInt8)
  | .char c => some (Text.encode [c])
  | .half u => if 0xdc80 ≤ u.val ∧ u.val ≤ 0xdcff then some [UInt8.ofNat (u.val - 0xdc00)] else none

def fileName? (g : Glyphs) : Option Text := (g.mapM fileBytes?).bind fun bs => Text.decode? bs.flatten

def isBlank : Glyph → Bool
  | .char c => Text.isBlank c
  | .half _ => false

def isBlankText (g : Glyphs) : Bool := g.all isBlank

def trim (g : Glyphs) : Glyphs := ((g.dropWhile isBlank).reverse.dropWhile isBlank).reverse

def dropTrailing (c : Char) (g : Glyphs) : Glyphs := (g.reverse.dropWhile (· == .char c)).reverse

def lowercaseFrom (before : Text) : Glyphs → Glyphs
  | [] => []
  | .char c :: g => ofText (Text.smallAt before c (lossy g)) ++ lowercaseFrom (c :: before) g
  | .half u :: g => .half u :: lowercaseFrom ('\uFFFD' :: before) g

def lowercase (g : Glyphs) : Glyphs := lowercaseFrom [] g

end Glyphs

end RuleReview
