/-! # Text as a list of characters

All text of the library is a list of characters, so that readers and writers recurse on it. Lists of
pieces are split and joined with `List.splitOn` and `List.intercalate`.
-/
namespace RuleReview

abbrev Text := List Char

namespace Text

def concat (parts : List Text) : Text := parts.flatten

def ofNat (n : Nat) : Text := Nat.toDigits 10 n

def ofInt : Int → Text
  | .ofNat n => ofNat n
  | .negSucc n => '-' :: ofNat (n + 1)

instance : Coe String Text := ⟨String.toList⟩

def startsWith (s p : Text) : Bool := p.isPrefixOf s

def endsWith (s p : Text) : Bool := p.isSuffixOf s

def after? (s p : Text) : Option Text := p.isPrefixOf? s

def holds (p : Text) : Text → Bool
  | [] => p.isEmpty
  | c :: s => p.isPrefixOf (c :: s) || holds p s

def cut? (p : Text) : Text → Option (Text × Text)
  | [] => if p.isEmpty then some ([], []) else none
  | c :: s =>
    match p.isPrefixOf? (c :: s) with
    | some rest => some ([], rest)
    | none => (cut? p s).map fun (before, rest) => (c :: before, rest)

def upTo (c : Char) (s : Text) : Text := s.takeWhile (· != c)

def dropTrailing (p : Char → Bool) (s : Text) : Text := (s.reverse.dropWhile p).reverse

def joinWith (sep : Text) (parts : List Text) : Text := List.intercalate sep parts

def within (ranges : List (Nat × Nat)) (c : Char) : Bool :=
  ranges.any fun (lo, hi) => lo ≤ c.toNat && c.toNat ≤ hi

def le : Text → Text → Bool
  | [], _ => true
  | _ :: _, [] => false
  | c :: s, d :: t => c < d || (c = d && le s t)

def lower (s : Text) : Text := s.map Char.toLower

end Text

end RuleReview
