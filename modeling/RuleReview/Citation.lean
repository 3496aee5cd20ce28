import RuleReview.Text.Glyph

/-! # Citations

A verdict cites files freely, with a line number or a side's mark. A citation is resolved to the first
reading of it that is one of the files that were sent.
-/
namespace RuleReview.Citation

def unmarked (plain : List Text) : List Text :=
  plain ++ plain.flatMap fun p => ["./", "a/", "b/"].filterMap fun mark => p.after? mark.toList

/-- The readings of a citation in order: as it is, up to a colon, and each without a leading mark. -/
def readings (citation : Text) : List Text :=
  let path := citation.trim
  unmarked [path, path.upTo ':']

def resolve? (sent : List Text) (citation : Text) : Option Text := (readings citation).find? sent.contains

/-- A citation that is broken may be whole up to a colon. -/
def resolveGlyphs? (sent : List Text) (citation : Glyphs) : Option Text :=
  let path := citation.trim
  (unmarked ([path, path.takeWhile (· != .char ':')].filterMap Glyphs.text?)).find? sent.contains

end RuleReview.Citation
