import RuleReview.Diff.Slim

/-! # Restricting a diff to some paths -/
namespace RuleReview

def Section.isAmong (paths : List Text) (s : Section) : Bool := s.path.any paths.contains

def Diff.restrict (d : Diff) (paths : List Text) : Diff :=
  d.withSections (d.sections.filter (Section.isAmong paths))

end RuleReview
