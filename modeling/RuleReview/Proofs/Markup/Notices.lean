import RuleReview.Terminal

/-! # Notices

A notice shows words in a style, and behind them a text in its escaped form. Terminals are documented to show it,
whatever the text is.
-/
namespace RuleReview

namespace Markup

/-- Text without brackets that open and without backslashes. -/
def IsBare (s : Text) : Prop := ∀ c ∈ s, c ≠ '[' ∧ c ≠ '\\'

instance (s : Text) : Decidable (IsBare s) := List.decidableBAll (fun c => c ≠ '[' ∧ c ≠ '\\') s

def colours : List Text := ["black", "red", "green", "yellow", "blue", "magenta", "cyan", "white"]

/-- The names of colours, and of the same in bold. -/
def styles : List Text := colours ++ colours.map ("bold ".toList ++ ·)

/-- Markup that shows words in a style, with more markup behind them. -/
def notice (lead style words rest : Text) : Text :=
  lead ++ '[' :: (style ++ ']' :: (words ++ '[' :: '/' :: (style ++ ']' :: rest)))

theorem notice_append (lead style words rest s : Text) :
    notice lead style words rest ++ s = notice lead style words (rest ++ s) := by
  simp [notice]

end Markup

open Markup

/-- Every notice can be shown, and something is seen of it. -/
structure Terminal.ShowsNotices (t : Terminal) : Prop where
  escape_nil : t.escape [] = []
  exists_render {style lead words gap : Text} (hstyle : style ∈ styles) (hlead : IsBare lead) (hwords : IsBare words)
    (hgap : IsBare gap) (s : Text) : ∃ shown, shown ≠ [] ∧ t.render (notice lead style words (gap ++ t.escape s)) = .ok shown

end RuleReview
