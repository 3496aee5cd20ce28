import RuleReview.Text.Basic

/-! # Lines

Three notions of a line: parts between line feeds, lines ended by any line boundary, and text whose
carriage returns have been read as line feeds.
-/
namespace RuleReview.Text

def splitLines (s : Text) : List Text := s.splitOn '\n'

def joinLines (ls : List Text) : Text := List.intercalate ['\n'] ls

/-- A carriage return, alone or before a line feed, reads as one line feed. -/
def normalizeBreaks : Text → Text
  | [] => []
  | '\r' :: '\n' :: s => '\n' :: normalizeBreaks s
  | c :: s => (if c = '\r' then '\n' else c) :: normalizeBreaks s

def boundaryPoints : List Nat := [0x0a, 0x0b, 0x0c, 0x0d, 0x1c, 0x1d, 0x1e, 0x85, 0x2028, 0x2029]

def isBoundary (c : Char) : Bool := boundaryPoints.contains c.toNat

/-- The lines ended by any boundary, a carriage return with its line feed being one; a last line that is
empty is none. -/
def boundedLines : Text → List Text
  | [] => []
  | '\r' :: '\n' :: s => [] :: boundedLines s
  | c :: s =>
    if isBoundary c then [] :: boundedLines s
    else match s with
      | [] => [[c]]
      | _ => match boundedLines s with
        | [] => [[c]]
        | l :: ls => (c :: l) :: ls

end RuleReview.Text
