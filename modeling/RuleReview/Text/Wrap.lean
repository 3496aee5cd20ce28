import RuleReview.Text.Blank
import RuleReview.Text.Width

/-! # Fitting a line into columns

A tab moves on to a column that is a multiple of eight. A line that is too wide is broken before a word, and a
word that is too wide by itself is broken where the columns end.
-/
namespace RuleReview.Text

def tabStop : Nat := 8

/-- Writes the tabs of a line as blanks. The text since the last tab starts at a column; it is kept backwards. A
tab is one blank at least. -/
def expandTabsFrom (column : Nat) (since : Text) : Text → Text
  | [] => since.reverse
  | c :: s =>
    if c = '\t' then
      let part := (' ' :: since).reverse
      let reached := column + width part
      let next := (reached + tabStop - 1) / tabStop * tabStop
      part ++ List.replicate (next - reached) ' ' ++ expandTabsFrom next [] s
    else expandTabsFrom column (c :: since) s

def expandTabs (line : Text) : Text := if line.contains '\t' then expandTabsFrom 0 [] line else line

/-- Cuts a line before each word but the first; `word` is what has been read of one, backwards, `ink` says
whether it has a character that is not blank, and `gap` whether blanks follow that. -/
def spacedWordsFrom (word : Text) (ink gap : Bool) : Text → List Text
  | [] => [word.reverse]
  | c :: s =>
    if isBlank c then spacedWordsFrom (c :: word) ink ink s
    else if gap then word.reverse :: spacedWordsFrom [c] true false s
    else spacedWordsFrom (c :: word) true false s

def spacedWords (line : Text) : List Text := spacedWordsFrom [] false false line

/-- Cuts a text into clusters, what stays together on a line, with the columns each takes. `cluster` is the one
that is being read, backwards, and `last` the last character that took a column. -/
def clustersFrom (cluster : Text) (cells : Nat) (last : Option Char) : Text → List (Text × Nat)
  | [] => [(cluster.reverse, cells)]
  | [c] =>
    if c = pictureSelector && last.any (within plainPictureRanges) then
      [((c :: cluster).reverse, cells + 1)]
    else if c = joiner || c = pictureSelector || columns c = 0 then [((c :: cluster).reverse, cells)]
    else [(cluster.reverse, cells), ([c], columns c)]
  | c :: d :: s =>
    if c = joiner && !cluster.isEmpty then clustersFrom (d :: c :: cluster) cells last s
    else if c = pictureSelector && last.any (within plainPictureRanges) then
      clustersFrom (c :: cluster) (cells + 1) none (d :: s)
    else if c = joiner || c = pictureSelector || columns c = 0 then
      clustersFrom (c :: cluster) cells last (d :: s)
    else (cluster.reverse, cells) :: clustersFrom [c] (columns c) (some c) (d :: s)

/-- Puts as many clusters on each piece as there are columns; `piece` is what has been put on one, backwards. -/
def chopFrom (limit : Nat) (piece : Text) (used : Nat) : List (Text × Nat) → List Text
  | [] => [piece.reverse]
  | (t, n) :: cs =>
    if used + n > limit then piece.reverse :: chopFrom limit t.reverse n cs
    else chopFrom limit (t.reverse ++ piece) (used + n) cs

def chop (limit : Nat) (word : Text) : List Text := chopFrom limit [] 0 (clustersFrom [] 0 none word)

/-- Lines that are being filled: those that are full, the last first, and the one at hand with its columns. -/
structure Wrapping where
  full : List Text := []
  line : Text := []
  used : Nat := 0

def Wrapping.next (w : Wrapping) (s : Text) : Wrapping :=
  { full := if w.line.isEmpty && w.full.isEmpty then [] else w.line :: w.full, line := s, used := width s }

def Wrapping.add (limit : Nat) (w : Wrapping) (word : Text) : Wrapping :=
  let room := width (trimEnd word)
  if w.used + room ≤ limit then { w with line := w.line ++ word, used := w.used + width word }
  else if room ≤ limit then w.next word
  else (chop limit word).foldl Wrapping.next w

/-- A line without the blanks at its end, should they make it too wide. -/
def fit (limit : Nat) (line : Text) : Text := if width line ≤ limit then line else trimEnd line

def wrap (limit : Nat) (line : Text) : List Text :=
  let w := (spacedWords line).foldl (Wrapping.add limit) {}
  ((w.line :: w.full).reverse).map (fit limit)

end RuleReview.Text
