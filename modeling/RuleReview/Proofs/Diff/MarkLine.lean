import Mathlib.Data.List.DropRight
import RuleReview.Proofs.Diff.Quoting
import RuleReview.Proofs.Text.Cut

/-! # The line that opens a section

It names the path before and the path after, each behind the mark of its side. Two quoted names are unquoted before they
are read as marked names, so that a tab in a path is taken for the end of its name, and the carriage returns at the end
of a path are dropped.
-/
namespace RuleReview.Diff
variable {p q s t names left right : Text} {side : Char}

/-- What is kept of a path that is read as a marked name once more. -/
def clipped (p : Text) : Text := dropReturns (p.upTo '\t')

theorem dropReturns_isPrefix (s : Text) : dropReturns s <+: s := List.rdropWhile_prefix (· == '\r') (l := s)

theorem dropReturns_eq_self_iff : dropReturns s = s ↔ s.getLast? ≠ some '\r' := by
  refine ⟨fun h hlast => ?_, Text.dropReturns_eq_self⟩
  have hne : s ≠ [] := List.ne_nil_of_mem (List.mem_of_getLast? hlast)
  have hchar : s.getLast hne = '\r' := Option.some_inj.mp ((List.getLast?_eq_some_getLast hne).symm.trans hlast)
  exact List.rdropWhile_eq_self_iff.mp h hne (by simp [hchar])

theorem clipped_eq_self_iff : clipped p = p ↔ '\t' ∉ p ∧ p.getLast? ≠ some '\r' := by
  constructor
  · intro h
    have hlength : p.length ≤ (p.upTo '\t').length := by
      have hle := (dropReturns_isPrefix (p.upTo '\t')).length_le
      rwa [← clipped, h] at hle
    have hup : p.upTo '\t' = p := (List.takeWhile_prefix _).eq_of_length_le hlength
    refine ⟨fun hmem => ?_, dropReturns_eq_self_iff.mp (by rwa [clipped, hup] at h)⟩
    cases List.takeWhile_eq_self_iff.mp hup _ hmem
  · rintro ⟨htab, hlast⟩
    rw [clipped, Text.upTo_of_notMem htab]
    exact dropReturns_eq_self_iff.mpr hlast

theorem dropReturns_side (side : Char) (p : Text) :
    dropReturns (side :: '/' :: p) = side :: '/' :: dropReturns p := by
  have hends : ['/', side].dropWhile (· == '\r') = ['/', side] := rfl
  rw [dropReturns, Text.dropTrailing, List.reverse_cons, List.reverse_cons, List.append_assoc]
  change ((p.reverse ++ ['/', side]).dropWhile (· == '\r')).reverse = _
  rw [List.dropWhile_append, hends]
  split
  · next hnone => rw [dropReturns, Text.dropTrailing, List.isEmpty_iff.mp hnone]; rfl
  · rw [List.reverse_append]; rfl

theorem markedPath_side (hside : side = 'a' ∨ side = 'b') (p : Text) :
    markedPath (side :: '/' :: p) = .ok (pathOfName (side :: '/' :: clipped p)) := by
  have hup : Text.upTo '\t' (side :: '/' :: p) = side :: '/' :: Text.upTo '\t' p := by
    rcases hside with rfl | rfl <;> rfl
  have hplain : unquoteIfQuoted (side :: '/' :: clipped p) = .ok (side :: '/' :: clipped p) := by
    rcases hside with rfl | rfl <;> rfl
  rw [markedPath, hup, dropReturns_side, ← clipped, hplain]
  rfl

theorem dropReturns_namePair (left right : Text) : dropReturns (namePair left right) = namePair left right := by
  refine Text.dropReturns_eq_self fun h => ?_
  rcases List.mem_append.mp (List.mem_of_getLast? h) with h | h
  · cases isControl_of_mem_gitName h
  · rcases List.mem_cons.mp h with h | h
    · cases h
    · cases isControl_of_mem_gitName h

/-- What stands in the place of the name that a file has not got. -/
def nullFile : Text := "/dev/null"

/-- A path of a file: no text at all names none, and neither does the null file. -/
structure IsPath (path : Text) : Prop where
  nonempty : path ≠ []
  notNull : path ≠ "dev/null".toList
  notNullFile : path ≠ nullFile

theorem pathOfName_side (hside : side = 'a' ∨ side = 'b') (hp : IsPath p) :
    pathOfName (side :: '/' :: p) = some p := by
  have hname : Diff.nonempty p = some p := if_neg (by simpa using hp.nonempty)
  have hnull : ¬(p = "/dev/null".toList ∨ p = "dev/null".toList) := not_or.mpr ⟨hp.notNullFile, hp.notNull⟩
  rcases hside with rfl | rfl
  · exact (if_neg hnull).trans hname
  · exact (if_neg hnull).trans hname

theorem eq_of_pathOfName_side (hside : side = 'a' ∨ side = 'b') (h : pathOfName (side :: '/' :: p) = some q) :
    p = q := by
  have hname : pathOfName (side :: '/' :: p) =
      if p = nullFile ∨ p = "dev/null".toList then none else Diff.nonempty p := by
    rcases hside with rfl | rfl <;> rfl
  rw [hname] at h
  split at h
  · cases h
  · rw [Diff.nonempty] at h
    split at h
    · cases h
    · exact Option.some_inj.mp h

/-- A path is read from a name that was unquoted before exactly when all of it is kept. -/
theorem pathOfName_clipped_iff (hside : side = 'a' ∨ side = 'b') (hp : IsPath p) :
    pathOfName (side :: '/' :: clipped p) = some p ↔ '\t' ∉ p ∧ p.getLast? ≠ some '\r' := by
  rw [← clipped_eq_self_iff]
  constructor
  · exact eq_of_pathOfName_side hside
  · intro h
    rw [h]
    exact pathOfName_side hside hp

def markLine (source path : Text) : Text := gitHeaderMark ++ namePair ('a' :: '/' :: source) ('b' :: '/' :: path)

theorem needsQuotes_side (hside : side = 'a' ∨ side = 'b') (p : Text) :
    needsQuotes (side :: '/' :: p) = needsQuotes p := by
  rcases hside with rfl | rfl <;> rfl

theorem headerPaths_quoted (hp : needsQuotes p = true) (hq : needsQuotes q = true) : headerPaths (markLine p q) =
    .ok (pathOfName ('a' :: '/' :: clipped p), pathOfName ('b' :: '/' :: clipped q)) := by
  have hleft := (needsQuotes_side (.inl rfl) p).trans hp
  have hright := (needsQuotes_side (.inr rfl) q).trans hq
  have hpair := quotedPair?_quoted hleft hright
  rw [headerPaths, markLine, List.drop_left, dropReturns_namePair]
  simp only [hpair, unquote_quoteText, bind, Except.bind, markedPath_side (.inl rfl), markedPath_side (.inr rfl)]
  rfl

/-- A path that is told twice is read as far as the second reading of a marked name keeps it. -/
theorem headerPaths_same (path : Text) : headerPaths (markLine path path) =
    .ok (pathOfName ('a' :: '/' :: clipped path), pathOfName ('b' :: '/' :: clipped path)) := by
  cases h : needsQuotes path with
  | true => exact headerPaths_quoted h h
  | false =>
    have hleft := (needsQuotes_side (.inl rfl) path).trans h
    have hright := (needsQuotes_side (.inr rfl) path).trans h
    have hpair := quotedPair?_plain (s := 'a' :: '/' :: path) (t := 'b' :: '/' :: path) rfl rfl (by rw [hleft]; rfl)
    have hnames : namePair ('a' :: '/' :: path) ('b' :: '/' :: path) =
        'a' :: '/' :: (path ++ ' ' :: 'b' :: '/' :: path) := by
      rw [namePair, gitName_plain hleft, gitName_plain hright]
      rfl
    rw [headerPaths, markLine, List.drop_left, dropReturns_namePair]
    simp only [hpair]
    rw [hnames, evenPair?_append, Option.some_or]
    simp only [bind, Except.bind, markedPath_side (.inl rfl), markedPath_side (.inr rfl)]
    rfl

theorem exists_markedPath (h : s.head? ≠ some '"') : ∃ x, markedPath s = .ok x := by
  have hstart : dropReturns (s.upTo '\t') <+: s := (dropReturns_isPrefix _).trans (List.takeWhile_prefix _)
  have hbody : quotedBody? (dropReturns (s.upTo '\t')) = none := by
    obtain ⟨rest, hrest⟩ := hstart
    rw [quotedBody?.eq_def]
    split
    · next r hr =>
      rw [hr] at hrest
      exact absurd (congrArg List.head? hrest.symm) h
    · rfl
  exact ⟨_, by rw [markedPath, unquoteIfQuoted, hbody]; rfl⟩

theorem head?_of_splitAtSecond? (h : splitAtSecond? s = some (left, right)) : right.head? = some 'b' := by
  induction s generalizing left with
  | nil => cases h
  | cons c s ih =>
    rw [splitAtSecond?.eq_def] at h
    dsimp only at h
    split at h
    · cases h
      rfl
    · obtain ⟨pair, hpair, hsides⟩ := Option.map_eq_some_iff.mp h
      cases hsides
      exact ih hpair

theorem sides_of_pair (h : (evenPair? names).or (plainPair? names) = some (left, right)) :
    left.head? = some 'a' ∧ right.head? = some 'b' := by
  rcases Option.or_eq_some_iff.mp h with h | ⟨-, h⟩
  · rw [evenPair?.eq_def] at h
    dsimp only at h
    split at h
    · next hleft _ =>
      split at h
      · cases h
        exact ⟨congrArg List.head? hleft, rfl⟩
      · cases h
    · cases h
  · rw [plainPair?.eq_def] at h
    split at h
    · obtain ⟨pair, hpair, hsides⟩ := Option.map_eq_some_iff.mp h
      cases hsides
      exact ⟨rfl, head?_of_splitAtSecond? hpair⟩
    · cases h

theorem exists_headerPaths_of_unquoted {line : Text}
    (h : quotedPair? (dropReturns (line.drop gitHeaderMark.length)) = none) : ∃ paths, headerPaths line = .ok paths := by
  rw [headerPaths]
  simp only [h]
  split
  · next left right hsides =>
    obtain ⟨hleft, hright⟩ := sides_of_pair hsides
    obtain ⟨x, hx⟩ := exists_markedPath (s := left) (by rw [hleft]; decide)
    obtain ⟨y, hy⟩ := exists_markedPath (s := right) (by rw [hright]; decide)
    exact ⟨(x, y), by simp only [bind, Except.bind, hx, hy]; rfl⟩
  · exact ⟨(none, none), rfl⟩

theorem exists_headerPaths (source path : Text) : ∃ x y, headerPaths (markLine source path) = .ok (x, y) := by
  cases h : needsQuotes source && needsQuotes path with
  | true =>
    obtain ⟨hs, hp⟩ := Bool.and_eq_true_iff.mp h
    exact ⟨_, _, headerPaths_quoted hs hp⟩
  | false =>
    rw [← needsQuotes_side (.inl rfl) source, ← needsQuotes_side (.inr rfl) path] at h
    have hpair := quotedPair?_plain (s := 'a' :: '/' :: source) (t := 'b' :: '/' :: path) rfl rfl h
    have hunquoted : quotedPair? (dropReturns ((markLine source path).drop gitHeaderMark.length)) = none := by
      rw [markLine, List.drop_left, dropReturns_namePair, hpair]
    obtain ⟨⟨x, y⟩, hpaths⟩ := exists_headerPaths_of_unquoted hunquoted
    exact ⟨x, y, hpaths⟩

end RuleReview.Diff
