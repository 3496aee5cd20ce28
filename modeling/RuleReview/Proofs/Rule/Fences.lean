import Mathlib.Data.Nat.Find
import RuleReview.Proofs.Rule.HeaderExpression

/-! # The line that ends a header

The expression of a header and the search for a fence line by line find the same header. It ends at the first fence
behind the second line, so that nothing behind that fence has a part in where it ends.
-/
namespace RuleReview.Rule
variable {s h l : Text} {ls : List Text} {body : Option Text} {k : Nat}

theorem isFence_iff : isFence l = true ↔ IsFence l := by
  rw [isFence]
  cases hrest : l.after? "---" with
  | none =>
    simp only [Bool.false_eq_true, false_iff]
    rintro ⟨rest, rfl, -⟩
    cases (Text.after?_append hyphens rest).symm.trans hrest
  | some rest =>
    obtain rfl : l = hyphens ++ rest := Text.after?_eq_some.mp hrest
    simp [IsFence]

theorem not_isFence_iff : (!isFence l) = true ↔ ¬IsFence l := by rw [← isFence_iff, Bool.not_eq_true', Bool.not_eq_true]

instance : DecidablePred IsFence := fun _ => decidable_of_iff _ isFence_iff

theorem IsFence.newline_notMem (hl : IsFence l) : '\n' ∉ l := by
  obtain ⟨rest, rfl, hrest⟩ := hl
  intro hline
  rcases List.mem_append.mp hline with hline | hline
  · revert hline
    decide
  · simpa using hrest _ hline

/-- The line is a fence, and there is a line between it and the first one. -/
def ClosesAt (ls : List Text) (k : Nat) : Prop := 2 ≤ k ∧ ∃ l ∈ ls[k]?, IsFence l

instance (ls : List Text) : DecidablePred (ClosesAt ls) := fun _ => inferInstanceAs (Decidable (_ ∧ _))

/-- The first line opens a header, and this is the first line that closes it. -/
structure EndsAt (ls : List Text) (k : Nat) : Prop where
  opens : ls.head? = some hyphens
  closes : ClosesAt ls k
  first : ∀ j < k, ¬ClosesAt ls j

theorem exists_endsAt_iff : (∃ k, EndsAt ls k) ↔ ls.head? = some hyphens ∧ ∃ k, ClosesAt ls k := by
  constructor
  · rintro ⟨k, hk⟩
    exact ⟨hk.opens, k, hk.closes⟩
  · rintro ⟨hopen, hk⟩
    exact ⟨Nat.find hk, hopen, Nat.find_spec hk, fun _ => Nat.find_min hk⟩

/-- A header has a line of any kind and then lines that are no fences, and it ends at a fence. -/
theorem endsAt_iff : EndsAt ls k ↔ ∃ header fence after, ls = hyphens :: (header ++ fence :: after) ∧ header ≠ [] ∧
    (∀ l ∈ header.tail, ¬IsFence l) ∧ IsFence fence ∧ k = header.length + 1 := by
  constructor
  · rintro ⟨hopen, ⟨htwo, fence, hget, hfence⟩, hfirst⟩
    obtain ⟨k, rfl⟩ := Nat.exists_eq_add_of_le' htwo
    obtain ⟨ls, rfl⟩ := List.head?_eq_some_iff.mp hopen
    cases ls with
    | nil => cases hget
    | cons first rest =>
      obtain ⟨hk, rfl⟩ := List.getElem?_eq_some_iff.mp (show rest[k]? = some fence from hget)
      refine ⟨first :: rest.take k, rest[k], rest.drop (k + 1), by simp, List.cons_ne_nil _ _, fun l hl hline => ?_,
        hfence, ?_⟩
      · obtain ⟨j, hj, rfl⟩ := List.mem_take_iff_getElem.mp hl
        refine hfirst (j + 2) (by omega) ⟨by omega, rest[j], ?_, hline⟩
        exact (List.getElem?_eq_getElem (by omega) : rest[j]? = some rest[j])
      · rw [List.length_cons, List.length_take, Nat.min_eq_left hk.le]
  · rintro ⟨header, fence, after, rfl, hne, hheader, hfence, rfl⟩
    have htwo : 2 ≤ header.length + 1 := Nat.succ_le_succ (List.length_pos_of_ne_nil hne)
    refine ⟨rfl, ⟨htwo, fence, by simp, hfence⟩, ?_⟩
    rintro j hj ⟨hline, l, hget, hl⟩
    obtain ⟨i, rfl⟩ := Nat.exists_eq_add_of_le' hline
    obtain ⟨first, before, rfl⟩ := List.exists_cons_of_ne_nil hne
    have hi : i < before.length := Nat.lt_of_add_lt_add_right hj
    have hmem : (before ++ fence :: after)[i]? = some l := hget
    rw [List.getElem?_append_left hi] at hmem
    exact hheader l (List.mem_of_getElem? hmem) hl

/-! ## Divisions and lines -/

theorem splitLines_line (hl : '\n' ∉ l) : Text.splitLines l = [l] :=
  have hjoin : Text.joinLines [l] = l := List.intercalate_singleton
  (congrArg Text.splitLines hjoin).symm.trans
    (Text.splitLines_joinLines (List.cons_ne_nil l []) (List.forall_mem_singleton.mpr hl))

theorem splitLines_divided {fence : Text} (hfence : IsFence fence) :
    Text.splitLines (hyphens ++ '\n' :: (h ++ '\n' :: (fence ++ behind body))) =
      hyphens :: (Text.splitLines h ++ fence :: body.elim [] Text.splitLines) := by
  have hrest : Text.splitLines (fence ++ behind body) = fence :: body.elim [] Text.splitLines := by
    cases body with
    | none => exact (congrArg _ (List.append_nil fence)).trans (splitLines_line hfence.newline_notMem)
    | some b =>
      have hline := splitLines_line hfence.newline_notMem
      rw [Text.splitLines] at hline ⊢
      rw [behind, Text.splitOn_append_cons, hline]
      rfl
  have hopen := splitLines_line (l := hyphens) (by decide)
  rw [Text.splitLines] at hopen hrest ⊢
  rw [Text.splitOn_append_cons, Text.splitOn_append_cons, hopen, hrest]
  rfl

def headerOf (ls : List Text) (k : Nat) : Text := Text.joinLines ((ls.take k).drop 1)

/-- The lines behind the one that closes a header, if there are some. -/
def bodyOf (ls : List Text) (k : Nat) : Option Text :=
  if k + 1 = ls.length then none else some (Text.joinLines (ls.drop (k + 1)))

section Lines
variable (header : List Text) (fence : Text) (after : List Text)

theorem headerOf_eq : headerOf (hyphens :: (header ++ fence :: after)) (header.length + 1) = Text.joinLines header := by
  simp [headerOf]

theorem behind_bodyOf : fence ++ behind (bodyOf (hyphens :: (header ++ fence :: after)) (header.length + 1)) =
    Text.joinLines (fence :: after) := by
  have hfence : Text.joinLines [fence] = fence := List.intercalate_singleton
  cases after with
  | nil => simp [bodyOf, behind, hfence]
  | cons l after =>
    have hjoin := Text.joinLines_append (List.cons_ne_nil fence []) (List.cons_ne_nil l after)
    rw [List.singleton_append, hfence] at hjoin
    simp [bodyOf, behind, hjoin]

end Lines

theorem divides_of_endsAt (hk : EndsAt (Text.splitLines s) k) :
    Divides s (headerOf (Text.splitLines s) k) (bodyOf (Text.splitLines s) k) := by
  obtain ⟨header, fence, after, hls, hne, -, hfence, rfl⟩ := endsAt_iff.mp hk
  have hopen : Text.joinLines [hyphens] = hyphens := List.intercalate_singleton
  refine ⟨fence, hfence, ?_⟩
  rw [hls, headerOf_eq, behind_bodyOf, ← Text.joinLines_append hne (List.cons_ne_nil fence after)]
  calc s = Text.joinLines (hyphens :: (header ++ fence :: after)) := by rw [← hls, Text.joinLines_splitLines]
    _ = Text.joinLines [hyphens] ++ '\n' :: Text.joinLines (header ++ fence :: after) :=
      Text.joinLines_append (List.cons_ne_nil hyphens []) (by simp)
    _ = hyphens ++ '\n' :: Text.joinLines (header ++ fence :: after) := by rw [hopen]

theorem closesAt_of_divides (hs : Divides s h body) : (Text.splitLines s).head? = some hyphens ∧
    ClosesAt (Text.splitLines s) ((Text.splitLines h).length + 1) := by
  obtain ⟨fence, hfence, rfl⟩ := hs
  rw [splitLines_divided hfence]
  have hlines := List.length_pos_of_ne_nil (Text.splitLines_ne_nil h)
  exact ⟨rfl, Nat.succ_le_succ hlines, fence, by simp, hfence⟩

theorem Divides.length_lt {v : Text} {body' : Option Text} (hs : Divides s h body) (hv : Divides s v body')
    (hfront : v <+: h) (hne : v ≠ h) : (Text.splitLines v).length < (Text.splitLines h).length := by
  obtain ⟨w, rfl⟩ := hfront
  obtain ⟨fence, -, rfl⟩ := hs
  obtain ⟨fence', -, hsame⟩ := hv
  have hbehind : w ++ '\n' :: (fence ++ behind body) = '\n' :: (fence' ++ behind body') := by
    simpa only [List.append_assoc, List.append_cancel_left_eq, List.cons.injEq, true_and] using hsame
  cases w with
  | nil => exact absurd (List.append_nil v).symm hne
  | cons c w =>
    obtain rfl : c = '\n' := (List.cons.inj hbehind).1
    rw [Text.splitLines, Text.splitLines, Text.splitOn_append_cons, List.length_append]
    exact Nat.lt_add_of_pos_right (List.length_pos_of_ne_nil (Text.splitLines_ne_nil w))

theorem headerParts?_of_endsAt (hs : '\r' ∉ s) (hk : EndsAt (Text.splitLines s) k) :
    headerParts? s = some (headerOf (Text.splitLines s) k, bodyOf (Text.splitLines s) k) := by
  have hdiv := divides_of_endsAt hk
  have hlength : k = (Text.splitLines (headerOf (Text.splitLines s) k)).length + 1 := by
    obtain ⟨header, fence, after, hls, hne, -, -, rfl⟩ := endsAt_iff.mp hk
    have hlines : ∀ l ∈ header, '\n' ∉ l := fun l hl =>
      Text.newline_notMem_splitLines (s := s) (by simp [hls, hl])
    rw [hls, headerOf_eq, Text.splitLines_joinLines hne hlines]
  refine headerParts?_of_least hs hdiv fun v hv hne body hshort => ?_
  have hfewer := hdiv.length_lt hshort hv hne
  exact hk.first _ (by omega) (closesAt_of_divides hshort).2

theorem headerParts?_isSome_iff (hs : '\r' ∉ s) : (headerParts? s).isSome ↔
    (Text.splitLines s).head? = some hyphens ∧ ∃ k, ClosesAt (Text.splitLines s) k := by
  rw [← exists_endsAt_iff]
  constructor
  · intro hsome
    by_contra hnone
    rw [headerParts?_eq_none hs] at hsome
    · cases hsome
    · exact fun x body hdiv => hnone (exists_endsAt_iff.mpr ((closesAt_of_divides hdiv).imp_right fun h => ⟨_, h⟩))
  · rintro ⟨k, hk⟩
    rw [headerParts?_of_endsAt hs hk]
    rfl

/-! ## The search line by line -/

theorem split?_of_endsAt (hk : EndsAt (Text.splitLines s) k) :
    split? s = some (headerOf (Text.splitLines s) k, (bodyOf (Text.splitLines s) k).getD []) := by
  obtain ⟨header, fence, after, hls, hne, hheader, hfence, rfl⟩ := endsAt_iff.mp hk
  obtain ⟨first, before, rfl⟩ := List.exists_cons_of_ne_nil hne
  have hbefore : ∀ l ∈ before, (!isFence l) = true := fun l hl => not_isFence_iff.mpr (hheader l hl)
  have hclosing : isFence fence = true := isFence_iff.mpr hfence
  have hdrop : (before ++ fence :: after).dropWhile (!isFence ·) = fence :: after := by
    rw [List.dropWhile_append_of_pos hbefore]
    simp [hclosing]
  have htake : (before ++ fence :: after).takeWhile (!isFence ·) = before := by
    rw [List.takeWhile_append_of_pos hbefore]
    simp [hclosing]
  have hbody : (bodyOf (hyphens :: (first :: before ++ fence :: after)) ((first :: before).length + 1)).getD [] =
      Text.joinLines after := by
    cases after <;> simp [bodyOf, Text.joinLines]
  rw [hls, headerOf_eq, hbody]
  have hlines : Text.splitLines s = ['-', '-', '-'] :: first :: (before ++ fence :: after) := hls
  simp only [split?, hlines, hdrop, htake]

theorem endsAt_of_split? {p : Text × Text} (hs : split? s = some p) : ∃ k, EndsAt (Text.splitLines s) k := by
  unfold split? at hs
  split at hs
  · next first rest hls =>
    split at hs
    · next fence after hdrop =>
      have hstop := List.head?_dropWhile_not (!isFence ·) rest
      rw [hdrop] at hstop
      have hfence : IsFence fence := isFence_iff.mp (by simpa using hstop)
      refine ⟨_, endsAt_iff.mpr
        ⟨first :: rest.takeWhile (!isFence ·), fence, after, ?_, List.cons_ne_nil _ _, ?_, hfence, rfl⟩⟩
      · rw [hls, List.cons_append, ← hdrop, List.takeWhile_append_dropWhile]
        rfl
      · intro l hl
        have hkept : l ∈ rest.takeWhile (!isFence ·) := hl
        exact not_isFence_iff.mp (List.mem_takeWhile_imp (p := (!isFence ·)) hkept)
    · cases hs
  · cases hs

theorem split?_eq_headerParts? (hs : '\r' ∉ s) :
    split? s = (headerParts? s).map fun p => (p.1, p.2.getD []) := by
  by_cases hends : ∃ k, EndsAt (Text.splitLines s) k
  · obtain ⟨k, hk⟩ := hends
    rw [headerParts?_of_endsAt hs hk, split?_of_endsAt hk]
    rfl
  · have hparts : headerParts? s = none := by
      rw [← Option.not_isSome_iff_eq_none, headerParts?_isSome_iff hs, ← exists_endsAt_iff]
      exact hends
    rw [hparts, Option.map_none, Option.eq_none_iff_forall_ne_some]
    exact fun p hp => hends (endsAt_of_split? hp)

/-! ## All of it -/

theorem EndsAt.of_take {ls' : List Text} (hk : EndsAt ls k) (hsame : ls'.take (k + 1) = ls.take (k + 1)) :
    EndsAt ls' k := by
  have hclose : ∀ j < k + 1, ClosesAt ls' j ↔ ClosesAt ls j := fun j hj => by
    rw [ClosesAt, ClosesAt, ← List.getElem?_take_of_lt hj, hsame, List.getElem?_take_of_lt hj]
  have hhead (ls : List Text) : (ls.take (k + 1)).head? = ls.head? := by simp [List.head?_take]
  refine ⟨?_, (hclose k k.lt_succ_self).mpr hk.closes, fun j hj hj' => hk.first j hj ?_⟩
  · rw [← hhead, hsame, hhead, hk.opens]
  · exact (hclose j (Nat.lt_succ_of_lt hj)).mp hj'

theorem headerOf_congr {ls' : List Text} (hsame : ls'.take (k + 1) = ls.take (k + 1)) :
    headerOf ls' k = headerOf ls k := by
  have htake (ls : List Text) : ls.take k = (ls.take (k + 1)).take k := by
    rw [List.take_take, Nat.min_eq_left k.le_succ]
  rw [headerOf, htake, hsame, ← htake, headerOf]

/-- The expression takes a header and a body exactly when the first line opens a header and a later one closes it, and
then the header ends at the first line that closes it, whatever is behind that line. The search line by line finds the
same. -/
theorem headerParts?_firstFence (s : Text) (hs : '\r' ∉ s) :
    ((headerParts? s).isSome ↔
      (Text.splitLines s).head? = some hyphens ∧ ∃ k, ClosesAt (Text.splitLines s) k) ∧
    (∀ k, EndsAt (Text.splitLines s) k →
      headerParts? s = some (headerOf (Text.splitLines s) k, bodyOf (Text.splitLines s) k) ∧
      ∀ t, '\r' ∉ t → (Text.splitLines t).take (k + 1) = (Text.splitLines s).take (k + 1) →
        (headerParts? t).map Prod.fst = (headerParts? s).map Prod.fst) ∧
    split? s = (headerParts? s).map fun p => (p.1, p.2.getD []) := by
  refine ⟨headerParts?_isSome_iff hs, fun k hk => ⟨headerParts?_of_endsAt hs hk, fun t ht hsame => ?_⟩,
    split?_eq_headerParts? hs⟩
  rw [headerParts?_of_endsAt hs hk, headerParts?_of_endsAt ht (hk.of_take hsame), Option.map_some, Option.map_some,
    headerOf_congr hsame]

def ruledText : Text := "---\na: b\n----\n--- x\n---\t \nText\n---\nMore"

theorem headerParts?_firstFence_ruled : '\r' ∉ ruledText ∧ EndsAt (Text.splitLines ruledText) 4 ∧
    headerParts? ruledText = some ("a: b\n----\n--- x".toList, some "Text\n---\nMore".toList) ∧
    '\r' ∉ ruledText ++ ['\n'] ∧
    (headerParts? (ruledText ++ ['\n'])).map Prod.fst = some "a: b\n----\n--- x".toList := by
  have hbreaks : '\r' ∉ ruledText ∧ '\r' ∉ ruledText ++ ['\n'] := by decide
  have hends : EndsAt (Text.splitLines ruledText) 4 := ⟨by decide, by decide, by decide⟩
  obtain ⟨hparts, hbehind⟩ := (headerParts?_firstFence ruledText hbreaks.1).2.1 4 hends
  have hruled : headerParts? ruledText = some ("a: b\n----\n--- x".toList, some "Text\n---\nMore".toList) :=
    hparts.trans (by decide)
  refine ⟨hbreaks.1, hends, hruled, hbreaks.2, (hbehind _ hbreaks.2 (by decide)).trans ?_⟩
  rw [hruled]
  rfl

end RuleReview.Rule
