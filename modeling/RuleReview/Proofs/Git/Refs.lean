import RuleReview.Git.Ref
import RuleReview.Proofs.Text.Cut

/-! # Accepted refs

A ref is to be accepted when it is a name: it can be read neither as an option nor as a range, is made of the characters
of names, and ends as a name may end. What it is made of is asked of the ref without one line feed at its end, and how
it ends is asked of the ref as it stands. So a line feed at the end is let through, behind a name or behind a text that
ends as no name does; nothing else is.
-/
namespace RuleReview.Text
variable {c : Char}

/-- A control character of ASCII or Latin-1. -/
def IsControl (c : Char) : Prop := c.toNat < 0x20 ∨ 0x7f ≤ c.toNat ∧ c.toNat < 0xa0

theorem exists_range_of_isWord (h : isWord c = true) : ∃ r ∈ wordRanges, r.1 ≤ c.toNat ∧ c.toNat ≤ r.2 := by
  obtain ⟨r, hr, hc⟩ := List.any_eq_true.mp h
  exact ⟨r, hr, by simpa using hc⟩

theorem not_isControl_of_isWord (h : isWord c = true) : ¬IsControl c := by
  have hranges : ∀ r ∈ wordRanges, 0x20 ≤ r.1 ∧ (r.2 < 0x7f ∨ 0xa0 ≤ r.1) := by decide +kernel
  obtain ⟨r, hr, hlo, hhi⟩ := exists_range_of_isWord h
  have hr := hranges r hr
  rw [IsControl]
  omega

theorem isBlank_of_isWord (h : isWord c = true) : isBlank c = false := by
  have hranges : (wordRanges.all fun r => blankPoints.all fun n => n.blt r.1 || r.2.blt n) = true := by decide +kernel
  obtain ⟨r, hr, hlo, hhi⟩ := exists_range_of_isWord h
  rw [isBlank, ← Bool.not_eq_true, List.contains_iff_mem]
  intro hblank
  have hout := List.all_eq_true.mp (List.all_eq_true.mp hranges r hr) c.toNat hblank
  rw [Bool.or_eq_true, Nat.blt_eq, Nat.blt_eq] at hout
  omega

end RuleReview.Text

namespace RuleReview.Ref
variable {s r : Text} {c : Char}

/-- A text that is no option and no range, with the characters of names and no empty part between slashes. -/
structure IsPlain (s : Text) : Prop where
  ne_nil : s ≠ []
  notOption : ¬"-".toList <+: s
  notRange : ¬"..".toList <:+: s
  notGap : ¬"//".toList <:+: s
  characters : ∀ c ∈ s, Text.isWord c = true ∨ c ∈ "./@^~+-".toList

/-- A plain text that ends as the name of a ref may end. -/
structure IsName (s : Text) : Prop extends IsPlain s where
  notFolder : ¬"/".toList <:+ s
  notLock : ¬".lock".toList <:+ s

theorem isRefChar_iff : isRefChar c = true ↔ Text.isWord c = true ∨ c ∈ "./@^~+-".toList := by
  rw [isRefChar, Bool.or_eq_true, List.contains_iff_mem]

theorem isRefChar_lineFeed : isRefChar '\n' = false := by decide +kernel

theorem isBlank_of_isRefChar (h : isRefChar c = true) : Text.isBlank c = false ∧ ¬Text.IsControl c := by
  rcases isRefChar_iff.mp h with hw | hsign
  · exact ⟨Text.isBlank_of_isWord hw, Text.not_isControl_of_isWord hw⟩
  · have hsigns : ("./@^~+-".toList.all fun c => !Text.isBlank c && Nat.ble 0x20 c.toNat && Nat.blt c.toNat 0x7f) =
        true := by decide
    have hc := List.all_eq_true.mp hsigns c hsign
    rw [Bool.and_eq_true, Bool.and_eq_true, Bool.not_eq_true', Nat.ble_eq, Nat.blt_eq] at hc
    refine ⟨hc.1.1, ?_⟩
    rw [Text.IsControl]
    omega

@[simp] theorem chop_concat (s : Text) : chop (s ++ ['\n']) = s := by simp [chop]

theorem chop_of_getLast? (h : r.getLast? ≠ some '\n') : chop r = r := if_neg h

/-- Each check is one of the whole ref or of what is left of it without a line feed. -/
theorem problem?_eq_none_iff : problem? r = none ↔
    r ≠ [] ∧ ¬"-".toList <+: r ∧ ¬"..".toList <:+: r ∧ (chop r ≠ [] ∧ ∀ c ∈ chop r, isRefChar c = true) ∧
      (¬"/".toList <:+ r ∧ ¬".lock".toList <:+ r) ∧ ¬"//".toList <:+: r := by
  have hcheck (c : Prop) [Decidable c] (p : RefProblem) (next : Option RefProblem) :
      (if c then some p else next) = none ↔ ¬c ∧ next = none := by split <;> simp [*]
  have hall : (List.all (chop r) isRefChar = false) ↔ ¬∀ c ∈ chop r, isRefChar c = true := by
    rw [← Bool.not_eq_true, List.all_eq_true]
  simp only [problem?, hcheck, hall, and_true, Text.startsWith, Text.endsWith, Text.holds_iff,
    List.isPrefixOf_iff_prefix, List.isSuffixOf_iff_suffix, List.isEmpty_iff, Bool.or_eq_true, not_or,
    Bool.not_eq_true', not_not, ne_eq]

theorem problem?_of_isName (h : IsName r) : problem? r = none := by
  have hlast : r.getLast? ≠ some '\n' := by
    intro hlast
    have hsign := isRefChar_iff.mpr (h.characters '\n' (List.mem_of_getLast? hlast))
    rw [isRefChar_lineFeed] at hsign
    cases hsign
  rw [problem?_eq_none_iff, chop_of_getLast? hlast]
  exact ⟨h.ne_nil, h.notOption, h.notRange, ⟨h.ne_nil, fun c hc => isRefChar_iff.mpr (h.characters c hc)⟩,
    ⟨h.notFolder, h.notLock⟩, h.notGap⟩

theorem problem?_concat_eq_none_iff : problem? (s ++ ['\n']) = none ↔ IsPlain s := by
  have hoption : "-".toList <+: s ++ ['\n'] ↔ "-".toList <+: s := by
    cases s <;> simp [List.cons_prefix_cons]
  rw [problem?_eq_none_iff, chop_concat, hoption, Text.infix_concat_iff (by decide) (by decide),
    Text.infix_concat_iff (by decide) (by decide)]
  constructor
  · rintro ⟨-, hoption, hrange, ⟨hne, hall⟩, -, hgap⟩
    exact ⟨hne, hoption, hrange, hgap, fun c hc => isRefChar_iff.mp (hall c hc)⟩
  · intro h
    exact ⟨by simp, h.notOption, h.notRange, ⟨h.ne_nil, fun c hc => isRefChar_iff.mpr (h.characters c hc)⟩,
      ⟨Text.not_suffix_concat (by decide) (by decide), Text.not_suffix_concat (by decide) (by decide)⟩, h.notGap⟩

theorem isName_of_problem? (h : problem? r = none) (hlast : r.getLast? ≠ some '\n') : IsName r := by
  rw [problem?_eq_none_iff, chop_of_getLast? hlast] at h
  obtain ⟨hne, hoption, hrange, ⟨-, hall⟩, ⟨hfolder, hlock⟩, hgap⟩ := h
  exact ⟨⟨hne, hoption, hrange, hgap, fun c hc => isRefChar_iff.mp (hall c hc)⟩, hfolder, hlock⟩

/-- What is let through: a name, and a plain text with a line feed behind it. -/
inductive IsAccepted : Text → Prop
  | name {r : Text} : IsName r → IsAccepted r
  | broken {s : Text} : IsPlain s → IsAccepted (s ++ ['\n'])

theorem isAccepted_iff : IsAccepted r ↔ problem? r = none := by
  constructor
  · rintro (h | h)
    · exact problem?_of_isName h
    · exact problem?_concat_eq_none_iff.mpr h
  · intro h
    by_cases hlast : r.getLast? = some '\n'
    · obtain ⟨s, rfl⟩ := List.getLast?_eq_some_iff.mp hlast
      exact .broken (problem?_concat_eq_none_iff.mp h)
    · exact .name (isName_of_problem? h hlast)

theorem IsAccepted.exists_isPlain (h : IsAccepted r) : ∃ s, (r = s ∨ r = s ++ ['\n']) ∧ IsPlain s := by
  cases h with
  | name h => exact ⟨r, .inl rfl, h.toIsPlain⟩
  | @broken s h => exact ⟨s, .inr rfl, h⟩

/-- A ref is returned as it is exactly when it is accepted, and refused otherwise. In an accepted ref only a line feed at
its end can be a blank or a control character. -/
theorem validate_accepts_iff (r : Text) :
    (∀ r', validate r = .ok r' ↔ r' = r ∧ IsAccepted r) ∧ (¬IsAccepted r → ∃ p, validate r = .error (.ref r p)) ∧
      (IsAccepted r → ∃ s, (r = s ∨ r = s ++ ['\n']) ∧
        ∀ c ∈ s, Text.isBlank c = false ∧ ¬Text.IsControl c) := by
  refine ⟨fun r' => ?_, fun hr => ?_, fun hr => ?_⟩
  · rw [isAccepted_iff, validate]
    cases problem? r <;> simp [eq_comm]
  · rw [isAccepted_iff] at hr
    obtain ⟨p, hp⟩ := Option.ne_none_iff_exists'.mp hr
    exact ⟨p, by rw [validate, hp]⟩
  · obtain ⟨s, hs, hplain⟩ := hr.exists_isPlain
    exact ⟨s, hs, fun c hc => isBlank_of_isRefChar (isRefChar_iff.mpr (hplain.characters c hc))⟩

/-- A branch with a line feed behind it is accepted, although a line feed is no character of a name. -/
theorem validate_lineFeed :
    validate "main\n".toList = .ok "main\n".toList ∧ ¬IsName "main\n".toList ∧ Text.isBlank '\n' = true := by
  have hnone : problem? "main\n".toList = none := by decide +kernel
  refine ⟨by rw [validate, hnone], fun h => ?_, by decide⟩
  have hchars := h.characters '\n' (by decide)
  rw [← isRefChar_iff, isRefChar_lineFeed] at hchars
  cases hchars

end RuleReview.Ref
