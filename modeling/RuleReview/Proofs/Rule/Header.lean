import RuleReview.Proofs.Check
import RuleReview.Proofs.Decimal.Digits
import RuleReview.Proofs.Success
import RuleReview.Proofs.Text.Glyph
import RuleReview.Proofs.Text.Trimmed
import RuleReview.Rule

/-! # What a header says about a rule

A header that passes its checks names the rule by a trimmed text, gives it a version that starts with three numbers,
and says with trimmed texts to which files the rule applies and which ones it is read with.
-/
namespace RuleReview

namespace Rule

/-- Three numbers that points separate. -/
def IsTriple (s : Text) : Prop :=
  ∃ a b c, s = a ++ '.' :: (b ++ '.' :: c) ∧ Text.IsNumeral a ∧ Text.IsNumeral b ∧ Text.IsNumeral c

def IsVersion (g : Glyphs) : Prop := ∃ s rest, IsTriple s ∧ g = .ofText s ++ rest

variable {s r : Text}

theorem head?_digit_iff : s.head?.any Text.isDigit = true ↔ ∃ ds rest, s = ds ++ rest ∧ Text.IsNumeral ds := by
  constructor
  · intro h
    cases s with
    | nil => cases h
    | cons c s => exact ⟨[c], s, rfl, List.cons_ne_nil c [], List.forall_mem_singleton.mpr h⟩
  · rintro ⟨ds, rest, rfl, hne, hds⟩
    obtain ⟨c, ds, rfl⟩ := List.exists_cons_of_ne_nil hne
    exact hds c List.mem_cons_self

theorem afterNumber?_eq_some : afterNumber? s = some r ↔ ∃ ds, s = ds ++ '.' :: r ∧ Text.IsNumeral ds := by
  constructor
  · intro h
    rw [afterNumber?] at h
    split at h
    · next rest hrest =>
      split at h
      · next hhead =>
        cases h
        refine ⟨s.takeWhile Text.isDigit, ?_, ?_, List.all_eq_true.mp List.all_takeWhile⟩
        · rw [← hrest, List.takeWhile_append_dropWhile]
        · obtain ⟨c, s, rfl⟩ : ∃ c t, s = c :: t := by cases s <;> simp_all
          rw [List.takeWhile_cons_of_pos (by simpa using hhead)]
          exact List.cons_ne_nil _ _
      · cases h
    · cases h
  · rintro ⟨ds, rfl, hds⟩
    have hhead : (ds ++ '.' :: r).head?.any Text.isDigit = true := head?_digit_iff.mpr ⟨ds, _, rfl, hds⟩
    have hdrop : (ds ++ '.' :: r).dropWhile Text.isDigit = '.' :: r := by
      rw [List.dropWhile_append_of_pos hds.2]
      exact List.dropWhile_cons_of_neg (by decide)
    rw [afterNumber?, hdrop]
    exact if_pos hhead

theorem startsWithVersion_iff : startsWithVersion s = true ↔ ∃ u rest, IsTriple u ∧ s = u ++ rest := by
  have hlast : startsWithVersion s = true ↔
      ∃ q r, afterNumber? s = some q ∧ afterNumber? q = some r ∧ r.head?.any Text.isDigit = true := by
    rw [startsWithVersion]
    cases h : (afterNumber? s).bind afterNumber? with
    | none =>
      refine ⟨nofun, ?_⟩
      rintro ⟨q, r, hq, hr, -⟩
      rw [hq, Option.bind_some, hr] at h
      cases h
    | some r =>
      obtain ⟨q, hq, hr⟩ := Option.bind_eq_some_iff.mp h
      refine ⟨fun hdigit => ⟨q, r, hq, hr, hdigit⟩, ?_⟩
      rintro ⟨q', r', hq', hr', hdigit⟩
      cases hq.symm.trans hq'
      cases hr.symm.trans hr'
      exact hdigit
  rw [hlast]
  constructor
  · rintro ⟨q, r, hq, hr, hdigit⟩
    obtain ⟨a, rfl, ha⟩ := afterNumber?_eq_some.mp hq
    obtain ⟨b, rfl, hb⟩ := afterNumber?_eq_some.mp hr
    obtain ⟨c, rest, rfl, hc⟩ := head?_digit_iff.mp hdigit
    exact ⟨_, rest, ⟨a, b, c, rfl, ha, hb, hc⟩, by simp⟩
  · rintro ⟨_, rest, ⟨a, b, c, rfl, ha, hb, hc⟩, rfl⟩
    exact ⟨_, _, afterNumber?_eq_some.mpr ⟨a, by simp, ha⟩, afterNumber?_eq_some.mpr ⟨b, rfl, hb⟩,
      head?_digit_iff.mpr ⟨c, rest, rfl, hc⟩⟩

theorem IsTriple.notMem (h : IsTriple s) : '\uFFFD' ∉ s := by
  obtain ⟨a, b, c, rfl, ha, hb, hc⟩ := h
  have hnumeral : ∀ {ds : Text}, Text.IsNumeral ds → '\uFFFD' ∉ ds := fun hds hmem => by cases hds.2 _ hmem
  simp [hnumeral ha, hnumeral hb, hnumeral hc]

theorem isVersion_of_startsWith {g : Glyphs} (h : startsWithVersion g.lossy = true) : IsVersion g := by
  obtain ⟨s, t, hs, hg⟩ := startsWithVersion_iff.mp h
  obtain ⟨rest, hrest⟩ := Glyphs.exists_of_lossy_eq_append hg hs.notMem
  exact ⟨s, rest, hs, hrest⟩

/-- What the header of every rule gives. -/
structure Header.IsSound (h : Header) : Prop where
  id : h.id.IsTrimmed
  version : IsVersion h.version
  patterns_ne_nil : h.patterns ≠ []
  patterns : ∀ p ∈ h.patterns, p.IsTrimmed
  contextFiles : ∀ n ∈ h.contextFiles, n.IsTrimmed

section
variable {m : HeaderMapping} {place : Nat} {g : Glyphs}

theorem isTrimmed_of_checkId (h : checkId m place = .pass g) : g.IsTrimmed := by
  obtain ⟨t, -, ht⟩ := Check.andThen_eq_pass.mp h
  split at ht
  · cases ht
  · next hblank =>
    cases ht
    exact Glyphs.isTrimmed_trim (by simpa using hblank)

theorem isVersion_of_checkVersion (h : checkVersion m place = .pass g) : IsVersion g := by
  rw [checkVersion] at h
  split at h
  · cases h
  · cases h
  · dsimp only at h
    split at h
    · next hstart =>
      cases h
      exact isVersion_of_startsWith hstart
    · cases h

theorem checkEntries_eq_pass {least : Nat} {gs : List Glyphs} (h : checkEntries least m place = .pass gs) :
    least ≤ gs.length ∧ ∀ g ∈ gs, g.IsTrimmed := by
  obtain ⟨given, hgiven, hgs⟩ := Check.andThen_eq_pass.mp h
  obtain ⟨items, -, hgiven⟩ := Check.andThen_eq_pass.mp hgiven
  have hlength : least ≤ given.length := by
    split at hgiven
    · cases hgiven
    · next hmany => exact (Check.items_eq_pass.mp hgiven).length_eq ▸ Nat.le_of_not_lt hmany
  split at hgs
  · cases hgs
  · next hblank =>
    cases hgs
    refine ⟨hlength.trans_eq (List.length_map _).symm, List.forall_mem_map.mpr fun g hg => Glyphs.isTrimmed_trim ?_⟩
    have hall := fun hb => hblank (List.any_eq_true.mpr ⟨g, hg, hb⟩)
    simpa using hall

theorem Header.isSound_of_checkHeader {ms : List (Text × Nat)} {h : Header} (hpass : checkHeader m ms = .pass h) :
    h.IsSound := by
  simp only [checkHeader, Check.seq_eq_pass, Check.map_eq_pass, Check.field_eq_pass, Check.wrong_ne_pass, and_false,
    or_false] at hpass
  obtain ⟨_, contextFiles, ⟨_, patterns, ⟨_, version, ⟨id, ⟨_, -, hid⟩, rfl⟩, ⟨_, -, hversion⟩, rfl⟩,
    ⟨_, -, hpatterns⟩, rfl⟩, hcontext, rfl⟩ := hpass
  obtain ⟨hsome, hpatterns⟩ := checkEntries_eq_pass hpatterns
  refine ⟨isTrimmed_of_checkId hid, isVersion_of_checkVersion hversion, List.length_pos_iff.mp hsome, hpatterns, ?_⟩
  rcases hcontext with ⟨_, -, hcontext⟩ | ⟨-, hcontext⟩
  · exact (checkEntries_eq_pass hcontext).2
  · cases hcontext
    exact fun n hn => absurd hn List.not_mem_nil

end

end Rule

end RuleReview
