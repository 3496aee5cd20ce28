import Mathlib.Data.List.Nodup

/-! # Lists without repetitions

Dropping repetitions leaves each entry once, where it came first. Dropping the entries whose label was met before
leaves each label once, with the first entry that has it.
-/
namespace RuleReview
variable {α β : Type}

section
variable [BEq α] [LawfulBEq α]

theorem nodup_eraseDups (as : List α) : as.eraseDups.Nodup := by
  match as with
  | [] => exact List.nodup_nil
  | a :: as =>
    rw [List.eraseDups_cons, List.nodup_cons]
    refine ⟨?_, nodup_eraseDups _⟩
    simp [List.mem_eraseDups]
termination_by as.length
decreasing_by exact Nat.lt_succ_of_le (List.length_filter_le _ as)

theorem eraseDups_of_nodup {as : List α} (h : as.Nodup) : as.eraseDups = as := by
  induction as with
  | nil => rfl
  | cons a as ih =>
    obtain ⟨ha, has⟩ := List.nodup_cons.mp h
    have hrest : as.filter (fun b => !b == a) = as :=
      List.filter_eq_self.mpr fun b hb => by simpa using fun he : b = a => ha (he ▸ hb)
    rw [List.eraseDups_cons, hrest, ih has]

/-- What stands in a list of pairs under a name is found by the name, when no name stands there twice. -/
theorem lookup_of_mem {a : α} {b : β} {abs : List (α × β)} (hn : (abs.map Prod.fst).Nodup) (hm : (a, b) ∈ abs) :
    abs.lookup a = some b := by
  induction abs with
  | nil => cases hm
  | cons x abs ih =>
    rw [List.map_cons, List.nodup_cons] at hn
    rcases List.mem_cons.mp hm with rfl | hlater
    · simp
    · have hne : a ≠ x.1 := by
        rintro rfl
        exact hn.1 (List.mem_map.mpr ⟨_, hlater, rfl⟩)
      rw [List.lookup_cons, beq_false_of_ne hne]
      exact ih hn.2 hlater

theorem eraseDups_append_of_nodup (as : List α) {bs : List α} (h : bs.Nodup) :
    (as ++ bs).eraseDups = as.eraseDups ++ bs.filter (!as.contains ·) := by
  rw [List.eraseDups_append, List.removeAll, eraseDups_of_nodup (h.filter _)]

end

variable [BEq β]

/-- The entries whose labels were not met before, neither at an earlier entry nor among some that were seen. -/
def firsts (label : α → β) : List β → List α → List α
  | _, [] => []
  | seen, a :: as =>
    if seen.contains (label a) then firsts label seen as else a :: firsts label (label a :: seen) as

variable {label : α → β}

theorem firsts_cons (seen : List β) (a : α) (as : List α) : firsts label seen (a :: as) =
    if seen.contains (label a) then firsts label seen as else a :: firsts label (label a :: seen) as := rfl

/-- Dropping entries that are not the first ones with their labels changes nothing. -/
theorem firsts_filter {seen : List β} {as : List α} {p : α → Bool} (h : ∀ a ∈ firsts label seen as, p a = true) :
    firsts label seen (as.filter p) = firsts label seen as := by
  induction as generalizing seen with
  | nil => rfl
  | cons a as ih =>
    rw [firsts_cons] at h ⊢
    by_cases hseen : seen.contains (label a) = true
    · rw [if_pos hseen] at h ⊢
      rw [← ih h, List.filter_cons]
      split
      · rw [firsts_cons, if_pos hseen]
      · rfl
    · rw [if_neg hseen] at h ⊢
      obtain ⟨ha, h⟩ := List.forall_mem_cons.mp h
      rw [List.filter_cons_of_pos ha, firsts_cons, if_neg hseen, ih h]

theorem firsts_sublist (seen : List β) (as : List α) : (firsts label seen as).Sublist as := by
  induction as generalizing seen with
  | nil => exact List.Sublist.refl []
  | cons a as ih =>
    rw [firsts_cons]
    split
    · exact (ih seen).cons a
    · exact (ih _).cons_cons a

theorem firsts_subset (seen : List β) (as : List α) : firsts label seen as ⊆ as := (firsts_sublist seen as).subset

theorem firsts_map {γ : Type} (g : γ → α) (seen : List β) (cs : List γ) :
    firsts label seen (cs.map g) = (firsts (fun c => label (g c)) seen cs).map g := by
  induction cs generalizing seen with
  | nil => rfl
  | cons c cs ih =>
    rw [List.map_cons, firsts_cons, firsts_cons, ih, ih]
    split <;> rfl

variable [LawfulBEq β]

theorem map_firsts (seen : List β) (as : List α) :
    (firsts label seen as).map label = ((as.map label).filter (!seen.contains ·)).eraseDups := by
  induction as generalizing seen with
  | nil => rfl
  | cons a as ih =>
    rw [firsts_cons, List.map_cons]
    by_cases h : seen.contains (label a) = true
    · rw [if_pos h, List.filter_cons_of_neg (by simpa using h), ih]
    · rw [if_neg h, List.filter_cons_of_pos (by simpa using h), List.eraseDups_cons, List.filter_filter, List.map_cons,
        ih]
      simp only [List.contains_cons, Bool.not_or]

theorem label_notMem_of_mem_firsts {seen : List β} {as : List α} {a : α} (h : a ∈ firsts label seen as) :
    label a ∉ seen := by
  induction as generalizing seen with
  | nil => cases h
  | cons b as ih =>
    rw [firsts_cons] at h
    split at h
    · exact ih h
    · next hb =>
      rcases List.mem_cons.mp h with rfl | h
      · simpa using hb
      · exact fun hmem => ih h (List.mem_cons_of_mem _ hmem)

theorem find?_of_mem_firsts {seen : List β} {as : List α} {a : α} (h : a ∈ firsts label seen as) :
    as.find? (label · == label a) = some a := by
  induction as generalizing seen with
  | nil => cases h
  | cons b as ih =>
    rw [firsts_cons] at h
    split at h
    · next hb =>
      have hne : label b ≠ label a := fun he => label_notMem_of_mem_firsts h (he ▸ by simpa using hb)
      rw [List.find?_cons_of_neg (by simpa using hne), ih h]
    · rcases List.mem_cons.mp h with rfl | h
      · rw [List.find?_cons_of_pos (by simp)]
      · have hne : label b ≠ label a := fun he => label_notMem_of_mem_firsts h (he ▸ List.mem_cons_self)
        rw [List.find?_cons_of_neg (by simpa using hne), ih h]

theorem firsts_congr {seen seen' : List β} (h : ∀ b, b ∈ seen ↔ b ∈ seen') (as : List α) :
    firsts label seen as = firsts label seen' as := by
  induction as generalizing seen seen' with
  | nil => rfl
  | cons a as ih =>
    have hseen : seen.contains (label a) = seen'.contains (label a) := by
      rw [Bool.eq_iff_iff, List.contains_iff_mem, List.contains_iff_mem, h]
    have hnext : ∀ b, b ∈ label a :: seen ↔ b ∈ label a :: seen' := fun b => by rw [List.mem_cons, List.mem_cons, h]
    rw [firsts_cons, firsts_cons, hseen, ih h, ih hnext]

theorem mem_firsts {seen : List β} {as : List α} {a : α} :
    a ∈ firsts label seen as ↔ label a ∉ seen ∧ as.find? (label · == label a) = some a := by
  refine ⟨fun h => ⟨label_notMem_of_mem_firsts h, find?_of_mem_firsts h⟩, ?_⟩
  rintro ⟨hseen, h⟩
  induction as generalizing seen with
  | nil => cases h
  | cons b as ih =>
    rw [List.find?_cons] at h
    rw [firsts_cons]
    split at h
    · next hb =>
      cases h
      rw [if_neg (by simpa using hseen)]
      exact List.mem_cons_self
    · next hb =>
      have hne : label a ≠ label b := fun he => by simp [he] at hb
      split
      · exact ih hseen h
      · exact List.mem_cons_of_mem _ (ih (by simp [hseen, hne]) h)

theorem exists_mem_firsts (label : α → β) {as : List α} {a : α} (h : a ∈ as) :
    ∃ b ∈ firsts label [] as, label b = label a ∧ as.find? (label · == label a) = some b := by
  obtain ⟨b, hb⟩ := Option.isSome_iff_exists.mp
    (List.find?_isSome.mpr ⟨a, h, beq_self_eq_true (label a)⟩ : (as.find? (label · == label a)).isSome = true)
  have hlabel : label b = label a := by simpa using List.find?_some hb
  exact ⟨b, mem_firsts.mpr ⟨List.not_mem_nil, by rw [hlabel, hb]⟩, hlabel, hb⟩

theorem firsts_eq_nil {as : List α} : firsts label [] as = [] ↔ as = [] := by
  refine ⟨fun h => List.eq_nil_iff_forall_not_mem.mpr fun a ha => ?_, fun h => by rw [h]; rfl⟩
  obtain ⟨b, hb, -⟩ := exists_mem_firsts label ha
  rw [h] at hb
  cases hb

end RuleReview
