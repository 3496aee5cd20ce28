import RuleReview.Proofs.Expression.Order

/-! # The pieces that expressions take

Matching tells what comes after a part by a function of the place where it ends, so what a part does is told by the
pieces it can take off the text: it matches with what comes after it exactly when some piece does.
-/
namespace RuleReview.Expression

/-- An expression takes the pieces that satisfy `P`, and marks nothing. -/
def Takes (e : Expression) (P : Text → Prop) : Prop :=
  ∀ (s : Spot) (next : Next),
    (run e s next).isSome = true ↔ ∃ u, u <+: s.after ∧ P u ∧ (next (s.over u)).isSome = true

theorem Takes.congr {e : Expression} {P Q : Text → Prop} (h : e.Takes P) (hPQ : ∀ u, P u ↔ Q u) : e.Takes Q := by
  rwa [← funext fun u => propext (hPQ u)]

theorem takes_oneOf (k : CharClass) : (oneOf k .same).Takes fun u => ∃ c, k.holds c = true ∧ u = [c] := by
  intro s next
  rw [run_oneOf]
  cases hs : s.after with
  | nil => simp [Spot.step?, hs]
  | cons c r =>
    rw [Spot.step?_eq hs]
    constructor
    · intro h
      split at h
      next hc => exact ⟨[c], ⟨r, rfl⟩, ⟨c, hc, rfl⟩, h⟩
      next => cases h
    · rintro ⟨_, ⟨r', hr⟩, ⟨d, hd, rfl⟩, hnext⟩
      obtain rfl : d = c := (List.cons.inj hr).1
      rwa [if_pos hd]

theorem Takes.seq {a b : Expression} {P Q : Text → Prop} (ha : a.Takes P) (hb : b.Takes Q) :
    (seq a b).Takes fun u => ∃ v w, u = v ++ w ∧ P v ∧ Q w := by
  intro s next
  rw [run, ha s]
  simp only [hb _ next, Spot.over_after]
  constructor
  · rintro ⟨v, hv, hP, w, hw, hQ, hnext⟩
    exact ⟨v ++ w, append_prefix_iff.mpr ⟨hv, hw⟩, ⟨v, w, rfl, hP, hQ⟩, by rwa [Spot.over_append]⟩
  · rintro ⟨_, hu, ⟨v, w, rfl, hP, hQ⟩, hnext⟩
    obtain ⟨hv, hw⟩ := append_prefix_iff.mp hu
    exact ⟨v, hv, hP, w, hw, hQ, by rwa [← Spot.over_append]⟩

theorem Takes.optional {a : Expression} {P : Text → Prop} (ha : a.Takes P) :
    (times 0 (some 1) .most a).Takes fun u => u = [] ∨ P u := by
  intro s next
  rw [run_maybe, Option.isSome_or, Bool.or_eq_true, ha s]
  constructor
  · rintro (⟨u, hu, hP, hnext⟩ | hnext)
    · exact ⟨u, hu, .inr hP, hnext⟩
    · exact ⟨[], List.nil_prefix, .inl rfl, hnext⟩
  · rintro ⟨u, hu, rfl | hP, hnext⟩
    · exact .inr hnext
    · exact .inl ⟨u, hu, hP, hnext⟩

theorem takes_star (k : CharClass) : (times 0 none .most (oneOf k .same)).Takes fun u => ∀ c ∈ u, k.holds c = true := by
  intro s next
  simp only [run_most, List.findSome?_isSome_iff, List.mem_reverse, Spot.mem_stretches, and_assoc]

end RuleReview.Expression
