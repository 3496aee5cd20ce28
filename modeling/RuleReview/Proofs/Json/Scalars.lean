import RuleReview.Proofs.Json.Quotes

/-! # Numbers and words with more behind them

They are read up to the first character that is none of theirs. So what is read is the same, whatever text follows that
does not go on with such a character.
-/
namespace RuleReview.Json

/-- Nothing of a number or a word goes on at the start of the text. -/
def Stops (s : Text) : Prop := ∀ c ∈ s.head?, isWord c = false

variable {s t x r : Text} {c : Char} {v : Json}

theorem Stops.not_cons (hc : isWord c = true) (ht : Stops t) (s : Text) : t ≠ c :: s := by
  rintro rfl
  cases hc.symm.trans (ht c rfl)

theorem digits_append (ht : Stops t) (x : Text) : digits (x ++ t) = (digits x).map id (· ++ t) := by
  induction x with
  | nil =>
    cases t with
    | nil => rfl
    | cons d t =>
      have hd : d.isDigit = false := by
        by_contra hd
        exact ht.not_cons (isWord_of_isDigit (by simpa using hd)) t rfl
      simp [digits, hd]
  | cons c x ih =>
    by_cases hc : c.isDigit = true
    · simpa [digits, hc] using ih
    · simp [digits, hc]

theorem fraction?_append (ht : Stops t) (x : Text) :
    fraction? (x ++ t) = (fraction? x).map (Prod.map id (· ++ t)) := by
  have hother {s : Text} (hs : ∀ r, s ≠ '.' :: r) : fraction? s = none := by
    rw [fraction?]
    exact hs
  cases x with
  | nil => exact hother (ht.not_cons (by decide))
  | cons c x =>
    by_cases hc : c = '.'
    · subst hc
      rw [List.cons_append, fraction?, fraction?, digits_append ht]
      obtain ⟨ds, r⟩ := digits x
      cases ds <;> rfl
    · have hne (y r : Text) : c :: y ≠ '.' :: r := fun he => hc (List.cons.inj he).1
      rw [List.cons_append, hother (hne _), hother (hne _)]
      rfl

theorem signed_append (ht : Stops t) (x : Text) : signed (x ++ t) = (signed x).map id (· ++ t) := by
  have hplain {s : Text} (hs : ∀ r, s ≠ '-' :: r) (hs' : ∀ r, s ≠ '+' :: r) : signed s = (false, s) := by
    rw [signed]
    · exact hs
    · exact hs'
  cases x with
  | nil => exact hplain (ht.not_cons (by decide)) (ht.not_cons (by decide))
  | cons c x =>
    by_cases hminus : c = '-'
    · subst hminus
      rfl
    by_cases hplus : c = '+'
    · subst hplus
      rfl
    have hne (y r : Text) : c :: y ≠ '-' :: r := fun he => hminus (List.cons.inj he).1
    have hne' (y r : Text) : c :: y ≠ '+' :: r := fun he => hplus (List.cons.inj he).1
    rw [List.cons_append, hplain (hne _) (hne' _), hplain (hne _) (hne' _)]
    rfl

theorem exponent?_append (ht : Stops t) (x : Text) :
    exponent? (x ++ t) = (exponent? x).map (Prod.map id (· ++ t)) := by
  cases x with
  | nil =>
    cases t with
    | nil => rfl
    | cons d t =>
      refine exponent?_other ?_ t
      rintro (rfl | rfl)
      · exact ht.not_cons (by decide) t rfl
      · exact ht.not_cons (by decide) t rfl
  | cons c x =>
    by_cases hc : c = 'e' ∨ c = 'E'
    · rw [List.cons_append, exponent?_letter hc, exponent?_letter hc, signed_append ht, Prod.map_fst, Prod.map_snd, id,
        digits_append ht]
      obtain ⟨ds, r⟩ := digits (signed x).2
      cases ds <;> rfl
    · rw [List.cons_append, exponent?_other hc, exponent?_other hc]
      rfl

theorem whole_append (ht : Stops t) (x : Text) : whole (x ++ t) = (whole x).map id (· ++ t) := by
  have hplain {s : Text} (hs : ∀ r, s ≠ '0' :: r) : whole s = digits s := by
    rw [whole]
    exact hs
  cases x with
  | nil =>
    rw [List.nil_append, hplain (ht.not_cons (by decide))]
    exact digits_append ht []
  | cons c x =>
    by_cases hc : c = '0'
    · subst hc
      rfl
    · have hne (y r : Text) : c :: y ≠ '0' :: r := fun he => hc (List.cons.inj he).1
      rw [List.cons_append, hplain (hne _), hplain (hne _)]
      exact digits_append ht (c :: x)

/-- What is read is the same with more behind it, and so is a fault. -/
def behind (t : Text) (found : Except Stop (Json × Text)) : Except Stop (Json × Text) :=
  match found with
  | .ok (v, r) => .ok (v, r ++ t)
  | .error e => .error ⟨e.fault, e.rest ++ t⟩

theorem numberOf_append (ht : Stops t) (s : Text) (negative : Bool) (found : Text × Text) :
    numberOf (s ++ t) negative (found.map id (· ++ t)) = behind t (numberOf s negative found) := by
  obtain ⟨whole, rest⟩ := found
  have hfraction := fraction?_append ht rest
  have hexponent := exponent?_append ht
  rw [Prod.map, id, numberOf, numberOf]
  split
  · rfl
  cases hf : fraction? rest with
  | none =>
    rw [hf] at hfraction
    simp only [hfraction, Option.map_none, Option.getD_none, hexponent]
    cases exponent? rest with
    | none =>
      simp only [Option.map_none]
      split <;> rfl
    | some found => rfl
  | some places =>
    rw [hf] at hfraction
    simp only [hfraction, Option.map_some, Option.getD_some, Prod.map_snd, hexponent]
    cases exponent? places.2 <;> rfl

theorem number_append (ht : Stops t) (x : Text) : number (x ++ t) = behind t (number x) := by
  cases x with
  | nil =>
    rw [List.nil_append, number_plain (ht.not_cons (by decide))]
    have hnumber := numberOf_append ht [] false (whole [])
    rwa [← whole_append ht] at hnumber
  | cons c x =>
    by_cases hc : c = '-'
    · subst hc
      rw [List.cons_append, number_minus, whole_append ht, number_minus]
      exact numberOf_append ht ('-' :: x) true (whole x)
    · have hne (y r : Text) : c :: y ≠ '-' :: r := fun he => hc (List.cons.inj he).1
      rw [List.cons_append, number_plain (hne _), number_plain (hne _), ← List.cons_append, whole_append ht]
      exact numberOf_append ht (c :: x) false (whole (c :: x))

theorem after?_append_of_stops (ht : Stops t) (hx : ∀ c ∈ x, isWord c = true) (s : Text) :
    (s ++ t).after? x = (s.after? x).map (· ++ t) := by
  induction x generalizing s with
  | nil => rfl
  | cons c x ih =>
    obtain ⟨hc, hx⟩ := List.forall_mem_cons.mp hx
    cases s with
    | nil =>
      cases t with
      | nil => rfl
      | cons d t =>
        have hne : c ≠ d := by
          rintro rfl
          exact ht.not_cons hc t rfl
        simp [Text.after?, List.isPrefixOf?, hne]
    | cons d s =>
      have hrest := ih hx s
      simp only [Text.after?] at hrest
      by_cases hd : c = d
      · simp [Text.after?, List.isPrefixOf?, hd, hrest]
      · simp [Text.after?, List.isPrefixOf?, hd]

theorem word?_append (ht : Stops t) (s : Text) : word? (s ++ t) = (word? s).map (Prod.map id (· ++ t)) := by
  rw [word?_eq, word?_eq, List.map_findSome?, ← List.head?_filterMap, ← List.head?_filterMap]
  refine congrArg List.head? (List.filterMap_congr fun m hm => ?_)
  rw [Function.comp, after?_append_of_stops ht (isWord_of_mem_words hm)]
  cases Text.after? s m.1.toList <;> rfl

/-- A value that is a word or a number. -/
def scalar (s : Text) : Except Stop (Json × Text) := (word? s).elim (number s) .ok

theorem scalar_append (ht : Stops t) (x : Text) : scalar (x ++ t) = behind t (scalar x) := by
  rw [scalar, scalar, word?_append ht, number_append ht]
  cases word? x <;> rfl

theorem passes_scalar (h : scalar s = .ok (v, r)) : Passes s r := by
  rw [scalar] at h
  cases hword : word? s with
  | none =>
    rw [hword] at h
    exact (passes_number h).1
  | some found =>
    rw [hword] at h
    cases h
    exact (passes_word hword).1

end RuleReview.Json
