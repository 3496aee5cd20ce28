import RuleReview.Proofs.Json.Quotes
import RuleReview.Proofs.Json.Spelling

/-! # Where the parts of a spelled object lie

In a spelling of an object of strings and lists of strings there are only blanks, commas, colons and brackets outside of
the strings, but for the braces at both ends. So a mark such as a backtick or a further brace lies in a string. A text
cut off at such a place cannot be read, and one that begins at such a place has no names but what lies between strings.
-/
namespace RuleReview.Json

/-- The characters by which places in a spelling are told. -/
def isMark (c : Char) : Bool := c = '\x60' || c = '\x7b' || c = '\x7d'

/-- The characters between the strings of a spelling. -/
def isJoint (c : Char) : Bool := isSpace c || c = ',' || c = ':' || c = '[' || c = ']'

/-- The rest of a spelling, from a place within a string or between strings: strings may hold anything, though no mark
is escaped; between them are joints, and the closing brace at the very end. -/
def Framed : Bool → Text → Prop
  | _, [] => True
  | true, '"' :: s => Framed false s
  | true, '\\' :: c :: s => isMark c = false ∧ Framed true s
  | true, _ :: s => Framed true s
  | false, '"' :: s => Framed true s
  | false, c :: s => (isJoint c = true ∨ c = '\x7d' ∧ s = []) ∧ Framed false s

/-- Whether a text ends within a string, when it begins within one or not. -/
def endsWithin : Bool → Text → Bool
  | within, [] => within
  | true, '"' :: s => endsWithin false s
  | true, '\\' :: _ :: s => endsWithin true s
  | true, _ :: s => endsWithin true s
  | false, '"' :: s => endsWithin true s
  | false, _ :: s => endsWithin false s

variable {c : Char} {x : Glyph} {g : Glyphs} {gs : List Glyphs} {s s' r start rest : Text} {v : Strings}
  {ms : List (Text × Strings)} {within : Bool}

section Framing

theorem framed_cons (hq : c ≠ '"') (hb : c ≠ '\\') : Framed true (c :: s) ↔ Framed true s := by
  rw [Framed] <;> simp_all

theorem framed_joint (hq : c ≠ '"') (hc : isJoint c = true) : Framed false (c :: s) ↔ Framed false s := by
  rw [Framed]
  · simp [hc]
  · simpa using hq

theorem endsWithin_cons (hq : c ≠ '"') (hb : c ≠ '\\') : endsWithin true (c :: s) = endsWithin true s := by
  rw [endsWithin] <;> simp_all

theorem endsWithin_outside (hq : c ≠ '"') : endsWithin false (c :: s) = endsWithin false s := by
  rw [endsWithin]
  simpa using hq

theorem isMark_iff : isMark c = true ↔ c = '\x60' ∨ c = '\x7b' ∨ c = '\x7d' := by simp [isMark, or_assoc]

theorem not_isJoint_of_isMark (h : isMark c = true) : isJoint c = false := by
  rcases isMark_iff.mp h with rfl | rfl | rfl <;> decide

theorem hexValue?_ne {n : Nat} (h : Text.hexValue? c = some n) : c ≠ '"' ∧ c ≠ '\\' := by
  constructor
  · rintro rfl
    cases h
  · rintro rfl
    cases h

theorem unitOf?_ne {x₁ x₂ x₃ x₄ : Char} {u : Nat} (h : unitOf? x₁ x₂ x₃ x₄ = some u) :
    ∀ x ∈ [x₁, x₂, x₃, x₄], x ≠ '"' ∧ x ≠ '\\' := by
  obtain ⟨n₁, h₁, h⟩ := Option.bind_eq_some_iff.mp h
  obtain ⟨n₂, h₂, h⟩ := Option.bind_eq_some_iff.mp h
  obtain ⟨n₃, h₃, h⟩ := Option.bind_eq_some_iff.mp h
  obtain ⟨n₄, h₄, -⟩ := Option.bind_eq_some_iff.mp h
  simp only [List.forall_mem_cons]
  exact ⟨hexValue?_ne h₁, hexValue?_ne h₂, hexValue?_ne h₃, hexValue?_ne h₄, fun x hx => absurd hx List.not_mem_nil⟩

theorem framed_append {x : Text} (hx : ∀ c ∈ x, c ≠ '"' ∧ c ≠ '\\') : Framed true (x ++ s) ↔ Framed true s := by
  induction x with
  | nil => rfl
  | cons c x ih =>
    obtain ⟨hc, hx⟩ := List.forall_mem_cons.mp hx
    exact (framed_cons hc.1 hc.2).trans (ih hx)

theorem endsWithin_append {x : Text} (hx : ∀ c ∈ x, c ≠ '"' ∧ c ≠ '\\') :
    endsWithin true (x ++ s) = endsWithin true s := by
  induction x with
  | nil => rfl
  | cons c x ih =>
    obtain ⟨hc, hx⟩ := List.forall_mem_cons.mp hx
    exact (endsWithin_cons hc.1 hc.2).trans (ih hx)

theorem framed_unit {x₁ x₂ x₃ x₄ : Char} {u : Nat} (h : unitOf? x₁ x₂ x₃ x₄ = some u) (hr : Framed true r) :
    Framed true ('\\' :: 'u' :: x₁ :: x₂ :: x₃ :: x₄ :: r) :=
  ⟨by decide, (framed_append (unitOf?_ne h)).mpr hr⟩

theorem isMark_of_simpleEscape {d : Char} (h : simpleEscape? c = some d) : isMark c = false := by
  by_contra hc
  rcases isMark_iff.mp (Bool.not_eq_false _ ▸ hc) with rfl | rfl | rfl <;> cases h

theorem SpellsGlyph.framed (h : SpellsGlyph x s r) (hr : Framed true r) : Framed true s := by
  cases h with
  | plain hq hb => exact (framed_cons hq hb).mpr hr
  | short hk => exact ⟨isMark_of_simpleEscape hk, hr⟩
  | unit hu => exact framed_unit hu hr
  | pair hhi hlo => exact framed_unit hhi (framed_unit hlo hr)

theorem SpellsGlyphs.framed (h : SpellsGlyphs g s r) (hr : Framed false r) : Framed true s := by
  induction h with
  | nil => exact hr
  | cons hc _ ih => exact hc.framed (ih hr)

theorem Opens.framed (h : Opens c s r) (hr : Framed false (c :: r)) : Framed false s := by
  obtain ⟨blanks, hblanks, rfl⟩ := h
  induction blanks with
  | nil => exact hr
  | cons b blanks ih =>
    obtain ⟨hb, hblanks⟩ := List.forall_mem_cons.mp hblanks
    have hq : b ≠ '"' := by
      rintro rfl
      cases hb
    exact (framed_joint hq (by simp [isJoint, hb])).mpr (ih hblanks)

theorem Opens.framed_joint (h : Opens c s r) (hq : c ≠ '"') (hc : isJoint c = true) (hr : Framed false r) :
    Framed false s := h.framed ((Json.framed_joint hq hc).mpr hr)

theorem SpellsItems.framed (h : SpellsItems gs s r) (hr : Framed false r) : Framed false s := by
  induction h with
  | last ho ht hclose => exact ho.framed (ht.framed (hclose.framed_joint (by decide) (by decide) hr))
  | cons ho ht hcomma _ ih => exact ho.framed (ht.framed (hcomma.framed_joint (by decide) (by decide) (ih hr)))

theorem SpellsValue.framed (h : SpellsValue v s r) (hr : Framed false r) : Framed false s := by
  cases h with
  | one ho hg => exact ho.framed (hg.framed hr)
  | none ho hclose => exact ho.framed_joint (by decide) (by decide) (hclose.framed_joint (by decide) (by decide) hr)
  | many ho hgs => exact ho.framed_joint (by decide) (by decide) (hgs.framed hr)

theorem SpellsMembers.framed (h : SpellsMembers ms s []) : Framed false s := by
  generalize hr : ([] : Text) = r at h
  induction h with
  | last ho hk hcolon hv hclose =>
    subst hr
    have hend : Framed false ['\x7d'] := ⟨.inr ⟨rfl, rfl⟩, trivial⟩
    exact ho.framed (hk.framed (hcolon.framed_joint (by decide) (by decide) (hv.framed (hclose.framed hend))))
  | cons ho hk hcolon hv hcomma _ ih =>
    exact ho.framed (hk.framed (hcolon.framed_joint (by decide) (by decide)
      (hv.framed (hcomma.framed_joint (by decide) (by decide) (ih hr)))))

theorem Framed.mark {a b : Text} (h : Framed within (a ++ c :: b)) (hc : isMark c = true) (hb : b ≠ []) :
    endsWithin within (a ++ [c]) = true ∧ Framed true b := by
  obtain ⟨hq, hback⟩ : c ≠ '"' ∧ c ≠ '\\' := by
    rcases isMark_iff.mp hc with rfl | rfl | rfl <;> decide
  fun_induction endsWithin within a with
  | case1 within =>
    cases within with
    | true => exact ⟨endsWithin_cons hq hback, (framed_cons hq hback).mp h⟩
    | false =>
      rw [List.nil_append, Framed] at h
      · rcases h.1 with hjoint | ⟨-, hnil⟩
        · cases (not_isJoint_of_isMark hc).symm.trans hjoint
        · exact absurd hnil hb
      · simpa using hq
  | case2 s ih => exact ih h
  | case3 d s ih => exact ih h.2
  | case4 d s hdq hdb ih =>
    have hdq' : d ≠ '"' := fun he => hdq he
    by_cases hd : d = '\\'
    · subst hd
      cases s with
      | nil => cases hc.symm.trans h.1
      | cons x s => exact absurd rfl (hdb x s rfl)
    · rw [List.cons_append, framed_cons hdq' hd] at h
      rw [List.cons_append, endsWithin_cons hdq' hd]
      exact ih h
  | case5 s ih => exact ih h
  | case6 d s hd ih =>
    have hd' : d ≠ '"' := fun he => hd he
    rw [List.cons_append, Framed] at h
    · rw [List.cons_append, endsWithin_outside hd']
      exact ih h.2
    · simpa using hd'

end Framing

section Cut

theorem Strung.endsWithin_eq {us : List Nat} (h : Strung s us rest) : endsWithin true s = endsWithin false rest := by
  induction h with
  | close => rfl
  | unit hu _ ih => exact (endsWithin_append (unitOf?_ne hu)).trans ih
  | short _ _ ih => exact ih
  | plain hq hb _ _ ih => exact (endsWithin_cons hq hb).trans ih

theorem kept_endsWithin : Kept (fun r => endsWithin false r = true) fun _ => True where
  char hc h := by rwa [endsWithin_outside (ne_of_isOuter hc).1] at h
  string h hs := by
    obtain ⟨⟨us, r⟩, hunits, he⟩ := map_eq_ok.mp hs
    cases he
    exact ⟨(strung_of_units hunits).endsWithin_eq.symm.trans h, fun _ _ => trivial⟩

theorem Framed.units {e : Text} {us : List Nat} (h : Framed false (s ++ e)) (he : e ≠ [])
    (hus : units start s = .ok (us, rest)) :
    Framed true (rest ++ e) ∧ ∃ x : Text, (∀ c ∈ x, isJoint c = true) ∧ us = x.map Char.toNat := by
  induction s generalizing us with
  | nil => cases hus
  | cons c s ih =>
    by_cases hq : c = '"'
    · subst hq
      cases hus
      exact ⟨h, [], by simp, rfl⟩
    · rw [List.cons_append, Framed] at h
      · obtain ⟨hc, hs⟩ := h
        have hjoint : isJoint c = true := by
          rcases hc with hc | ⟨-, hnil⟩
          · exact hc
          · exact absurd (List.append_eq_nil_iff.mp hnil).2 he
        have hback : c ≠ '\\' := by
          rintro rfl
          cases hjoint
        rw [Json.units] at hus
        · split at hus
          · cases hus
          · obtain ⟨⟨vs, t⟩, hvs, heq⟩ := map_eq_ok.mp hus
            cases heq
            obtain ⟨hrest, x, hx, rfl⟩ := ih hs hvs
            exact ⟨hrest, c :: x, List.forall_mem_cons.mpr ⟨hjoint, hx⟩, rfl⟩
        all_goals simp_all
      · simpa using hq

/-- A reader that takes the strings of a spelling for what lies between them finds names of joints only. -/
theorem kept_framed : Kept (fun r => ∃ e, e ≠ [] ∧ Framed true (r ++ e)) fun t => ∀ c ∈ t, isJoint c = true where
  char hc h := by
    obtain ⟨e, he, h⟩ := h
    obtain ⟨hq, hb⟩ := ne_of_isOuter hc
    exact ⟨e, he, (framed_cons hq hb).mp h⟩
  string h hs := by
    obtain ⟨e, he, h⟩ := h
    obtain ⟨⟨us, r⟩, hunits, heq⟩ := map_eq_ok.mp hs
    cases heq
    obtain ⟨hrest, x, hx, rfl⟩ := Framed.units (s := _) h he hunits
    refine ⟨⟨e, he, hrest⟩, fun t ht => ?_⟩
    rw [glyphsOfUnits_map_toNat, Glyphs.text?_ofText] at ht
    exact Option.some.inj ht ▸ hx

end Cut

end RuleReview.Json
