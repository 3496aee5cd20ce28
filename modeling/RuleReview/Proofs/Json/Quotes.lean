import Mathlib.Data.List.TakeWhile
import RuleReview.Json.Reader
import RuleReview.Proofs.Diff.Header
import RuleReview.Proofs.Success

/-! # Quotes outside of strings

Outside of strings the reader passes over blanks, marks and the characters of numbers and words, and takes a quote for
the opening of a string. What each of these two keeps of the rest of the text is kept by reading a whole value.
-/
namespace RuleReview.Json

/-- The characters that may stand outside of strings. -/
def isOuter (c : Char) : Bool :=
  isSpace c || c.isAlphanum || ['{', '}', '[', ']', ',', ':', '+', '-', '.'].contains c

def isWord (c : Char) : Bool := isOuter c && !isSpace c

/-- `r` is left of `s` after some characters that may stand outside of strings. -/
def Passes (s r : Text) : Prop := ∃ x, (∀ c ∈ x, isOuter c = true) ∧ s = x ++ r

/-- What is left to read has a property, which a character outside of strings keeps, and so does a string; what is read
as a string has another one, if it is a text. -/
structure Kept (P Q : Text → Prop) : Prop where
  char {c : Char} {r : Text} : isOuter c = true → P (c :: r) → P r
  string {r rest : Text} {g : Glyphs} : P ('"' :: r) → string ('"' :: r) = .ok (g, rest) →
    P rest ∧ ∀ t, g.text? = some t → Q t

variable {P Q : Text → Prop} {s r rest t : Text} {v : Json} {c : Char} {fuel depth : Nat}

section Numbers

/-- The sign of an exponent, and what follows it. -/
def signed : Text → Bool × Text
  | '-' :: r => (true, r)
  | '+' :: r => (false, r)
  | r => (false, r)

/-- What an exponent comes to, by its sign and its digits. -/
def exponentOf (negative : Bool) : Text × Text → Option (Int × Text)
  | ([], _) => none
  | (ds, rest) =>
    let n : Int := Text.numberOfDigits ds
    some (if negative then -n else n, rest)

theorem exponent?_letter (hc : c = 'e' ∨ c = 'E') (s : Text) :
    exponent? (c :: s) = exponentOf (signed s).1 (digits (signed s).2) := by
  unfold exponent?
  exact if_pos hc

theorem exponent?_other (hc : ¬(c = 'e' ∨ c = 'E')) (s : Text) : exponent? (c :: s) = none := by
  unfold exponent?
  exact if_neg hc

def whole : Text → Text × Text
  | '0' :: r => (['0'], r)
  | r => digits r

/-- What a number comes to, once it is known what its sign is and what stands before a point or an exponent. -/
def numberOf (s : Text) (negative : Bool) : Text × Text → Except Stop (Json × Text)
  | (whole, rest) =>
    if whole.isEmpty then .error ⟨.value, s⟩
    else match fraction? rest, exponent? ((fraction? rest).map (·.2) |>.getD rest) with
      | none, none =>
        if Numeral.digitLimit < whole.length then .error ⟨.tooLong whole.length, s⟩
        else
          let n : Int := Text.numberOfDigits whole
          .ok (.int (if negative then -n else n), rest)
      | fr, ex =>
        let places := (fr.map (·.1)).getD []
        let after := (fr.map (·.2)).getD rest
        let (e, after) := ex.getD (0, after)
        .ok (.float (.ofDecimal negative (Text.numberOfDigits (whole ++ places)) (e - places.length)), after)

theorem number_minus (s : Text) : number ('-' :: s) = numberOf ('-' :: s) true (whole s) := rfl

theorem number_plain (hs : ∀ r, s ≠ '-' :: r) : number s = numberOf s false (whole s) := by
  unfold number
  split
  next negative unsigned hsign =>
  obtain ⟨rfl, rfl⟩ : negative = false ∧ unsigned = s := by
    split at hsign
    · exact absurd rfl (hs _)
    · cases hsign
      exact ⟨rfl, rfl⟩
  rfl

end Numbers

section Passing

theorem isOuter_of_isSpace (h : isSpace c = true) : isOuter c = true := by simp [isOuter, h]

theorem isOuter_of_isDigit (h : c.isDigit = true) : isOuter c = true := by simp [isOuter, Char.isAlphanum, h]

theorem isOuter_of_isWord (h : isWord c = true) : isOuter c = true := (Bool.and_eq_true_iff.mp h).1

theorem isSpace_of_isWord (h : isWord c = true) : isSpace c = false := by
  simpa using (Bool.and_eq_true_iff.mp h).2

theorem isWord_of_isDigit (h : c.isDigit = true) : isWord c = true := by
  have hspace : isSpace c = false := by
    refine Bool.eq_false_iff.mpr fun hs => ?_
    have hcases : c = ' ' ∨ c = '\t' ∨ c = '\n' ∨ c = '\r' := by simpa [isSpace, or_assoc] using hs
    rcases hcases with rfl | rfl | rfl | rfl <;> cases h
  simp [isWord, isOuter_of_isDigit h, hspace]

theorem ne_of_isOuter (h : isOuter c = true) : c ≠ '"' ∧ c ≠ '\\' := by
  constructor
  · rintro rfl
    cases h
  · rintro rfl
    cases h

theorem Passes.refl (s : Text) : Passes s s := ⟨[], by simp, rfl⟩

theorem Passes.cons (hc : isOuter c = true) (h : Passes s r) : Passes (c :: s) r := by
  obtain ⟨x, hx, rfl⟩ := h
  exact ⟨c :: x, List.forall_mem_cons.mpr ⟨hc, hx⟩, rfl⟩

theorem Passes.trans (h : Passes s r) (h' : Passes r t) : Passes s t := by
  obtain ⟨x, hx, rfl⟩ := h
  obtain ⟨y, hy, rfl⟩ := h'
  exact ⟨x ++ y, List.forall_mem_append.mpr ⟨hx, hy⟩, (List.append_assoc _ _ _).symm⟩

theorem passes_dropWhile {p : Char → Bool} (hp : ∀ {c}, p c = true → isOuter c = true) (s : Text) :
    Passes s (s.dropWhile p) :=
  ⟨s.takeWhile p, fun _ hc => hp (List.mem_takeWhile_imp hc), List.takeWhile_append_dropWhile.symm⟩

theorem passes_skipSpace (s : Text) : Passes s (skipSpace s) := passes_dropWhile isOuter_of_isSpace s

theorem passes_digits {ds : Text} (h : digits s = (ds, r)) : Passes s r := by
  obtain rfl : s.dropWhile Char.isDigit = r := congrArg Prod.snd h
  exact passes_dropWhile isOuter_of_isDigit s

theorem passes_fraction {ds : Text} (h : fraction? s = some (ds, r)) : Passes s r := by
  unfold fraction? at h
  split at h
  · split at h
    · cases h
    · exact .cons (by decide) (passes_digits (Option.some.inj h))
  · cases h

theorem passes_signed (s : Text) : Passes s (signed s).2 := by
  unfold signed
  split
  · exact .cons (by decide) (.refl _)
  · exact .cons (by decide) (.refl _)
  · exact .refl _

theorem passes_exponent {e : Int} (h : exponent? s = some (e, r)) : Passes s r := by
  cases s with
  | nil => cases h
  | cons c s =>
    by_cases hc : c = 'e' ∨ c = 'E'
    · have hletter : isOuter c = true := by
        rcases hc with rfl | rfl <;> decide
      rw [exponent?_letter hc] at h
      refine .cons hletter ((passes_signed s).trans ?_)
      generalize hdigits : digits (signed s).2 = found at h
      obtain ⟨ds, rest⟩ := found
      cases ds with
      | nil => cases h
      | cons d ds =>
        cases h
        exact passes_digits hdigits
    · cases (exponent?_other hc s).symm.trans h

theorem passes_whole (s : Text) : Passes s (whole s).2 := by
  unfold whole
  split
  · exact .cons (by decide) (.refl _)
  · exact passes_digits rfl

theorem passes_numberOf {negative : Bool} {found : Text × Text} (h : numberOf s negative found = .ok (v, r)) :
    Passes found.2 r ∧ v.members? = none := by
  obtain ⟨whole, rest⟩ := found
  have hfraction : Passes rest (((fraction? rest).map (·.2)).getD rest) := by
    cases hf : fraction? rest with
    | none => exact .refl rest
    | some found => exact passes_fraction hf
  have hexponent (after : Text) : Passes after ((exponent? after).getD (0, after)).2 := by
    cases he : exponent? after with
    | none => exact .refl after
    | some found => exact passes_exponent he
  rw [numberOf] at h
  split at h
  · cases h
  split at h
  · split at h <;> cases h
    exact ⟨.refl _, rfl⟩
  · cases h
    exact ⟨hfraction.trans (hexponent _), rfl⟩

theorem passes_number (h : number s = .ok (v, r)) : Passes s r ∧ v.members? = none := by
  by_cases hs : ∃ u, s = '-' :: u
  · obtain ⟨u, rfl⟩ := hs
    obtain ⟨hrest, hv⟩ := passes_numberOf ((number_minus u).symm.trans h)
    exact ⟨.cons (by decide) ((passes_whole u).trans hrest), hv⟩
  · obtain ⟨hrest, hv⟩ := passes_numberOf ((number_plain (not_exists.mp hs)).symm.trans h)
    exact ⟨(passes_whole s).trans hrest, hv⟩

def words : List (String × Json) :=
  [("null", .null), ("true", .bool true), ("false", .bool false), ("NaN", .float .nan),
    ("Infinity", .float (.infinite false)), ("-Infinity", .float (.infinite true))]

theorem word?_eq (s : Text) : word? s = words.findSome? fun m => (Text.after? s m.1.toList).map (m.2, ·) := rfl

theorem isWord_of_mem_words {m : String × Json} (hm : m ∈ words) : ∀ c ∈ m.1.toList, isWord c = true := by
  have hall : (words.all fun m => m.1.toList.all isWord) = true := by decide
  exact List.all_eq_true.mp (List.all_eq_true.mp hall m hm)

theorem members?_of_mem_words {m : String × Json} (hm : m ∈ words) : m.2.members? = none := by
  revert m
  simp [words, members?]

theorem passes_word (h : word? s = some (v, r)) : Passes s r ∧ v.members? = none := by
  obtain ⟨m, hmem, hm⟩ := List.exists_of_findSome?_eq_some ((word?_eq s).symm.trans h)
  obtain ⟨rest, hrest, he⟩ := Option.map_eq_some_iff.mp hm
  cases he
  have houter : ∀ c ∈ m.1.toList, isOuter c = true := fun c hc => isOuter_of_isWord (isWord_of_mem_words hmem c hc)
  exact ⟨⟨m.1.toList, houter, Text.after?_eq_some.mp hrest⟩, members?_of_mem_words hmem⟩

end Passing

section Strings

/-- The code units of a string behind its opening quote, with the text behind its closing one. -/
inductive Strung : Text → List Nat → Text → Prop
  | close {r : Text} : Strung ('"' :: r) [] r
  | unit {x₁ x₂ x₃ x₄ : Char} {u : Nat} {us : List Nat} {s r : Text} (hu : unitOf? x₁ x₂ x₃ x₄ = some u)
      (h : Strung s us r) : Strung ('\\' :: 'u' :: x₁ :: x₂ :: x₃ :: x₄ :: s) (u :: us) r
  | short {c k : Char} {us : List Nat} {s r : Text} (hk : simpleEscape? c = some k) (h : Strung s us r) :
      Strung ('\\' :: c :: s) (k.toNat :: us) r
  | plain {c : Char} {us : List Nat} {s r : Text} (hq : c ≠ '"') (hb : c ≠ '\\') (hc : ¬c.toNat < 0x20)
      (h : Strung s us r) : Strung (c :: s) (c.toNat :: us) r

variable {start : Text} {us : List Nat}

theorem strung_of_units (h : units start s = .ok (us, r)) : Strung s us r := by
  fun_induction units start s generalizing us with
  | case2 s =>
    cases h
    exact .close
  | case4 x₁ x₂ x₃ x₄ s u hu _ ih =>
    obtain ⟨⟨vs, t⟩, hvs, he⟩ := map_eq_ok.mp h
    cases he
    exact .unit hu (ih hvs)
  | case8 c s _ _ k hk ih =>
    obtain ⟨⟨vs, t⟩, hvs, he⟩ := map_eq_ok.mp h
    cases he
    exact .short hk (ih hvs)
  | case10 c s hq hlone _ hescape hc ih =>
    obtain ⟨⟨vs, t⟩, hvs, he⟩ := map_eq_ok.mp h
    cases he
    refine .plain hq ?_ hc (ih hvs)
    rintro rfl
    cases s with
    | nil => exact hlone rfl rfl
    | cons d s => exact hescape d s rfl rfl
  | _ => cases h

theorem Strung.ne_nil (h : Strung s us r) : s ≠ [] := by cases h <;> exact List.cons_ne_nil _ _

theorem Strung.units_eq (h : Strung s us r) (start : Text) : units start s = .ok (us, r) := by
  induction h with
  | close => rfl
  | unit hu h ih =>
    rw [units, hu, List.isEmpty_eq_false_iff.mpr h.ne_nil, ih]
    rfl
  | short hk _ ih =>
    rw [units, if_neg, hk, ih]
    · rfl
    · rintro rfl
      cases hk
    · rintro _ _ _ _ _ rfl
      cases hk
  | plain hq hb hc _ ih =>
    rw [units, if_neg hc, ih]
    · rfl
    all_goals simp_all

end Strings

section Reading

variable {before : List (Glyphs × Json)} {gs : List (Glyphs × Json)} {g : Glyphs} {vs : List Json}

/-- The names of an object that are texts have the property. -/
def Names (Q : Text → Prop) (v : Json) : Prop := ∀ ms, v.members? = some ms → ∀ m ∈ ms, Q m.1

def GlyphNames (Q : Text → Prop) (gs : List (Glyphs × Json)) : Prop := ∀ m ∈ gs, ∀ t, m.1.text? = some t → Q t

theorem names_of_members?_eq_none (h : v.members? = none) : Names Q v := by
  intro ms hms
  cases h.symm.trans hms

theorem names_ofGlyphs (g : Glyphs) : Names Q (ofGlyphs g) := by
  refine names_of_members?_eq_none ?_
  rw [ofGlyphs]
  cases g.text? <;> rfl

theorem exists_of_mapM_eq_some {α β : Type} {f : α → Option β} {as : List α} {bs : List β} (h : as.mapM f = some bs)
    {b : β} (hb : b ∈ bs) : ∃ a ∈ as, f a = some b := by
  induction as generalizing bs with
  | nil =>
    cases h
    cases hb
  | cons a as ih =>
    rw [List.mapM_cons] at h
    obtain ⟨c, hc, h⟩ := Option.bind_eq_some_iff.mp h
    obtain ⟨cs, hcs, h⟩ := Option.bind_eq_some_iff.mp h
    cases h
    rcases List.mem_cons.mp hb with rfl | hb
    · exact ⟨a, List.mem_cons_self, hc⟩
    · obtain ⟨a', ha', he⟩ := ih hcs hb
      exact ⟨a', List.mem_cons_of_mem a ha', he⟩

theorem names_ofMembers (h : GlyphNames Q gs) : Names Q (ofMembers gs) := by
  intro ms hms m hm
  rw [ofMembers] at hms
  cases hall : gs.mapM fun m => (Glyphs.text? m.1).map (·, m.2) with
  | none =>
    rw [hall] at hms
    cases hms
    obtain ⟨x, hx, he⟩ := List.mem_filterMap.mp hm
    obtain ⟨t, ht, rfl⟩ := Option.map_eq_some_iff.mp he
    exact h x hx t ht
  | some ms' =>
    rw [hall] at hms
    cases hms
    obtain ⟨x, hx, he⟩ := exists_of_mapM_eq_some hall hm
    obtain ⟨t, ht, rfl⟩ := Option.map_eq_some_iff.mp he
    exact h x hx t ht

theorem GlyphNames.put (h : GlyphNames Q before) (hg : ∀ t, g.text? = some t → Q t) (v : Json) :
    GlyphNames Q (Members.put before g v) := by
  intro m hm
  rw [Members.put] at hm
  split at hm
  · obtain ⟨x, hx, rfl⟩ := List.mem_map.mp hm
    split
    · exact hg
    · exact h x hx
  · rcases List.mem_append.mp hm with hm | hm
    · exact h m hm
    · obtain rfl := List.mem_singleton.mp hm
      exact hg

theorem Kept.passes (h : Kept P Q) (hp : Passes s r) (hs : P s) : P r := by
  obtain ⟨x, hx, rfl⟩ := hp
  induction x with
  | nil => exact hs
  | cons c x ih =>
    obtain ⟨hc, hx⟩ := List.forall_mem_cons.mp hx
    exact ih hx (h.char hc hs)

/-- What the readers of values, of items and of members keep, with some fuel. -/
structure Keeps (P Q : Text → Prop) (fuel : Nat) : Prop where
  value {depth : Nat} {s r : Text} {v : Json} : value fuel depth s = .ok (v, r) → P s → P r ∧ Names Q v
  items {depth : Nat} {s r : Text} {vs : List Json} : items fuel depth s = .ok (vs, r) → P s → P r
  members {depth : Nat} {s r : Text} {before gs : List (Glyphs × Json)} : members fuel depth before s = .ok (gs, r) →
    P s → GlyphNames Q before → P r ∧ GlyphNames Q gs

theorem Kept.value (h : Kept P Q) (hk : Keeps P Q fuel) (hv : value (fuel + 1) depth s = .ok (v, r)) (hs : P s) :
    P r ∧ Names Q v := by
  unfold Json.value at hv
  split at hv
  · obtain ⟨⟨g, rest⟩, hstring, hg⟩ := bind_eq_ok.mp hv
    cases hg
    exact ⟨(h.string hs hstring).1, names_ofGlyphs g⟩
  · next s₁ =>
    have hs₁ : P (skipSpace s₁) := h.passes (passes_skipSpace s₁) (h.char (by decide) hs)
    split at hv
    · cases hv
    split at hv
    · next hclose =>
      cases hv
      rw [hclose] at hs₁
      exact ⟨h.char (by decide) hs₁, fun ms hms m hm => by cases hms; cases hm⟩
    · obtain ⟨⟨gs, rest⟩, hmembers, hg⟩ := bind_eq_ok.mp hv
      cases hg
      have hkept := hk.members hmembers hs₁ (fun m hm => absurd hm List.not_mem_nil)
      exact ⟨hkept.1, names_ofMembers hkept.2⟩
  · next s₁ =>
    have hs₁ : P (skipSpace s₁) := h.passes (passes_skipSpace s₁) (h.char (by decide) hs)
    split at hv
    · cases hv
    split at hv
    · next hclose =>
      cases hv
      rw [hclose] at hs₁
      exact ⟨h.char (by decide) hs₁, names_of_members?_eq_none rfl⟩
    · obtain ⟨⟨vs, rest⟩, hitems, hg⟩ := bind_eq_ok.mp hv
      cases hg
      exact ⟨hk.items hitems hs₁, names_of_members?_eq_none rfl⟩
  · have hpasses : Passes s r ∧ v.members? = none := by
      cases hword : word? s with
      | none =>
        rw [hword] at hv
        exact passes_number hv
      | some found =>
        rw [hword] at hv
        cases hv
        exact passes_word hword
    exact ⟨h.passes hpasses.1 hs, names_of_members?_eq_none hpasses.2⟩

theorem Kept.items (h : Kept P Q) (hk : Keeps P Q fuel) (hv : items (fuel + 1) depth s = .ok (vs, r)) (hs : P s) :
    P r := by
  unfold Json.items at hv
  obtain ⟨⟨v, s₁⟩, hvalue, hrest⟩ := bind_eq_ok.mp hv
  have hs₁ : P (skipSpace s₁) := h.passes (passes_skipSpace s₁) (hk.value hvalue hs).1
  dsimp only at hrest
  split at hrest
  · next hclose =>
    cases hrest
    exact h.char (by decide) (hclose ▸ hs₁)
  · next s₂ hcomma =>
    obtain ⟨⟨vs, rest⟩, hitems, hg⟩ := bind_eq_ok.mp hrest
    cases hg
    have hs₂ : P s₂ := h.char (by decide) (hcomma ▸ hs₁)
    exact hk.items hitems (h.passes (passes_skipSpace s₂) hs₂)
  · cases hrest

theorem Kept.members (h : Kept P Q) (hk : Keeps P Q fuel) (hv : members (fuel + 1) depth before s = .ok (gs, r))
    (hs : P s) (hb : GlyphNames Q before) : P r ∧ GlyphNames Q gs := by
  unfold Json.members at hv
  split at hv
  · obtain ⟨⟨g, s₁⟩, hstring, hrest⟩ := bind_eq_ok.mp hv
    obtain ⟨hs₁, hg⟩ := h.string hs hstring
    have hs₂ : P (skipSpace s₁) := h.passes (passes_skipSpace s₁) hs₁
    dsimp only at hrest
    split at hrest
    · next s₃ hcolon =>
      have hs₃ : P s₃ := h.char (by decide) (hcolon ▸ hs₂)
      obtain ⟨⟨v, s₄⟩, hvalue, hrest⟩ := bind_eq_ok.mp hrest
      have hs₄ := (hk.value hvalue (h.passes (passes_skipSpace s₃) hs₃)).1
      have hs₅ : P (skipSpace s₄) := h.passes (passes_skipSpace s₄) hs₄
      dsimp only at hrest
      split at hrest
      · next hclose =>
        cases hrest
        exact ⟨h.char (by decide) (hclose ▸ hs₅), hb.put hg v⟩
      · next s₆ hcomma =>
        have hs₆ : P s₆ := h.char (by decide) (hcomma ▸ hs₅)
        exact hk.members hrest (h.passes (passes_skipSpace s₆) hs₆) (hb.put hg v)
      · cases hrest
    · cases hrest
  · cases hv

theorem Kept.keeps (h : Kept P Q) (fuel : Nat) : Keeps P Q fuel := by
  induction fuel with
  | zero =>
    refine ⟨fun hv _ => ?_, fun hv _ => ?_, fun hv _ _ => ?_⟩
    · cases hv
    · cases hv
    · cases hv
  | succ fuel ih => exact ⟨h.value ih, h.items ih, h.members ih⟩

theorem parse_eq_ok : parse s = .ok v ↔ (∀ r, s ≠ '\uFEFF' :: r) ∧
    ∃ r, value (s.length + 1) 0 (skipSpace s) = .ok (v, r) ∧ skipSpace r = [] := by
  have hmark : Text.startsWith s ['\uFEFF'] = true ↔ ∃ r, s = '\uFEFF' :: r := by
    rw [Text.startsWith, List.isPrefixOf_iff_prefix]
    exact exists_congr fun r => eq_comm
  have hdocument : parse s = .ok v ↔ ∃ rest, document s = .ok (v, rest) := by
    rw [parse]
    rcases document s with e | ⟨w, rest⟩ <;> simp
  rw [hdocument, document]
  by_cases hs : Text.startsWith s ['\uFEFF'] = true
  · obtain ⟨r, hr⟩ := hmark.mp hs
    rw [if_pos hs]
    exact ⟨fun h => (nomatch h), fun h => absurd hr (h.1 r)⟩
  · rw [if_neg hs]
    refine ⟨fun ⟨rest, h⟩ => ⟨fun r hr => hs (hmark.mpr ⟨r, hr⟩), ?_⟩, fun ⟨_, r, hvalue, hend⟩ => ⟨[], ?_⟩⟩
    · obtain ⟨⟨w, r⟩, hvalue, h⟩ := bind_eq_ok.mp h
      dsimp only at h
      split at h
      · next hend =>
        cases h
        exact ⟨r, hvalue, List.isEmpty_iff.mp hend⟩
      · cases h
    · refine bind_eq_ok.mpr ⟨(v, r), hvalue, ?_⟩
      dsimp only
      rw [hend]
      rfl

theorem Kept.parse (h : Kept P Q) (hp : parse s = .ok v) (hs : P s) : P [] ∧ Names Q v := by
  obtain ⟨-, r, hvalue, hend⟩ := parse_eq_ok.mp hp
  obtain ⟨hr, hnames⟩ := (h.keeps (s.length + 1)).value hvalue (h.passes (passes_skipSpace s) hs)
  exact ⟨hend ▸ h.passes (passes_skipSpace r) hr, hnames⟩

end Reading

end RuleReview.Json
