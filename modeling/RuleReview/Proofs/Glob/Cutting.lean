import Mathlib.Data.List.Forall2
import RuleReview.Glob
import RuleReview.Proofs.Text.Cut

/-! # What patterns mean

A pattern without classes is read from the left, each time into the longest token it starts with. A path matches
when it can be cut into pieces, one for each token in order, that match the tokens. The matcher tries what each
token may leave of the path; where no line feed is in the way, these are the rests after all pieces that match.
-/
namespace RuleReview.Glob

def Token.spelling? : Token → Option Text
  | .directories => some "**/"
  | .anything => some "**"
  | .segment => some "*"
  | .one => some "?"
  | .lit c => if c = '*' ∨ c = '?' then none else some [c]
  | .oneOf _ => none

/-- A token is the longest one that a text starts with, and leaves the rest of it. -/
def Token.Leads (t : Token) (s rest : Text) : Prop :=
  ∃ p, t.spelling? = some p ∧ s = p ++ rest ∧
    ∀ u q r, Token.spelling? u = some q → s = q ++ r → q.length ≤ p.length

/-- Reading a text from the left into the longest tokens. -/
inductive ReadsAs : Text → List Token → Prop where
  | nil : ReadsAs [] []
  | cons {t : Token} {s rest : Text} {ts : List Token} : t.Leads s rest → ReadsAs rest ts → ReadsAs s (t :: ts)

/-- No bracket that opens is followed by one that closes. -/
def IsClassless (pattern : Text) : Prop := ∀ before after, pattern = before ++ '[' :: after → ']' ∉ after

/-- The pieces of a path that match a token. -/
def Token.Matches : Token → Text → Prop
  | .directories, u => u = [] ∨ ∃ v, u = v ++ ['/']
  | .anything, _ => True
  | .segment, u => '/' ∉ u
  | .one, u => ∃ c, c ≠ '/' ∧ u = [c]
  | .lit c, u => u = [c]
  | .oneOf k, u => ∃ c, k.holds c = true ∧ u = [c]

/-- The path is made of pieces, one for each token, that match the tokens. -/
def Cuts (ts : List Token) (path : Text) : Prop :=
  ∃ pieces, List.Forall₂ Token.Matches ts pieces ∧ pieces.flatten = path

/-! ## Reading patterns -/

theorem spelling?_cases {t : Token} {p : Text} (h : t.spelling? = some p) :
    p = "**/".toList ∨ p = "**".toList ∨ p.length = 1 := by
  cases t with
  | directories => exact .inl (Option.some.inj h).symm
  | anything => exact .inr (.inl (Option.some.inj h).symm)
  | segment | one => exact .inr (.inr (by cases h; rfl))
  | lit c =>
    rw [Token.spelling?] at h
    split at h
    · cases h
    · exact .inr (.inr (by cases h; rfl))
  | oneOf k => cases h

theorem spelling?_inj {t u : Token} {p : Text} (ht : t.spelling? = some p) (hu : u.spelling? = some p) : t = u := by
  cases t <;> cases u <;> simp_all [Token.spelling?] <;> grind

theorem Token.Leads.ne_nil {t : Token} {s r : Text} (h : t.Leads s r) : s ≠ [] := by
  obtain ⟨p, hp, rfl, -⟩ := h
  rcases spelling?_cases hp with rfl | rfl | hlength
  · simp
  · simp
  · exact List.append_ne_nil_of_left_ne_nil (List.ne_nil_of_length_eq_add_one hlength) r

theorem Token.Leads.unique {t u : Token} {s r q : Text} (ht : t.Leads s r) (hu : u.Leads s q) : t = u ∧ r = q := by
  obtain ⟨a, ha, hs, hlongest⟩ := ht
  obtain ⟨b, hb, hs', hlongest'⟩ := hu
  have hlength : a.length = b.length :=
    Nat.le_antisymm (hlongest' t a r ha hs) (hlongest u b q hb hs')
  obtain ⟨rfl, rfl⟩ := List.append_inj (hs.symm.trans hs') hlength
  exact ⟨spelling?_inj ha hb, rfl⟩

theorem ReadsAs.unique {s : Text} {ts us : List Token} (h : ReadsAs s ts) (h' : ReadsAs s us) : ts = us := by
  induction h generalizing us with
  | nil =>
    cases h' with
    | nil => rfl
    | cons hu _ => exact absurd rfl hu.ne_nil
  | cons ht _ ih =>
    cases h' with
    | nil => exact absurd rfl ht.ne_nil
    | cons hu hrest =>
      obtain ⟨rfl, rfl⟩ := ht.unique hu
      rw [ih hrest]

theorem leads_of_longest {t : Token} {p rest : Text} (hp : t.spelling? = some p)
    (hthree : "**/".toList <+: p ++ rest → 3 ≤ p.length) (htwo : "**".toList <+: p ++ rest → 2 ≤ p.length) :
    t.Leads (p ++ rest) rest := by
  refine ⟨p, hp, rfl, fun u q r hu hq => ?_⟩
  rcases spelling?_cases hu with rfl | rfl | hlength
  · exact hthree ⟨r, hq.symm⟩
  · exact htwo ⟨r, hq.symm⟩
  · have hne : p ≠ [] := by rcases spelling?_cases hp with rfl | rfl | h <;> grind
    exact hlength ▸ List.length_pos_iff.mpr hne

theorem directories_leads (r : Text) : Token.directories.Leads ('*' :: '*' :: '/' :: r) r :=
  leads_of_longest (p := "**/") rfl (fun _ => Nat.le_refl _) fun _ => by decide

theorem anything_leads {r : Text} (h : ∀ q, r ≠ '/' :: q) : Token.anything.Leads ('*' :: '*' :: r) r := by
  refine leads_of_longest (p := "**") rfl ?_ fun _ => Nat.le_refl _
  rintro ⟨q, hq⟩
  cases hq
  exact absurd rfl (h q)

theorem segment_leads {r : Text} (h : ∀ q, r ≠ '*' :: q) : Token.segment.Leads ('*' :: r) r := by
  refine leads_of_longest (p := "*") rfl ?_ ?_
  · rintro ⟨q, hq⟩
    cases hq
    exact absurd rfl (h ('/' :: q))
  · rintro ⟨q, hq⟩
    cases hq
    exact absurd rfl (h q)

theorem one_leads (r : Text) : Token.one.Leads ('?' :: r) r :=
  leads_of_longest (p := "?") rfl (by rintro ⟨q, hq⟩; cases hq) (by rintro ⟨q, hq⟩; cases hq)

theorem lit_leads {c : Char} (r : Text) (hstar : c ≠ '*') (hmark : c ≠ '?') : (Token.lit c).Leads (c :: r) r := by
  refine leads_of_longest (p := [c]) (by simp [Token.spelling?, hstar, hmark]) ?_ ?_
  · rintro ⟨q, hq⟩
    exact absurd (List.cons.inj hq).1.symm hstar
  · rintro ⟨q, hq⟩
    exact absurd (List.cons.inj hq).1.symm hstar

theorem mem_of_closes {s : Text} (h : closes s = true) : ']' ∈ s := by
  unfold closes at h
  grind

theorem IsClassless.tail {p s : Text} (h : IsClassless (p ++ s)) : IsClassless s := by
  rintro before after rfl
  exact h (p ++ before) after (List.append_assoc ..).symm

theorem IsClassless.of_notMem {s : Text} (h : ']' ∉ s) : IsClassless s := by
  rintro before after rfl hmem
  exact h (List.mem_append_right _ (List.mem_cons_of_mem _ hmem))

theorem IsClassless.stripped {pattern : Text} (h : IsClassless pattern) :
    IsClassless ((pattern.after? "./").getD pattern) := by
  cases hs : pattern.after? "./" with
  | none => exact h
  | some s => exact (Text.after?_eq_some.mp hs ▸ h).tail

/-- A pattern without classes has no parts but tokens, and they are those it is read into. -/
theorem parts_eq_tokens {s : Text} (h : IsClassless s) : ∃ ts, parts none s = ts.map .token ∧ ReadsAs s ts := by
  have step : ∀ {t : Token} {s r : Text}, t.Leads s r → (∃ ts, parts none r = ts.map .token ∧ ReadsAs r ts) →
      ∃ ts, .token t :: parts none r = ts.map .token ∧ ReadsAs s ts := by
    rintro t s r ht ⟨ts, hts, hreads⟩
    exact ⟨t :: ts, by rw [hts, List.map_cons], .cons ht hreads⟩
  generalize ho : (none : Option Text) = o
  fun_induction parts o s with
  | case1 r ih => exact step (directories_leads r) (ih (h.tail (p := "**/")) rfl)
  | case2 r hslash ih => exact step (anything_leads hslash) (ih (h.tail (p := "**")) rfl)
  | case3 r _ hstar ih => exact step (segment_leads hstar) (ih (h.tail (p := "*")) rfl)
  | case4 r ih => exact step (one_leads r) (ih (h.tail (p := "?")) rfl)
  | case5 c r _ _ _ _ hopens _ => exact absurd (mem_of_closes hopens.2) (h [] r (by rw [hopens.1, List.nil_append]))
  | case6 c r _ _ hstar hmark _ ih => exact step (lit_leads r hstar hmark) (ih (h.tail (p := [c])) rfl)
  | case7 | case8 => cases ho
  | case9 => exact ⟨[], rfl, .nil⟩

theorem tokens?_map_token (ts : List Token) : tokens? (ts.map .token) = some ts := by
  induction ts with
  | nil => rfl
  | cons t ts ih =>
    rw [tokens?] at ih ⊢
    simp only [List.map_cons, List.mapM_cons, ih]
    rfl

theorem compile_of_classless {pattern : Text} (h : IsClassless pattern) :
    ∃ ts, ReadsAs ((pattern.after? "./").getD pattern) ts ∧
      parts none ((pattern.after? "./").getD pattern) = ts.map .token ∧ compile pattern = .ok (.tokens ts) := by
  obtain ⟨ts, hparts, hreads⟩ := parts_eq_tokens h.stripped
  exact ⟨ts, hreads, hparts, by simp only [compile, hparts, tokens?_map_token]⟩

/-! ## Matching paths -/

/-- The pieces that a token takes off a path: the wildcards with two stars stop at a line feed. -/
def Token.Takes (t : Token) (u : Text) : Prop := t.Matches u ∧ (t = .directories ∨ t = .anything → '\n' ∉ u)

theorem Token.takes_iff_matches {t : Token} {u : Text} (h : '\n' ∉ u) : t.Takes u ↔ t.Matches u :=
  and_iff_left fun _ => h

theorem mem_restsWhile_iff {p : Char → Bool} {s r : Text} :
    r ∈ restsWhile p s ↔ ∃ u, s = u ++ r ∧ ∀ c ∈ u, p c = true := by
  induction s with
  | nil => simp [restsWhile]
  | cons c s ih =>
    rw [restsWhile, List.mem_cons]
    constructor
    · rintro (rfl | hr)
      · exact ⟨[], rfl, by simp⟩
      · split at hr
        next hc =>
          obtain ⟨u, rfl, hu⟩ := ih.mp hr
          exact ⟨c :: u, rfl, List.forall_mem_cons.mpr ⟨hc, hu⟩⟩
        next => cases hr
    · rintro ⟨u, hs, hu⟩
      cases u with
      | nil => exact .inl hs.symm
      | cons d u =>
        obtain ⟨rfl, rfl⟩ := List.cons.inj hs
        obtain ⟨hc, hu⟩ := List.forall_mem_cons.mp hu
        exact .inr (by rw [if_pos hc]; exact ih.mpr ⟨u, rfl, hu⟩)

theorem mem_restsAfterSlash_iff {s r : Text} :
    r ∈ restsAfterSlash s ↔ ∃ v, '\n' ∉ v ∧ s = v ++ '/' :: r := by
  induction s with
  | nil => simp [restsAfterSlash]
  | cons c s ih =>
    rw [restsAfterSlash, List.mem_append]
    constructor
    · rintro (hr | hr)
      · split at hr
        next hc =>
          obtain rfl := List.mem_singleton.mp hr
          exact ⟨[], by simp, by rw [hc, List.nil_append]⟩
        next => cases hr
      · split at hr
        next => cases hr
        next hc =>
          obtain ⟨v, hv, rfl⟩ := ih.mp hr
          exact ⟨c :: v, List.not_mem_cons_of_ne_of_not_mem (Ne.symm hc) hv, rfl⟩
    · rintro ⟨v, hv, hs⟩
      cases v with
      | nil =>
        obtain ⟨rfl, rfl⟩ := List.cons.inj hs
        exact .inl (by simp)
      | cons d v =>
        obtain ⟨rfl, rfl⟩ := List.cons.inj hs
        obtain ⟨hc, hv⟩ := List.ne_and_not_mem_of_not_mem_cons hv
        exact .inr (by rw [if_neg (Ne.symm hc)]; exact ih.mpr ⟨v, hv, rfl⟩)

theorem exists_piece_char {p : Char → Prop} {c : Char} {s r : Text} :
    (∃ u, c :: s = u ++ r ∧ ∃ d, p d ∧ u = [d]) ↔ p c ∧ r = s := by
  constructor
  · rintro ⟨_, hs, d, hd, rfl⟩
    obtain ⟨rfl, rfl⟩ := List.cons.inj hs
    exact ⟨hd, rfl⟩
  · rintro ⟨hc, rfl⟩
    exact ⟨[c], rfl, c, hc, rfl⟩

theorem Token.mem_rests_iff {t : Token} {s r : Text} : r ∈ t.rests s ↔ ∃ u, s = u ++ r ∧ t.Takes u := by
  cases t with
  | directories =>
    rw [rests, List.mem_cons, mem_restsAfterSlash_iff]
    constructor
    · rintro (rfl | ⟨v, hv, rfl⟩)
      · exact ⟨[], rfl, .inl rfl, by simp⟩
      · exact ⟨v ++ ['/'], by simp, .inr ⟨v, rfl⟩, by simp [hv]⟩
    · rintro ⟨u, rfl, rfl | ⟨v, rfl⟩, hbreak⟩
      · exact .inl rfl
      · exact .inr ⟨v, fun hv => hbreak (.inl rfl) (List.mem_append_left _ hv), by simp⟩
  | anything =>
    rw [rests, mem_restsWhile_iff]
    refine exists_congr fun u => and_congr_right fun _ => ?_
    simp only [Takes, Matches]
    grind
  | segment =>
    rw [rests, mem_restsWhile_iff]
    refine exists_congr fun u => and_congr_right fun _ => ?_
    simp only [Takes, Matches]
    grind
  | one =>
    cases s with
    | nil => simp [rests, Takes, Matches]
    | cons c s =>
      simp only [Takes, Matches, reduceCtorEq, or_self, false_imp_iff, and_true, exists_piece_char, rests]
      split <;> simp_all
  | lit d =>
    cases s with
    | nil => simp [rests, Takes, Matches]
    | cons c s =>
      simp only [Takes, Matches, reduceCtorEq, or_self, false_imp_iff, and_true, rests]
      split <;> simp_all [eq_comm]
  | oneOf k =>
    cases s with
    | nil => simp [rests, Takes, Matches]
    | cons c s =>
      simp only [Takes, Matches, reduceCtorEq, or_self, false_imp_iff, and_true, exists_piece_char, rests]
      split <;> simp_all

/-- The tokens accept a path that they take the pieces of, but for one final line feed. -/
theorem accepts_iff {ts : List Token} {s : Text} : accepts ts s = true ↔
    ∃ pieces rest, List.Forall₂ Token.Takes ts pieces ∧ s = pieces.flatten ++ rest ∧ (rest = [] ∨ rest = ['\n']) := by
  induction ts generalizing s with
  | nil =>
    simp only [accepts, List.forall₂_nil_left_iff, Bool.or_eq_true, List.isEmpty_iff, beq_iff_eq]
    constructor
    · exact fun h => ⟨[], s, rfl, rfl, h⟩
    · rintro ⟨_, _, rfl, rfl, h⟩
      exact h
  | cons t ts ih =>
    simp only [accepts, List.any_eq_true, ih, Token.mem_rests_iff]
    constructor
    · rintro ⟨r, ⟨u, rfl, hu⟩, pieces, rest, hpieces, rfl, hrest⟩
      exact ⟨u :: pieces, rest, .cons hu hpieces, by simp, hrest⟩
    · rintro ⟨_, rest, hpieces, rfl, hrest⟩
      obtain ⟨u, pieces, hu, htail, rfl⟩ := List.forall₂_cons_left_iff.mp hpieces
      exact ⟨pieces.flatten ++ rest, ⟨u, by simp, hu⟩, pieces, rest, htail, rfl, hrest⟩

theorem forall₂_takes_iff {ts : List Token} {pieces : List Text} (h : '\n' ∉ pieces.flatten) :
    List.Forall₂ Token.Takes ts pieces ↔ List.Forall₂ Token.Matches ts pieces := by
  induction ts generalizing pieces with
  | nil => simp only [List.forall₂_nil_left_iff]
  | cons t ts ih =>
    cases pieces with
    | nil => simp only [List.forall₂_nil_right_iff]
    | cons u pieces =>
      obtain ⟨hu, hpieces⟩ := not_or.mp (mt List.mem_append.mpr h)
      rw [List.forall₂_cons, List.forall₂_cons, Token.takes_iff_matches hu, ih hpieces]

theorem accepts_iff_cuts {ts : List Token} {path : Text} (h : '\n' ∉ path) : accepts ts path = true ↔ Cuts ts path := by
  rw [accepts_iff]
  constructor
  · rintro ⟨pieces, rest, hpieces, rfl, hrest⟩
    obtain ⟨hflat, hend⟩ := not_or.mp (mt List.mem_append.mpr h)
    rcases hrest with rfl | rfl
    · exact ⟨pieces, (forall₂_takes_iff hflat).mp hpieces, (List.append_nil _).symm⟩
    · exact absurd (List.mem_singleton_self _) hend
  · rintro ⟨pieces, hpieces, rfl⟩
    exact ⟨pieces, [], (forall₂_takes_iff h).mpr hpieces, (List.append_nil _).symm, .inl rfl⟩

end RuleReview.Glob
