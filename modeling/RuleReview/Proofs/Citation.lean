import RuleReview.Proofs.Text.Cut
import RuleReview.Proofs.Text.Glyph
import RuleReview.Proofs.Text.Trimmed
import RuleReview.Review

/-! # Citations of files that were sent

A citation is a path with a mark before it and a line behind it, or without them. The readings of a citation are cut
at its first colon, so that a path with a colon is lost when a line stands behind it, and may be taken for another one
when a mark stands before it; blanks at the ends of a path are trimmed with those of the citation. In all other cases a
citation of a single sent file is resolved to it.
-/
namespace RuleReview

namespace Text
variable {p w : Text}

/-- A text that goes on as itself behind another one is made of the characters of that one. -/
theorem subset_of_prefix_append (hw : w ≠ []) (h : p <+: w ++ p) : p ⊆ w := by
  induction hn : p.length using Nat.strong_induction_on generalizing p with
  | _ n ih =>
    rcases Nat.le_total p.length w.length with hle | hle
    · exact (List.prefix_of_prefix_length_le h (List.prefix_append w p) hle).subset
    · obtain ⟨q, rfl⟩ := List.prefix_of_prefix_length_le (List.prefix_append w p) h hle
      have hpos : 0 < w.length := List.length_pos_iff.mpr hw
      have hq : q ⊆ w := by
        apply ih q.length _ _ rfl
        · rw [← hn, List.length_append]
          omega
        · exact (List.prefix_append_right_inj w).mp h
      exact List.append_subset.mpr ⟨List.Subset.refl w, hq⟩

end Text

namespace Citation
variable {sent : List Text} {c m p q x : Text}

/-- What may stand before the path of a citation. -/
def marks : List Text := [[], "./", "a/", "b/"]

def IsNumber (ds : Text) : Prop := ds ≠ [] ∧ ∀ d ∈ ds, d.isDigit = true

/-- What may stand behind the path: a line, and a column behind that. -/
inductive IsPlace : Text → Prop where
  | none : IsPlace []
  | line {l : Text} : IsNumber l → IsPlace (':' :: l)
  | column {l k : Text} : IsNumber l → IsNumber k → IsPlace (':' :: (l ++ ':' :: k))

/-- A text cites a path, when it is the path but for a mark and a place. -/
def Cites (c p : Text) : Prop := ∃ m ∈ marks, ∃ x, IsPlace x ∧ c = m ++ p ++ x

theorem IsPlace.eq_nil_or (h : IsPlace x) : x = [] ∨ ∃ y, x = ':' :: y := by
  cases h with
  | none => exact .inl rfl
  | line | column => exact .inr ⟨_, rfl⟩

theorem IsPlace.mem (h : IsPlace x) : ∀ d ∈ x, d = ':' ∨ d.isDigit = true := by
  intro d hd
  cases h with
  | none => cases hd
  | line hl =>
    rcases List.mem_cons.mp hd with rfl | hd
    · exact .inl rfl
    · exact .inr (hl.2 d hd)
  | column hl hk =>
    rcases List.mem_cons.mp hd with rfl | hd
    · exact .inl rfl
    rcases List.mem_append.mp hd with hd | hd
    · exact .inr (hl.2 d hd)
    rcases List.mem_cons.mp hd with rfl | hd
    · exact .inl rfl
    · exact .inr (hk.2 d hd)

theorem IsPlace.two_le_length (h : IsPlace x) (hx : x ≠ []) : 2 ≤ x.length := by
  cases h with
  | none => exact absurd rfl hx
  | line hl =>
    have hpos := List.length_pos_iff.mpr hl.1
    rw [List.length_cons]
    omega
  | column =>
    simp only [List.length_cons, List.length_append]
    omega

theorem not_isBlank_of_isDigit {d : Char} (h : d.isDigit = true) : Text.isBlank d = false := by
  obtain ⟨hlo, hhi⟩ : 48 ≤ d.toNat ∧ d.toNat ≤ 57 := by simpa [Char.isDigit_iff_toNat] using h
  simp only [Text.isBlank, Text.blankPoints, List.contains_eq_mem, decide_eq_false_iff_not, List.mem_cons,
    List.not_mem_nil, or_false]
  omega

theorem IsPlace.not_isBlank (h : IsPlace x) : ∀ d ∈ x, Text.isBlank d = false := by
  intro d hd
  rcases h.mem d hd with rfl | hdigit
  · rfl
  · exact not_isBlank_of_isDigit hdigit

theorem mark_cases (hm : m ∈ marks) :
    (m = [] ∨ m.length = 2) ∧ ∀ d ∈ m, d ≠ ':' ∧ Text.isBlank d = false := by
  have hshort : ∀ m ∈ marks, m = [] ∨ m.length = 2 := by decide
  have hfree : (marks.all fun m => m.all fun d => d != ':' && !Text.isBlank d) = true := by decide
  refine ⟨hshort m hm, fun d hd => ?_⟩
  simpa using List.all_eq_true.mp (List.all_eq_true.mp hfree m hm) d hd

/-! ## Readings -/

/-- What a citation may stand for without the mark that it begins with. -/
def behindMarks (u : Text) : List Text := ["./", "a/", "b/"].filterMap fun mark => u.after? (String.toList mark)

theorem readings_eq (c : Text) :
    readings c = c.trim :: c.trim.upTo ':' :: (behindMarks c.trim ++ behindMarks (c.trim.upTo ':')) := by
  simp [readings, unmarked, behindMarks]

theorem mem_behindMarks_iff {u : Text} : q ∈ behindMarks u ↔ ∃ m ∈ marks, m ≠ [] ∧ u = m ++ q := by
  simp only [behindMarks, List.mem_filterMap, Text.after?_eq_some, marks]
  simp

/-- A reading is what stands in the citation between a mark and the end, or a colon that is the first one. -/
theorem exists_of_mem_readings (h : q ∈ readings c) :
    ∃ m ∈ marks, ∃ y, c.trim = m ++ q ++ y ∧ (y = [] ∨ ':' ∉ q ∧ ∃ z, y = ':' :: z) := by
  obtain ⟨hfree, hcut⟩ := Text.upTo_cases ':' c.trim
  have hfront : ∀ m ∈ marks, c.trim.upTo ':' = m ++ q →
      ∃ y, c.trim = m ++ q ++ y ∧ (y = [] ∨ ':' ∉ q ∧ ∃ z, y = ':' :: z) := by
    intro m _ hm
    rw [hm] at hfree hcut
    rcases hcut with hall | ⟨z, hz⟩
    · exact ⟨[], by rw [List.append_nil, hall], .inl rfl⟩
    · exact ⟨':' :: z, hz, .inr ⟨fun hq => hfree (List.mem_append_right m hq), z, rfl⟩⟩
  rw [readings_eq] at h
  rcases List.mem_cons.mp h with rfl | h
  · exact ⟨[], by decide, [], by simp, .inl rfl⟩
  rcases List.mem_cons.mp h with hq | h
  · exact ⟨[], by decide, hfront [] (by decide) hq.symm⟩
  rcases List.mem_append.mp h with h | h
  · obtain ⟨m, hm, -, hu⟩ := mem_behindMarks_iff.mp h
    exact ⟨m, hm, [], by rw [List.append_nil, hu], .inl rfl⟩
  · obtain ⟨m, hm, -, hu⟩ := mem_behindMarks_iff.mp h
    exact ⟨m, hm, hfront m hm hu⟩

/-- No blank stands before a citation that is read as its path, for the path would go on as itself behind it. -/
theorem eq_nil_of_leading {a m' y b : Text} (hm : m ∈ marks) (hm' : m' ∈ marks) (hx : IsPlace x)
    (ha : ∀ d ∈ a, Text.isBlank d = true) (h : m ++ p ++ x = a ++ (m' ++ p ++ y) ++ b) : a = [] := by
  by_contra hne
  have hwne : a ++ m' ≠ [] := List.append_ne_nil_of_left_ne_nil hne m'
  have hfree : ∀ d ∈ a ++ m', d ≠ ':' := by
    intro d hd
    rcases List.mem_append.mp hd with hd | hd
    · rintro rfl
      cases ha _ hd
    · exact ((mark_cases hm').2 d hd).1
  rcases (mark_cases hm).1 with rfl | hlength
  · have hwhole : p ++ x = (a ++ m') ++ p ++ (y ++ b) := by simpa using h
    have hfront : (a ++ m') ++ p <+: p ++ x := hwhole ▸ List.prefix_append _ _
    have hp : p ⊆ a ++ m' := by
      apply Text.subset_of_prefix_append hwne
      refine List.prefix_of_prefix_length_le (List.prefix_append p x) hfront ?_
      simp only [List.length_append]
      omega
    rcases hx.eq_nil_or with rfl | ⟨z, rfl⟩
    · have hlengths := congrArg List.length hwhole
      have hpos := List.length_pos_iff.mpr hwne
      simp only [List.length_append, List.length_nil] at hlengths hpos
      omega
    · have hstart : p ++ [':'] <+: p ++ ':' :: z := ⟨z, by simp⟩
      have hcolon : p ++ [':'] <+: (a ++ m') ++ p := by
        refine List.prefix_of_prefix_length_le hstart hfront ?_
        have hpos := List.length_pos_iff.mpr hwne
        simp only [List.length_append, List.length_singleton] at hpos ⊢
        omega
      rcases List.mem_append.mp (hcolon.subset (List.mem_append_right p List.mem_cons_self)) with hd | hd
      · exact hfree _ hd rfl
      · exact hfree _ (hp hd) rfl
  · obtain ⟨d, m₀, rfl⟩ := List.exists_cons_of_length_pos (l := m) (by omega)
    obtain ⟨e, a₀, rfl⟩ := List.exists_cons_of_ne_nil hne
    obtain rfl : d = e := (List.cons.inj h).1
    cases (ha d List.mem_cons_self).symm.trans ((mark_cases hm).2 d List.mem_cons_self).2

theorem eq_nil_of_trailing {m' y b : Text} (hm : m ∈ marks) (hm' : m' ∈ marks) (hx : IsPlace x)
    (hb : ∀ d ∈ b, Text.isBlank d = true) (h : m ++ p ++ x = m' ++ p ++ y ++ b) : b = [] := by
  by_contra hne
  rcases hx.eq_nil_or with rfl | ⟨z, rfl⟩
  · have hlengths := congrArg List.length h
    have hpos := List.length_pos_iff.mpr hne
    simp only [List.length_append, List.length_nil] at hlengths
    have hm₀ : m' = [] := by
      rcases (mark_cases hm').1 with hnil | hlong
      · exact hnil
      · rcases (mark_cases hm).1 with rfl | hshort
        · simp only [List.length_nil] at hlengths
          omega
        · omega
    subst hm₀
    have hmne : m ≠ [] := by
      rintro rfl
      simp only [List.length_nil] at hlengths
      omega
    have hwhole : m ++ p = p ++ (y ++ b) := by simpa using h
    have hp : p ⊆ m := Text.subset_of_prefix_append hmne (hwhole ▸ List.prefix_append p _)
    obtain ⟨d, b₀, rfl⟩ := List.exists_cons_of_ne_nil hne
    have hd : d ∈ m ++ p := by
      rw [hwhole]
      simp
    have hdm : d ∈ m := by
      rcases List.mem_append.mp hd with hd | hd
      · exact hd
      · exact hp hd
    cases (hb d List.mem_cons_self).symm.trans ((mark_cases hm).2 d hdm).2
  · have hlast := congrArg List.getLast? h
    rw [List.getLast?_append_of_ne_nil _ (List.cons_ne_nil _ _), List.getLast?_append_of_ne_nil _ hne,
      List.getLast?_eq_some_getLast hne] at hlast
    have hd := hx.not_isBlank _ (List.mem_of_getLast? hlast)
    cases (hb _ (List.getLast_mem hne)).symm.trans hd

theorem trim_eq_of_mem_readings (hm : m ∈ marks) (hx : IsPlace x) (h : p ∈ readings (m ++ p ++ x)) :
    (m ++ p ++ x).trim = m ++ p ++ x := by
  obtain ⟨m', hm', y, hy, -⟩ := exists_of_mem_readings h
  obtain ⟨a, b, hab, ha, hb⟩ := Text.exists_trim (m ++ p ++ x)
  have ha₀ : a = [] := eq_nil_of_leading hm hm' hx ha (hy ▸ hab)
  subst ha₀
  have hb₀ : b = [] := eq_nil_of_trailing hm hm' hx hb (hy ▸ hab)
  subst hb₀
  simpa using hab.symm

theorem not_mem_readings (hm : m ∈ marks) (hx : IsPlace x) (hne : x ≠ []) (hp : ':' ∈ p) :
    p ∉ readings (m ++ p ++ x) := by
  intro h
  have htrim := trim_eq_of_mem_readings hm hx h
  obtain ⟨m', hm', y, hy, hend⟩ := exists_of_mem_readings h
  obtain rfl : y = [] := hend.resolve_right fun hcolon => hcolon.1 hp
  rw [htrim, List.append_nil] at hy
  have hlengths := congrArg List.length hy
  have htwo := hx.two_le_length hne
  simp only [List.length_append] at hlengths
  have hm'ne : m' ≠ [] := by
    rintro rfl
    simp only [List.length_nil] at hlengths
    omega
  have hm₀ : m = [] := by
    rcases (mark_cases hm).1 with hnil | hlong
    · exact hnil
    · rcases (mark_cases hm').1 with rfl | hshort
      · exact absurd rfl hm'ne
      · omega
  subst hm₀
  rw [List.nil_append] at hy
  have hsub : p ⊆ m' := Text.subset_of_prefix_append hm'ne (hy ▸ List.prefix_append p x)
  exact ((mark_cases hm').2 _ (hsub hp)).1 rfl

/-! ## Resolving -/

theorem resolveGlyphs?_ofText (sent : List Text) (c : Text) : resolveGlyphs? sent (.ofText c) = resolve? sent c := by
  simp only [resolveGlyphs?, Glyphs.trim_ofText, Glyphs.upTo_ofText, List.filterMap_cons, Glyphs.text?_ofText,
    List.filterMap_nil]
  rfl

theorem find?_eq_some_of_only {l : List Text} (hl : p ∈ l) (hp : p ∈ sent) (honly : ∀ q ∈ l, q ∈ sent → q = p) :
    l.find? sent.contains = some p := by
  cases hfind : l.find? sent.contains with
  | none => exact absurd (List.contains_iff_mem.mpr hp) (List.find?_eq_none.mp hfind p hl)
  | some q =>
    have hq := List.contains_iff_mem.mp (List.find?_some hfind)
    rw [honly q (List.mem_of_find?_eq_some hfind) hq]

theorem upTo_citation (hm : m ∈ marks) (hx : IsPlace x) (hp : ':' ∉ p) : (m ++ p ++ x).upTo ':' = m ++ p := by
  have hfree : ':' ∉ m ++ p := by
    intro hd
    rcases List.mem_append.mp hd with hd | hd
    · exact ((mark_cases hm).2 _ hd).1 rfl
    · exact hp hd
  rcases hx.eq_nil_or with rfl | ⟨z, rfl⟩
  · rw [List.append_nil, Text.upTo_of_notMem hfree]
  · exact Text.upTo_append_cons hfree z

/-- A path without a colon is found: every other reading that was sent would be cited as well. -/
theorem resolve?_of_notMem (hm : m ∈ marks) (hx : IsPlace x) (hp : p ∈ sent)
    (honly : ∀ q ∈ sent, Cites (m ++ p ++ x) q → q = p) (htrim : (m ++ p ++ x).trim = m ++ p ++ x) (hcolon : ':' ∉ p) :
    resolve? sent (m ++ p ++ x) = some p := by
  have hcut := upTo_citation hm hx hcolon
  apply find?_eq_some_of_only _ hp
  · intro q hq hsent
    apply honly q hsent
    obtain ⟨m', hm', y, hy, hend⟩ := exists_of_mem_readings hq
    rw [htrim] at hy
    rcases hend with rfl | ⟨hfree, z, rfl⟩
    · exact ⟨m', hm', [], .none, hy⟩
    · have hsame : m ++ p = m' ++ q := by
        rw [← hcut, hy]
        apply Text.upTo_append_cons
        intro hd
        rcases List.mem_append.mp hd with hd | hd
        · exact ((mark_cases hm').2 _ hd).1 rfl
        · exact hfree hd
      exact ⟨m', hm', x, hx, by rw [hsame]⟩
  · rw [readings_eq, htrim, hcut]
    by_cases hm₀ : m = []
    · simp [hm₀]
    · have hmem : p ∈ behindMarks (m ++ p) := mem_behindMarks_iff.mpr ⟨m, hm, hm₀, rfl⟩
      simp [hmem]

/-- Without a line behind it, a path with a colon is found unless a part of the citation was sent. -/
theorem resolve?_of_mem (hm : m ∈ marks) (hp : p ∈ sent) (honly : ∀ q ∈ sent, Cites (m ++ p) q → q = p)
    (htrim : (m ++ p).trim = m ++ p) (hpart : m = [] ∨ (m ++ p).upTo ':' ∉ sent) :
    resolve? sent (m ++ p) = some p := by
  have hcites : ∀ q m', m' ∈ marks → m ++ p = m' ++ q → Cites (m ++ p) q := by
    intro q m' hm' hq
    exact ⟨m', hm', [], .none, by rw [List.append_nil, hq]⟩
  rw [resolve?, readings_eq, htrim]
  by_cases hm₀ : m = []
  · subst hm₀
    exact List.find?_cons_of_pos (List.contains_iff_mem.mpr hp)
  · have hwhole : m ++ p ∉ sent := by
      intro hsent
      have hself : m ++ p = p := honly _ hsent (hcites _ [] (by decide) rfl)
      exact hm₀ (List.append_left_eq_self.mp hself)
    have hcut : (m ++ p).upTo ':' ∉ sent := hpart.resolve_left hm₀
    have hfound : (behindMarks (m ++ p)).find? sent.contains = some p := by
      apply find?_eq_some_of_only _ hp
      · intro q hq hsent
        obtain ⟨m', hm', -, he⟩ := mem_behindMarks_iff.mp hq
        exact honly q hsent (hcites q m' hm' he)
      · exact mem_behindMarks_iff.mpr ⟨m, hm, hm₀, rfl⟩
    rw [List.find?_cons_of_neg (by simpa using hwhole), List.find?_cons_of_neg (by simpa using hcut),
      List.find?_append, hfound]
    rfl

theorem part_notMem (htrim : (m ++ p).trim = m ++ p) (h : resolve? sent (m ++ p) = some p) (hcolon : ':' ∈ p) :
    m = [] ∨ (m ++ p).upTo ':' ∉ sent := by
  by_contra hpart
  obtain ⟨hm, hcut⟩ := not_or.mp hpart
  rw [not_not] at hcut
  rw [resolve?, readings_eq, htrim] at h
  by_cases hwhole : m ++ p ∈ sent
  · rw [List.find?_cons_of_pos (List.contains_iff_mem.mpr hwhole)] at h
    exact hm (List.append_left_eq_self.mp (Option.some.inj h))
  · rw [List.find?_cons_of_neg (by simpa using hwhole), List.find?_cons_of_pos (List.contains_iff_mem.mpr hcut)] at h
    have hfree := (Text.upTo_cases ':' (m ++ p)).1
    rw [Option.some.inj h] at hfree
    exact hfree hcolon

/-- A citation of a single sent path, with a mark and a place or without, is resolved to the path exactly when it has no
blanks around it, and the path holds no colon, or no place stands behind it and what stands before its first colon is not
sent itself. A path that is resolved is among those that the finding cites. -/
theorem resolve?_citation (hm : m ∈ marks) (hx : IsPlace x) (hp : p ∈ sent)
    (honly : ∀ q ∈ sent, Cites (m ++ p ++ x) q → q = p) :
    (resolve? sent (m ++ p ++ x) = some p ↔ (m ++ p ++ x).trim = m ++ p ++ x ∧
      (':' ∉ p ∨ x = [] ∧ (m = [] ∨ (m ++ p).upTo ':' ∉ sent))) ∧
    (resolve? sent (m ++ p ++ x) = some p → ∀ (r : Request) (t : Timing) (seconds : Seconds) (v : Verdict),
      r.files = sent → .ofText (m ++ p ++ x) ∈ v.citations → p ∈ (Review.settle r t seconds (.verdict v)).1.citations) := by
  refine ⟨⟨fun h => ?_, ?_⟩, ?_⟩
  · have hread : p ∈ readings (m ++ p ++ x) := List.mem_of_find?_eq_some h
    refine ⟨trim_eq_of_mem_readings hm hx hread, ?_⟩
    by_cases hcolon : ':' ∈ p
    · right
      have hx₀ : x = [] := by
        by_contra hne
        exact not_mem_readings hm hx hne hcolon hread
      subst hx₀
      have htrim := trim_eq_of_mem_readings hm hx hread
      rw [List.append_nil] at h htrim
      exact ⟨rfl, part_notMem htrim h hcolon⟩
    · exact .inl hcolon
  · rintro ⟨htrim, hcolon | ⟨rfl, hpart⟩⟩
    · exact resolve?_of_notMem hm hx hp honly htrim hcolon
    · rw [List.append_nil] at honly htrim ⊢
      exact resolve?_of_mem hm hp honly htrim hpart
  · rintro hresolve r t seconds v rfl hcited
    rw [Review.settle, Review.keptCitations, List.mem_eraseDups]
    exact List.mem_filterMap.mpr ⟨_, hcited, (resolveGlyphs?_ofText _ _).trans hresolve⟩

theorem resolve?_citation_column :
    "src/x.py".toList ∈ ["src/x.py".toList, "a:b"] ∧
      (∀ q ∈ ["src/x.py".toList, "a:b"], Cites "./src/x.py:3:7" q → q = "src/x.py".toList) ∧
      resolve? ["src/x.py", "a:b"] "./src/x.py:3:7" = some "src/x.py".toList := by
  have hmark : "./".toList ∈ marks := by decide
  have hplace : IsPlace ":3:7".toList :=
    .column (l := ['3']) (k := ['7']) ⟨by decide, List.all_eq_true.mp (by decide)⟩
      ⟨by decide, List.all_eq_true.mp (by decide)⟩
  have hsent : "src/x.py".toList ∈ ["src/x.py".toList, "a:b"] := by decide
  have honly : ∀ q ∈ ["src/x.py".toList, "a:b"], Cites "./src/x.py:3:7" q → q = "src/x.py".toList := by
    rintro q hq ⟨m, -, x, -, hc⟩
    have hinfix : q <:+: "./src/x.py:3:7".toList := ⟨m, x, hc.symm⟩
    rcases List.mem_cons.mp hq with rfl | hq
    · rfl
    · rw [List.mem_singleton.mp hq] at hinfix
      exact absurd hinfix (by decide)
  exact ⟨hsent, honly, (resolve?_citation hmark hplace hsent honly).1.mpr ⟨by decide, .inl (by decide)⟩⟩

/-- A path with a colon is cited with a line, and another one is found that is not cited. -/
theorem resolve?_colon :
    Cites "x:y:3" "x:y" ∧ (∀ q ∈ ["x:y".toList, "x"], Cites "x:y:3" q → q = "x:y".toList) ∧
      resolve? ["x:y", "x"] "x:y:3" = some "x".toList := by
  have hplace : IsPlace ":3".toList := .line (l := ['3']) ⟨by decide, List.all_eq_true.mp (by decide)⟩
  refine ⟨⟨[], by decide, ":3", hplace, rfl⟩, ?_, by decide⟩
  rintro q hq ⟨m, hm, x, hx, hc⟩
  rcases List.mem_cons.mp hq with rfl | hq
  · rfl
  · obtain rfl := List.mem_singleton.mp hq
    have hmarks : ∀ m ∈ marks, 'y' ∉ m ++ ['x'] := by decide
    have hy : 'y' ∈ m ++ "x".toList ++ x := hc ▸ (by decide)
    rcases List.mem_append.mp hy with hy | hy
    · exact absurd hy (hmarks m hm)
    · rcases hx.mem _ hy with he | he <;> cases he

end Citation

end RuleReview
