import RuleReview.Proofs.Diff.Lossless
import RuleReview.Proofs.Diff.MarkLine

/-! # Names whose escapes are bytes

Three octal digits behind a backslash are a byte up to 377. A text in which they always are has only names that can be
read, and so has each of its parts. But a quoted name on the line that opens a section is read twice: where it is a
quoted name once more after the first reading, an escape can come up that stands nowhere in the text.
-/
namespace RuleReview.Diff
variable {s t line : Text}

/-- Each backslash with three octal digits behind it stands for a byte. -/
def EscapesFit (s : Text) : Prop := ∀ a b c n, ['\\', a, b, c] <:+: s → octalByte? a b c = some n → n < 256

/-- Whether the text does not begin with an escape beyond a byte. -/
def frontFits : Text → Bool
  | '\\' :: a :: b :: c :: _ => (octalByte? a b c).all (· < 256)
  | _ => true

theorem escapesFit_iff : EscapesFit s ↔ ∀ t ∈ s.tails, frontFits t = true := by
  simp only [List.mem_tails]
  constructor
  · intro h t ht
    rw [frontFits.eq_def]
    split
    · next a b c r =>
      cases hn : octalByte? a b c with
      | none => rfl
      | some n => exact decide_eq_true (h a b c n ((List.prefix_append ['\\', a, b, c] r).isInfix.trans ht.isInfix) hn)
    · rfl
  · intro h a b c n hpart hn
    obtain ⟨t, hprefix, hsuffix⟩ := List.infix_iff_prefix_suffix.mp hpart
    obtain ⟨r, rfl⟩ := hprefix
    have hfront := h _ hsuffix
    simpa [frontFits, hn] using hfront

instance : Decidable (EscapesFit s) := decidable_of_iff _ escapesFit_iff.symm

theorem infix_of_quotedBody? {body : Text} (h : quotedBody? s = some body) : body <:+: s := by
  rw [quotedBody?.eq_def] at h
  split at h
  · next r =>
    split at h
    · cases h
      exact (List.dropLast_prefix r).isInfix.trans (List.suffix_cons _ r).isInfix
    · cases h
  · cases h

namespace EscapesFit

theorem of_infix (h : EscapesFit s) (ht : t <:+: s) : EscapesFit t := fun a b c n hpart => h a b c n (hpart.trans ht)

theorem exists_unquoteBytes (h : EscapesFit s) : ∃ bs, unquoteBytes s = .ok bs := by
  fun_induction unquoteBytes s with
  | case1 => exact ⟨_, rfl⟩
  | case2 a b c r n hn hlt ih =>
    obtain ⟨bs, hbs⟩ := ih (h.of_infix (List.suffix_append ['\\', a, b, c] r).isInfix)
    exact ⟨_, by rw [hbs]; rfl⟩
  | case3 a b c r n hn hlt => exact absurd (h a b c n (List.prefix_append ['\\', a, b, c] r).isInfix hn) hlt
  | case4 a b c r hn ih =>
    obtain ⟨bs, hbs⟩ := ih (h.of_infix (List.suffix_append ['\\', a] (b :: c :: r)).isInfix)
    exact ⟨_, by rw [hbs]; rfl⟩
  | case5 a r hr ih =>
    obtain ⟨bs, hbs⟩ := ih (h.of_infix (List.suffix_append ['\\', a] r).isInfix)
    exact ⟨_, by rw [hbs]; rfl⟩
  | case6 c r hr hr' ih =>
    obtain ⟨bs, hbs⟩ := ih (h.of_infix (List.suffix_cons c r).isInfix)
    exact ⟨_, by rw [hbs]; rfl⟩

theorem exists_unquote (h : EscapesFit s) : ∃ p, unquote s = .ok p := by
  obtain ⟨bs, hbs⟩ := h.exists_unquoteBytes
  exact ⟨_, by rw [unquote, hbs]; rfl⟩

theorem exists_unquoteIfQuoted (h : EscapesFit s) : ∃ p, unquoteIfQuoted s = .ok p := by
  rw [unquoteIfQuoted]
  split
  · next body hbody => exact (h.of_infix (infix_of_quotedBody? hbody)).exists_unquote
  · exact ⟨_, rfl⟩

theorem exists_markedPath (h : EscapesFit s) : ∃ p, markedPath s = .ok p := by
  have hclip : clipped s <+: s := (dropReturns_isPrefix _).trans (List.takeWhile_prefix _)
  obtain ⟨p, hp⟩ := (h.of_infix hclip.isInfix).exists_unquoteIfQuoted
  exact ⟨_, map_eq_ok.mpr ⟨p, hp, rfl⟩⟩

theorem exists_barePath (h : EscapesFit s) : ∃ p, barePath s = .ok p := by
  obtain ⟨p, hp⟩ := (h.of_infix (dropReturns_isPrefix s).isInfix).exists_unquoteIfQuoted
  exact ⟨_, map_eq_ok.mpr ⟨p, hp, rfl⟩⟩

theorem exists_applyHeaderLine (h : EscapesFit line) (s : Section) : ∃ t, applyHeaderLine s line = .ok t := by
  have hname : ∀ {mark name}, line.after? mark = some name → EscapesFit name := fun hname =>
    h.of_infix (suffix_of_after? hname).isInfix
  rw [applyHeaderLine]
  split
  · exact ⟨_, rfl⟩
  split
  · exact ⟨_, rfl⟩
  split
  · next hrename =>
    obtain ⟨p, hp⟩ := (hname hrename).exists_barePath
    exact ⟨_, map_eq_ok.mpr ⟨p, hp, rfl⟩⟩
  split
  · next hrename =>
    obtain ⟨p, hp⟩ := (hname hrename).exists_barePath
    exact ⟨_, map_eq_ok.mpr ⟨p, hp, rfl⟩⟩
  split
  · exact ⟨_, rfl⟩
  split
  · next hold =>
    obtain ⟨p, hp⟩ := (hname hold).exists_markedPath
    exact ⟨_, map_eq_ok.mpr ⟨p, hp, rfl⟩⟩
  split
  · next hnew =>
    obtain ⟨p, hp⟩ := (hname hnew).exists_markedPath
    exact ⟨_, map_eq_ok.mpr ⟨p, hp, rfl⟩⟩
  · exact ⟨_, rfl⟩

theorem exists_applyHeaderLines {extra : List Text} (h : ∀ l ∈ extra, EscapesFit l) (s : Section) :
    ∃ t, extra.foldlM applyHeaderLine s = .ok t := by
  induction extra generalizing s with
  | nil => exact ⟨s, rfl⟩
  | cons l extra ih =>
    obtain ⟨hl, h⟩ := List.forall_mem_cons.mp h
    obtain ⟨t, ht⟩ := hl.exists_applyHeaderLine s
    obtain ⟨u, hu⟩ := ih h t
    exact ⟨u, bind_eq_ok.mpr ⟨t, ht, hu⟩⟩

end EscapesFit

theorem unquoteBytes_eq_error {f : Failure} (h : unquoteBytes s = .error f) : f = .byteRange := by
  fun_induction unquoteBytes s with
  | case1 => cases h
  | case2 a b c r n hn hlt ih => exact ih (map_eq_error.mp h)
  | case3 a b c r n hn hlt =>
    cases h
    rfl
  | case4 a b c r hn ih => exact ih (map_eq_error.mp h)
  | case5 a r hr ih => exact ih (map_eq_error.mp h)
  | case6 c r hr hr' ih => exact ih (map_eq_error.mp h)

/-- The name is a quoted one with an escape beyond a byte. -/
def Misquoted (name : Text) : Prop :=
  ∃ body, quotedBody? (clipped name) = some body ∧ unquoteBytes body = .error .byteRange

theorem markedPath_eq_error_iff {name : Text} {f : Failure} :
    markedPath name = .error f ↔ f = .byteRange ∧ Misquoted name := by
  rw [markedPath, map_eq_error, unquoteIfQuoted, Misquoted, clipped]
  cases quotedBody? (dropReturns (name.upTo '\t')) with
  | none => simp
  | some body =>
    simp only [unquote, map_eq_error, Option.some_inj, exists_eq_left']
    constructor
    · intro h
      obtain rfl := unquoteBytes_eq_error h
      exact ⟨rfl, h⟩
    · rintro ⟨rfl, h⟩
      exact h

/-- The line opens a section and names a path between quotes, which is a quoted name with an escape beyond a byte
when it has been read. -/
def Misread (line : Text) : Prop :=
  opensSection line = true ∧ ∃ left right name,
    quotedPair? (dropReturns (line.drop gitHeaderMark.length)) = some (left, right) ∧
      (unquote left = .ok name ∨ unquote right = .ok name) ∧ Misquoted name

theorem eq_of_quotedName? {body rest : Text} (h : quotedName? s = some (body, rest)) : s = body ++ '"' :: rest := by
  fun_induction quotedName? s generalizing body with
  | case1 => cases h
  | case2 r =>
    cases h
    rfl
  | case3 c r ih =>
    obtain ⟨⟨tail, rest'⟩, htail, hpair⟩ := Option.map_eq_some_iff.mp h
    cases hpair
    rw [ih htail]
    rfl
  | case4 => cases h
  | case5 c r hquote hback hend ih =>
    obtain ⟨⟨tail, rest'⟩, htail, hpair⟩ := Option.map_eq_some_iff.mp h
    cases hpair
    rw [ih htail]
    rfl

theorem infix_of_quotedPair? {left right : Text} (h : quotedPair? s = some (left, right)) :
    left <:+: s ∧ right <:+: s := by
  rw [quotedPair?.eq_def] at h
  split at h
  · next r =>
    split at h
    · next body r' hfirst =>
      split at h
      · next body' hsecond =>
        cases h
        rw [eq_of_quotedName? hfirst, eq_of_quotedName? hsecond]
        exact ⟨⟨['"'], '"' :: ' ' :: '"' :: (right ++ ['"']), rfl⟩, ⟨'"' :: (left ++ ['"', ' ', '"']), ['"'], by simp⟩⟩
      · cases h
    · cases h
  · cases h

theorem not_misquoted_of_markedPath {name : Text} {p : Option Text} (h : markedPath name = .ok p) :
    ¬Misquoted name := by
  intro hname
  cases h.symm.trans (markedPath_eq_error_iff.mpr ⟨rfl, hname⟩)

/-- The line that opens a section can be read unless it names a path that is quoted twice. -/
theorem EscapesFit.headerPaths_cases (h : EscapesFit line) (hopens : opensSection line = true) :
    (∃ paths, headerPaths line = .ok paths) ∧ ¬Misread line ∨ headerPaths line = .error .byteRange ∧ Misread line := by
  cases hpair : quotedPair? (dropReturns (line.drop gitHeaderMark.length)) with
  | none => exact .inl ⟨exists_headerPaths_of_unquoted hpair, by simp [Misread, hpair]⟩
  | some pair =>
    obtain ⟨left, right⟩ := pair
    have hnames : dropReturns (line.drop gitHeaderMark.length) <:+: line :=
      (dropReturns_isPrefix _).isInfix.trans (List.drop_suffix _ line).isInfix
    obtain ⟨hleft, hright⟩ := infix_of_quotedPair? hpair
    obtain ⟨p, hp⟩ := (h.of_infix (hleft.trans hnames)).exists_unquote
    obtain ⟨q, hq⟩ := (h.of_infix (hright.trans hnames)).exists_unquote
    have hmisread : Misread line ↔ Misquoted p ∨ Misquoted q := by simp [Misread, hopens, hpair, hp, hq]
    have hread : headerPaths line = do
        let old ← markedPath p
        let new ← markedPath q
        return (old, new) := by
      simp only [headerPaths, hpair, hp, hq, bind, Except.bind]
    rw [hread, hmisread]
    cases hold : markedPath p with
    | error f =>
      obtain ⟨rfl, hname⟩ := markedPath_eq_error_iff.mp hold
      exact .inr ⟨rfl, .inl hname⟩
    | ok old =>
      cases hnew : markedPath q with
      | error f =>
        obtain ⟨rfl, hname⟩ := markedPath_eq_error_iff.mp hnew
        exact .inr ⟨rfl, .inr hname⟩
      | ok new =>
        exact .inl ⟨⟨_, rfl⟩, not_or.mpr ⟨not_misquoted_of_markedPath hold, not_misquoted_of_markedPath hnew⟩⟩

end RuleReview.Diff
