import Mathlib.Data.List.TakeWhile
import RuleReview.Console
import RuleReview.Proofs.Markup.Notices
import RuleReview.Proofs.Success

/-! # When markup can be shown

Whatever a text is, its escaped form opens and closes no tag, so that a message with the text in it can always be
shown. Escaping adds backslashes only, and those before brackets: a bracket that begins a tag gets an odd number of
them, and any other one begins none in the escaped form either. Text that is not escaped may make a message that cannot be
shown, for the tags in it.
-/
namespace RuleReview.Markup

def Piece.IsText : Piece → Prop
  | .text _ => True
  | .tag .. => False

variable {s t body before inside : Text} {c : Char} {n m k position : Nat} {p : Piece} {ps ts : List Piece}

section Escaping

def isPlain (c : Char) : Bool := c != '[' && c != ']'

def firstBracket (s : Text) : Option Char := (s.dropWhile isPlain).head?

theorem opensTag_cons (c : Char) (s : Text) : opensTag (c :: s) = (beginsTag c && firstBracket s == some ']') := rfl

theorem firstBracket_cons (hc : isPlain c = true) : firstBracket (c :: s) = firstBracket s := by
  rw [firstBracket, List.dropWhile_cons_of_pos hc, firstBracket]

theorem firstBracket_slashes (n : Nat) (s : Text) : firstBracket (slashes n ++ s) = firstBracket s := by
  induction n with
  | zero => rfl
  | succ n ih => exact (firstBracket_cons (by decide)).trans ih

theorem escapeFrom_backslash (n : Nat) (s : Text) : escapeFrom n ('\\' :: s) = escapeFrom (n + 1) s := by
  rw [escapeFrom, if_pos rfl]

theorem escapeFrom_cons (hc : c ≠ '\\') (n : Nat) (s : Text) :
    escapeFrom n (c :: s) = slashes (if c = '[' && opensTag s then 2 * n + 1 else n) ++ c :: escapeFrom 0 s := by
  rw [escapeFrom, if_neg hc]

theorem firstBracket_escapeFrom (s : Text) (n k : Nat) :
    firstBracket (escapeFrom n s ++ slashes k) = firstBracket s := by
  induction s generalizing n with
  | nil =>
    rw [escapeFrom, firstBracket_slashes]
    exact (congrArg firstBracket (List.append_nil _).symm).trans (firstBracket_slashes k [])
  | cons c s ih =>
    by_cases hc : c = '\\'
    · subst hc
      rw [escapeFrom_backslash, ih, firstBracket_cons (by decide)]
    · rw [escapeFrom_cons hc, List.append_assoc, firstBracket_slashes, List.cons_append]
      by_cases hplain : isPlain c = true
      · rw [firstBracket_cons hplain, firstBracket_cons hplain, ih]
      · rw [firstBracket, List.dropWhile_cons_of_neg hplain, firstBracket, List.dropWhile_cons_of_neg hplain]
        rfl

theorem exists_backslash_escapeFrom (n : Nat) (s : Text) : ∃ r, escapeFrom (n + 1) s = '\\' :: r := by
  induction s generalizing n with
  | nil => exact ⟨slashes n, rfl⟩
  | cons c s ih =>
    by_cases hc : c = '\\'
    · subst hc
      rw [escapeFrom_backslash]
      exact ih (n + 1)
    · rw [escapeFrom_cons hc]
      split
      · exact ⟨_, rfl⟩
      · exact ⟨_, rfl⟩

theorem opensTag_backslash (s : Text) : opensTag ('\\' :: s) = false := rfl

/-- What begins a tag behind a bracket does so in the escaped form, and nothing else does. -/
theorem opensTag_escapeFrom (s : Text) (k : Nat) : opensTag (escapeFrom 0 s ++ slashes k) = opensTag s := by
  cases s with
  | nil => cases k <;> rfl
  | cons c s =>
    by_cases hc : c = '\\'
    · subst hc
      obtain ⟨r, hr⟩ := exists_backslash_escapeFrom 0 s
      rw [escapeFrom_backslash, hr, List.cons_append, opensTag_backslash, opensTag_backslash]
    · rw [escapeFrom_cons hc]
      by_cases hbracket : c = '['
      · subst hbracket
        split
        · rfl
        · rfl
      · have hnone : (c = '[' && opensTag s) = false := by simp [hbracket]
        rw [hnone]
        change opensTag (c :: (escapeFrom 0 s ++ slashes k)) = _
        rw [opensTag_cons, opensTag_cons, firstBracket_escapeFrom]

theorem escapeFrom_closed (hbody : ∀ c ∈ body, isPlain c = true) (n : Nat) (s : Text) :
    escapeFrom n (body ++ ']' :: s) = slashes n ++ (body ++ ']' :: escapeFrom 0 s) := by
  induction body generalizing n with
  | nil => rw [List.nil_append, escapeFrom_cons (by decide)]; rfl
  | cons c body ih =>
    obtain ⟨hc, hrest⟩ := List.forall_mem_cons.mp hbody
    rw [List.cons_append]
    by_cases hback : c = '\\'
    · subst hback
      rw [escapeFrom_backslash, ih hrest, slashes, List.replicate_succ', List.append_assoc]
      rfl
    · have hbracket : c ≠ '[' := by
        rintro rfl
        cases hc
      rw [escapeFrom_cons hback, ih hrest]
      simp [hbracket, slashes]

theorem exists_closed_of_opensTag (h : opensTag s = true) :
    ∃ body r, s = body ++ ']' :: r ∧ ∀ c ∈ body, isPlain c = true := by
  cases s with
  | nil => cases h
  | cons c s =>
    rw [opensTag_cons, Bool.and_eq_true, beq_iff_eq] at h
    obtain ⟨hbegins, hclose⟩ := h
    obtain ⟨r, hr⟩ := List.head?_eq_some_iff.mp hclose
    have hc : isPlain c = true := by
      rw [isPlain, Bool.and_eq_true, bne_iff_ne, bne_iff_ne]
      constructor
      · rintro rfl
        cases hbegins
      · rintro rfl
        cases hbegins
    refine ⟨c :: s.takeWhile isPlain, r, ?_, ?_⟩
    · rw [List.cons_append, ← hr, List.takeWhile_append_dropWhile]
    · exact List.forall_mem_cons.mpr ⟨hc, fun d hd => List.mem_takeWhile_imp hd⟩

end Escaping

section Reading

theorem pieceOf_isText (hp : p ∈ pieceOf s) : p.IsText := by
  rw [pieceOf] at hp
  split at hp
  · cases hp
  · obtain rfl := List.mem_singleton.mp hp
    trivial

theorem piecesFrom_slashes (m : Nat) (t : Text) : piecesFrom position (.text before n) (slashes m ++ t) =
    piecesFrom (position + m) (.text before (n + m)) t := by
  induction m generalizing position n with
  | zero => rfl
  | succ m ih =>
    have hstep : piecesFrom position (.text before n) ('\\' :: (slashes m ++ t)) =
        piecesFrom (position + 1) (.text before (n + 1)) (slashes m ++ t) := if_pos rfl
    rw [show position + (m + 1) = position + 1 + m by omega, show n + (m + 1) = n + 1 + m by omega, ← ih]
    exact hstep

theorem piecesFrom_escaped (hbody : ∀ c ∈ body, isPlain c = true) :
    ∃ q position', piecesFrom position (.escaped inside) (body ++ ']' :: t) =
      .text q :: piecesFrom position' (.text [] 0) t := by
  induction body generalizing position inside with
  | nil => exact ⟨_, _, if_pos rfl⟩
  | cons c body ih =>
    obtain ⟨hc, hbody⟩ := List.forall_mem_cons.mp hbody
    have hclose : c ≠ ']' := by
      rintro rfl
      cases hc
    have hstep : piecesFrom position (.escaped inside) (c :: (body ++ ']' :: t)) =
        piecesFrom (position + 1) (.escaped (c :: inside)) (body ++ ']' :: t) := if_neg hclose
    rw [List.cons_append, hstep]
    exact ih hbody

theorem piecesFrom_tag (ht : opensTag t = true) : piecesFrom position (.text before n) ('[' :: t) =
    pieceOf before.reverse ++ pieceOf (slashes (n / 2)) ++
      piecesFrom (position + 1) (if n % 2 = 1 then .escaped [] else .tag [] position) t := by
  have hopens : ('[' = '[' && opensTag t) = true := by simp [ht]
  exact (if_neg (by decide)).trans (if_pos hopens)

theorem piecesFrom_char (hc : c ≠ '\\') (ht : (c = '[' && opensTag t) = false) :
    piecesFrom position (.text before n) (c :: t) =
      piecesFrom (position + 1) (.text (c :: slashes (if c = '[' then n - 1 else n) ++ before) 0) t := by
  have hcloses : ¬(c = '[' && opensTag t) = true := by simp [ht]
  exact (if_neg hc).trans (if_neg hcloses)

/-- The escaped form of a text is read as text only, also before more backslashes. -/
theorem isText_of_mem_piecesFrom (s : Text)
    (hp : p ∈ piecesFrom position (.text before 0) (escapeFrom n s ++ slashes k)) :
    p.IsText := by
  induction hs : s.length using Nat.strongRecOn generalizing s n position before with
  | _ size ih =>
    subst hs
    cases s with
    | nil =>
      have hslashes : escapeFrom n [] ++ slashes k = slashes (n + k) ++ [] := by
        rw [escapeFrom, List.append_nil]
        exact List.replicate_append_replicate
      rw [hslashes, piecesFrom_slashes, piecesFrom] at hp
      exact pieceOf_isText hp
    | cons c s =>
      by_cases hc : c = '\\'
      · subst hc
        rw [escapeFrom_backslash] at hp
        exact ih s.length (Nat.lt_succ_self _) s hp rfl
      rw [escapeFrom_cons hc, List.append_assoc, piecesFrom_slashes, List.cons_append] at hp
      cases htag : c = '[' && opensTag s with
      | false =>
        have hstill : (c = '[' && opensTag (escapeFrom 0 s ++ slashes k)) = false := by rwa [opensTag_escapeFrom]
        rw [piecesFrom_char hc hstill] at hp
        exact ih s.length (Nat.lt_succ_self _) s hp rfl
      | true =>
        obtain ⟨hbracket, hopens⟩ := Bool.and_eq_true_iff.mp htag
        obtain rfl := of_decide_eq_true hbracket
        obtain ⟨body, r, rfl, hbody⟩ := exists_closed_of_opensTag hopens
        have hstill := (opensTag_escapeFrom (body ++ ']' :: r) k).trans hopens
        have hodd : (0 + (2 * n + 1)) % 2 = 1 := by omega
        rw [htag, if_pos rfl, piecesFrom_tag hstill, if_pos hodd, escapeFrom_closed hbody] at hp
        rcases List.mem_append.mp hp with hp | hp
        · rcases List.mem_append.mp hp with hp | hp
          · exact pieceOf_isText hp
          · exact pieceOf_isText hp
        · rw [slashes, List.replicate_zero, List.nil_append, List.append_assoc, List.cons_append] at hp
          obtain ⟨q, position', hread⟩ : ∃ q position', piecesFrom (position + (2 * n + 1) + 1) (.escaped [])
              (body ++ ']' :: (escapeFrom 0 r ++ slashes k)) =
                .text q :: piecesFrom position' (.text [] 0) (escapeFrom 0 r ++ slashes k) := piecesFrom_escaped hbody
          rw [hread] at hp
          rcases List.mem_cons.mp hp with rfl | hp
          · trivial
          · refine ih r.length ?_ r hp rfl
            simp only [List.length_cons, List.length_append]
            omega

theorem isText_of_mem_piecesFrom_escape (s : Text) (hp : p ∈ piecesFrom position (.text before 0) (escape s)) :
    p.IsText := by
  have hescape : ∃ k, escape s = escapeFrom 0 s ++ slashes k := by
    rw [escape]
    split
    · exact ⟨1, rfl⟩
    · exact ⟨0, (List.append_nil _).symm⟩
  obtain ⟨k, hk⟩ := hescape
  rw [hk] at hp
  exact isText_of_mem_piecesFrom s hp

end Reading

section Bare

theorem piecesFrom_bare (hs : IsBare s) (position : Nat) (before t : Text) : ∃ position',
    piecesFrom position (.text before 0) (s ++ t) = piecesFrom position' (.text (s.reverse ++ before) 0) t := by
  induction s generalizing position before with
  | nil => exact ⟨position, rfl⟩
  | cons c s ih =>
    obtain ⟨⟨hbracket, hback⟩, hs⟩ := List.forall_mem_cons.mp hs
    obtain ⟨position', hrest⟩ := ih hs (position + 1) (c :: before)
    refine ⟨position', ?_⟩
    rw [List.cons_append, piecesFrom_char hback (by simp [hbracket]), if_neg hbracket, List.reverse_cons,
      List.append_assoc]
    exact hrest

theorem piecesFrom_inside (hbody : ∀ c ∈ body, isPlain c = true) : ∃ position',
    piecesFrom position (.tag inside m) (body ++ ']' :: t) =
      .tag (inside.reverse ++ body) m :: piecesFrom position' (.text [] 0) t := by
  induction body generalizing position inside with
  | nil =>
    refine ⟨position + 1, ?_⟩
    rw [List.nil_append, List.append_nil]
    exact if_pos rfl
  | cons c body ih =>
    obtain ⟨hc, hbody⟩ := List.forall_mem_cons.mp hbody
    have hclose : c ≠ ']' := by
      rintro rfl
      cases hc
    obtain ⟨position', hrest⟩ := ih hbody
    refine ⟨position', ?_⟩
    have hstep : piecesFrom position (.tag inside m) (c :: (body ++ ']' :: t)) =
        piecesFrom (position + 1) (.tag (c :: inside) m) (body ++ ']' :: t) := if_neg hclose
    rw [List.cons_append, hstep, hrest, List.reverse_cons, List.append_assoc]
    rfl

theorem opensTag_closed (hc : beginsTag c = true) (hbody : ∀ d ∈ body, isPlain d = true) (t : Text) :
    opensTag (c :: (body ++ ']' :: t)) = true := by
  have hfirst : firstBracket (body ++ ']' :: t) = some ']' := by
    rw [firstBracket, List.dropWhile_append_of_pos hbody]
    rfl
  rw [opensTag_cons, hc, hfirst]
  rfl

theorem piecesFrom_bare_tag (hs : IsBare s) (hc : beginsTag c = true) (hbody : ∀ d ∈ c :: body, isPlain d = true)
    (position : Nat) (t : Text) :
    ∃ i position', piecesFrom position (.text [] 0) (s ++ '[' :: c :: (body ++ ']' :: t)) =
      pieceOf s ++ .tag (c :: body) i :: piecesFrom position' (.text [] 0) t := by
  obtain ⟨i, hread⟩ := piecesFrom_bare hs position [] ('[' :: c :: (body ++ ']' :: t))
  obtain ⟨position', hinside⟩ := piecesFrom_inside hbody
  refine ⟨i, position', ?_⟩
  have hopens := opensTag_closed hc (List.forall_mem_cons.mp hbody).2 t
  rw [hread, piecesFrom_tag hopens, List.append_nil, List.reverse_reverse, if_neg (by decide)]
  change pieceOf s ++ [] ++ piecesFrom (i + 1) (.tag [] i) (c :: body ++ ']' :: t) = _
  rw [hinside, List.append_nil]
  rfl

end Bare

section Styles

variable {w : Text} {ws : List Text} {style : Style} {problem : Numeral.Problem}

/-- A word that tells a mixture of colours, whose parts are numerals. -/
def isMixture (word : Text) : Bool := ((Text.trim (Text.lowercase word)).after? "rgb(").isSome

theorem color_ne_numeral (hw : isMixture w = false) : color w ≠ .error (.numeral problem) := by
  have hnone : (Text.trim (Text.lowercase w)).after? "rgb(" = none := Option.isNone_iff_eq_none.mp (by
    rw [← Option.not_isSome, ← isMixture, hw, Bool.not_false])
  rw [color]
  simp only [argument?, hnone]
  split
  · nofun
  · split
    · split <;> nofun
    · split
      · split <;> nofun
      · nofun

/-- Words without a mixture in any letters. -/
def IsPlainWord (w : Text) : Prop := isMixture w = false ∧ isMixture (Text.lowercase w) = false

instance (w : Text) : Decidable (IsPlainWord w) := inferInstanceAs (Decidable (_ ∧ _))

theorem add_ne_numeral (hws : ∀ w ∈ ws, IsPlainWord w) : Style.add style ws ≠ .error (.numeral problem) := by
  fun_induction Style.add style ws with
  | case1 => nofun
  | case2 => nofun
  | case3 style on word hon c rest ih =>
    obtain ⟨-, hc, hrest⟩ := List.forall_mem_cons.mp hws |>.imp id List.forall_mem_cons.mp
    intro herr
    rcases bind_eq_error.mp herr with herr | ⟨read, -, herr⟩
    · exact color_ne_numeral hc.1 herr
    · exact ih read hrest herr
  | case4 => nofun
  | case5 => nofun
  | case6 style no word hon hno name rest a ha ih =>
    exact ih (List.forall_mem_cons.mp (List.forall_mem_cons.mp hws).2).2
  | case7 => nofun
  | case8 style link word hon hno hlink address rest ih =>
    exact ih (List.forall_mem_cons.mp (List.forall_mem_cons.mp hws).2).2
  | case9 style w rest word hon hno hlink a ha ih => exact ih (List.forall_mem_cons.mp hws).2
  | case10 style w rest word hon hno hlink ha ih =>
    obtain ⟨hw, hrest⟩ := List.forall_mem_cons.mp hws
    intro herr
    rcases bind_eq_error.mp herr with herr | ⟨read, -, herr⟩
    · exact color_ne_numeral hw.2 herr
    · exact ih read hrest herr

theorem exists_normalName (hws : ∀ w ∈ Text.words s, IsPlainWord w) : ∃ name, normalName s = .ok name := by
  rw [normalName, Style.normal, Style.read]
  split
  · exact ⟨_, rfl⟩
  · exact ⟨_, rfl⟩
  · next p hbad => exact absurd hbad (add_ne_numeral hws)

end Styles

section Showing

theorem exists_renderPieces (hts : ∀ p ∈ ts, p.IsText) :
    ∃ shown, ∀ stack ps, renderPieces stack (ts ++ ps) = (renderPieces stack ps).map (shown ++ ·) := by
  induction ts with
  | nil =>
    refine ⟨[], fun stack ps => ?_⟩
    rw [List.nil_append]
    cases renderPieces stack ps <;> rfl
  | cons p ts ih =>
    obtain ⟨hp, hts⟩ := List.forall_mem_cons.mp hts
    obtain ⟨shown, hshown⟩ := ih hts
    cases p with
    | text s =>
      refine ⟨shownText s ++ shown, fun stack ps => ?_⟩
      rw [List.cons_append, renderPieces, hshown]
      cases renderPieces stack ps with
      | error e => rfl
      | ok rest => exact congrArg Except.ok (List.append_assoc ..).symm
    | tag => cases hp

/-- A tag without a value whose style is told in plain words. -/
structure IsPlainTag (body : Text) : Prop where
  words : ∀ w ∈ Text.words body, IsPlainWord w
  begins : body.head?.any (fun c => beginsTag c && c != '/') = true
  plain : ∀ c ∈ body, isPlain c = true
  alone : Tag.ofBody body = ⟨body, none⟩
  trimmed : Text.trim (Text.upTo '=' body) = body

theorem renderPieces_open {stack : List Tag} {name : Text} (hslash : body.head? ≠ some '/')
    (hname : normalName (Tag.ofBody body).name = .ok name) :
    renderPieces stack (.tag body position :: ps) = renderPieces (⟨name, (Tag.ofBody body).given⟩ :: stack) ps := by
  rw [renderPieces, hname]
  · rfl
  · rintro inside rfl
    exact hslash rfl

theorem renderPieces_close {stack : List Tag} {name : Text} (hbody : Text.trim (Text.upTo '=' body) ≠ [])
    (hname : normalName (Text.trim (Text.upTo '=' body)) = .ok name) :
    renderPieces (⟨name, none⟩ :: stack) (.tag ('/' :: body) position :: ps) = renderPieces stack ps := by
  rw [renderPieces.eq_def]
  refine (if_neg (by rwa [List.isEmpty_iff])).trans ((congrArg (· >>= _) hname).trans ?_)
  simp only [bind, Except.bind, take?, if_pos]
  rfl

theorem IsPlainTag.exists_cons (h : IsPlainTag body) : ∃ c r, body = c :: r ∧ beginsTag c = true ∧ c ≠ '/' := by
  have hbegins := h.begins
  cases body with
  | nil => cases hbegins
  | cons c r =>
    rw [List.head?_cons, Option.any_some, Bool.and_eq_true, bne_iff_ne] at hbegins
    exact ⟨c, r, rfl, hbegins⟩

theorem IsPlainTag.exists_renderPieces {ts' ts'' : List Piece} (h : IsPlainTag body) (hts : ∀ p ∈ ts, p.IsText)
    (hts' : ∀ p ∈ ts', p.IsText) (hts'' : ∀ p ∈ ts'', p.IsText) (i j : Nat) : ∃ shown,
    renderPieces [] (ts ++ .tag body i :: (ts' ++ .tag ('/' :: body) j :: ts'')) = .ok shown := by
  obtain ⟨name, hname⟩ := exists_normalName h.words
  obtain ⟨before, hbefore⟩ := Markup.exists_renderPieces hts
  obtain ⟨inside, hinside⟩ := Markup.exists_renderPieces hts'
  obtain ⟨behind, hbehind⟩ := Markup.exists_renderPieces hts''
  obtain ⟨c, r, hbody, -, hslash⟩ := h.exists_cons
  have hopen : normalName (Tag.ofBody body).name = .ok name := by rwa [h.alone]
  have hclose : normalName (Text.trim (Text.upTo '=' body)) = .ok name := by rwa [h.trimmed]
  have hnonempty : Text.trim (Text.upTo '=' body) ≠ [] := by
    rw [h.trimmed, hbody]
    exact List.cons_ne_nil c r
  have hnoslash : body.head? ≠ some '/' := by simpa [hbody] using hslash
  have hend := hbehind [] []
  rw [List.append_nil, renderPieces] at hend
  refine ⟨before ++ (inside ++ (behind ++ [])), ?_⟩
  rw [hbefore, renderPieces_open hnoslash hopen, h.alone, hinside, renderPieces_close hnonempty hclose, hend]
  rfl

theorem IsPlainTag.checkStyle_eq (h : IsPlainTag body) (i : Nat) : checkStyle (.tag body i) = .ok () := by
  obtain ⟨c, r, hbody, -, hslash⟩ := h.exists_cons
  have hstyle : (Tag.ofBody body).style = body := by rw [h.alone]; rfl
  rw [checkStyle, hstyle]
  · split
    · next p hbad => exact absurd hbad (add_ne_numeral h.words)
    · rfl
  · rintro inside rfl
    cases hbody
    exact hslash rfl

theorem checkStyle_of_isText (hp : p.IsText) : checkStyle p = .ok () := by
  cases p with
  | text s => rfl
  | tag => cases hp

theorem IsPlainTag.exists_pieces {lead words gap : Text} (h : IsPlainTag body) (hlead : IsBare lead)
    (hwords : IsBare words) (hgap : IsBare gap) (s : Text) : ∃ i j ts, (∀ p ∈ ts, p.IsText) ∧
    pieces (notice lead body words (gap ++ escape s)) =
      pieceOf lead ++ .tag body i :: (pieceOf words ++ .tag ('/' :: body) j :: ts) := by
  obtain ⟨c, r, rfl, hbegins, -⟩ := h.exists_cons
  have hclosing : ∀ d ∈ '/' :: c :: r, isPlain d = true := List.forall_mem_cons.mpr ⟨rfl, h.plain⟩
  obtain ⟨i, start, hopen⟩ := piecesFrom_bare_tag hlead hbegins h.plain 0
    (words ++ '[' :: '/' :: (c :: r ++ ']' :: (gap ++ escape s)))
  obtain ⟨j, start', hclose⟩ := piecesFrom_bare_tag hwords (c := '/') rfl hclosing start (gap ++ escape s)
  obtain ⟨start'', hrest⟩ := piecesFrom_bare hgap start' [] (escape s)
  rw [hrest] at hclose
  rw [hclose] at hopen
  exact ⟨i, j, _, fun p hp => isText_of_mem_piecesFrom_escape s hp, hopen⟩

theorem IsPlainTag.exists_render {lead words gap : Text} (h : IsPlainTag body) (hlead : IsBare lead)
    (hwords : IsBare words) (hgap : IsBare gap) (s : Text) :
    ∃ shown, render (notice lead body words (gap ++ escape s)) = .ok shown := by
  obtain ⟨i, j, ts, hts, hpieces⟩ := h.exists_pieces hlead hwords hgap s
  obtain ⟨shown, hshown⟩ := h.exists_renderPieces (fun _ => pieceOf_isText) (fun _ => pieceOf_isText) hts i j
  have hstyled : ∀ p ∈ pieces (notice lead body words (gap ++ escape s)), checkStyle p = .ok () := by
    intro p hp
    simp only [hpieces, List.mem_append, List.mem_cons] at hp
    rcases hp with hp | rfl | hp | rfl | hp
    · exact checkStyle_of_isText (pieceOf_isText hp)
    · exact h.checkStyle_eq i
    · exact checkStyle_of_isText (pieceOf_isText hp)
    · rfl
    · exact checkStyle_of_isText (hts p hp)
  rw [← hpieces] at hshown
  exact ⟨shown, bind_eq_ok.mpr ⟨shown, hshown, bind_eq_ok.mpr ⟨(), forM_eq_ok.mpr hstyled, rfl⟩⟩⟩

end Showing

section Terminal

theorem isPlainTag_of_mem {style : Text} (h : style ∈ styles) : IsPlainTag style where
  words := by
    have hwords : ∀ style ∈ styles, ∀ w ∈ Text.words style, IsPlainWord w := by decide +kernel
    exact hwords style h
  begins := by
    have hbegins : ∀ style ∈ styles, style.head?.any (fun c => beginsTag c && c != '/') = true := by decide +kernel
    exact hbegins style h
  plain := by
    have hplain : ∀ style ∈ styles, style.all isPlain = true := by decide +kernel
    exact List.all_eq_true.mp (hplain style h)
  alone := by
    have halone : ∀ style ∈ styles, Tag.ofBody style = ⟨style, none⟩ := by decide +kernel
    exact halone style h
  trimmed := by
    have htrimmed : ∀ style ∈ styles, Text.trim (Text.upTo '=' style) = style := by decide +kernel
    exact htrimmed style h

theorem showsNotices_terminal : Console.terminal.ShowsNotices where
  escape_nil := rfl
  exists_render := by
    intro style lead words gap hstyle hlead hwords hgap s
    obtain ⟨shown, hshown⟩ := (isPlainTag_of_mem hstyle).exists_render hlead hwords hgap s
    have hrender : Console.terminal.render (notice lead style words (gap ++ escape s)) = .ok (Console.paragraph shown) := by
      dsimp only [Console.terminal]
      rw [hshown]
      rfl
    exact ⟨Console.paragraph shown, List.append_ne_nil_of_right_ne_nil _ (List.cons_ne_nil _ _), hrender⟩

end Terminal

end RuleReview.Markup
