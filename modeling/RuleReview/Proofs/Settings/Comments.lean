import RuleReview.Proofs.Json.Spacing
import RuleReview.Proofs.Settings.Loading
import RuleReview.Proofs.Text.Boundaries

/-! # Comments in a settings file

A settings file is JSON with comments, each of which is a whole line. They are looked for in the lines ended by any
boundary. JSON has only two boundaries between its strings, the line feed and the carriage return, and as the lines are
joined by line feeds again, what is left of the file differs from the JSON in blanks only. But a string may hold three
of the boundaries as they are, and a line feed is none of the characters that it may hold.
-/
namespace RuleReview.Settings
open Json (Closes HasGap Place Respaced run)

/-- A line whose first characters that are no blanks are two slashes. -/
def isComment (l : Text) : Bool := (Text.trimStart l).startsWith "//"

/-- A comment that is one line, or whose further lines are comments or blank. -/
structure IsRemark (c : Text) : Prop where
  line : '\n' ∉ c
  comment : isComment c = true
  quiet : ∀ k ∈ Text.cutLines c, isComment k = true ∨ ∀ b ∈ k, Json.isSpace b = true

/-- `cs` are the lines `ls` with others between, before and behind them. -/
inductive Inserted (Q : Text → Prop) : List Text → List Text → Prop
  | nil : Inserted Q [] []
  | line {l : Text} {ls cs : List Text} (h : Inserted Q ls cs) : Inserted Q (l :: ls) (l :: cs)
  | other {c : Text} {ls cs : List Text} (hc : Q c) (h : Inserted Q ls cs) : Inserted Q ls (c :: cs)

/-- The boundaries that a string of JSON may hold as they are. -/
def isWide (c : Char) : Bool := ['\u0085', '\u2028', '\u2029'].contains c

/-- What a line of JSON is cut into, from a place in it: by carriage returns outside of strings, and by a wide boundary
in a string. -/
inductive Cuts : Place → Text → Text → List Text → Prop
  | nil : Cuts .outside [] [] []
  | ended : Cuts .outside ['\r'] [] []
  | char {p q : Place} {c : Char} {l k : Text} {ks : List Text} (hq : p.next c = some q)
      (hc : Text.isBoundary c = false) (h : Cuts q l k ks) : Cuts p (c :: l) (c :: k) ks
  | broken {l k : Text} {ks : List Text} (h : Cuts .outside l k ks) : Cuts .outside ('\r' :: l) [] (k :: ks)
  | wide {p : Place} {c : Char} {l : Text} {ks : List Text} (hp : p ≠ .outside) (hc : isWide c = true) :
      Cuts p (c :: l) [] ks

/-- The lines that are kept, each behind a line feed. -/
def kept (ks : List Text) : Text := (ks.filter fun k => !isComment k).flatMap ('\n' :: ·)

variable {p q : Place} {c : Char} {l k s a b raw : Text} {ks ls cs : List Text}

section Lines

theorem isBoundary_of_isWide (hc : isWide c = true) : Text.isBoundary c = true := by
  have hall : ['\u0085', '\u2028', '\u2029'].all Text.isBoundary = true := by decide
  exact List.all_eq_true.mp hall c (List.contains_iff_mem.mp hc)

/-- A boundary that is no line feed is a carriage return between strings, or it is wide and in a string. -/
theorem boundary_cases (hb : Text.isBoundary c = true) (hc : c ≠ '\n') (hq : p.next c = some q) :
    c = '\r' ∧ p = .outside ∧ q = .outside ∨ p ≠ .outside ∧ isWide c = true := by
  have hall : ∀ n ∈ Text.boundaryPoints, Char.ofNat n = '\n' ∨
      (Char.ofNat n = '\r' ∨ Place.next .outside (Char.ofNat n) = none) ∧ (isWide (Char.ofNat n) = true ∨
        Place.next .within (Char.ofNat n) = none ∧ Place.next .escaped (Char.ofNat n) = none) := by decide
  obtain ⟨houtside, hwithin⟩ := (hall c.toNat (List.contains_iff_mem.mp hb)).resolve_left (by rwa [Char.ofNat_toNat])
  rw [Char.ofNat_toNat] at houtside hwithin
  cases p with
  | outside =>
    rcases houtside with rfl | hnone
    · exact .inl ⟨rfl, rfl, (Option.some.inj hq).symm⟩
    · cases hnone.symm.trans hq
  | within =>
    rcases hwithin with hwide | ⟨hnone, -⟩
    · exact .inr ⟨nofun, hwide⟩
    · cases hnone.symm.trans hq
  | escaped =>
    rcases hwithin with hwide | ⟨-, hnone⟩
    · exact .inr ⟨nofun, hwide⟩
    · cases hnone.symm.trans hq

theorem cuts_of_run (hl : '\n' ∉ l) (h : run p l = some .outside) :
    ∃ k ks, Text.cutLines l = k :: ks ∧ Cuts p l k ks := by
  induction l generalizing p with
  | nil =>
    obtain rfl : p = .outside := Option.some.inj h
    exact ⟨[], [], rfl, .nil⟩
  | cons c l ih =>
    rw [List.mem_cons, not_or] at hl
    rw [Json.run_cons] at h
    obtain ⟨q, hq, h⟩ := Option.bind_eq_some_iff.mp h
    obtain ⟨k, ks, hcut, hcuts⟩ := ih hl.2 h
    by_cases hb : Text.isBoundary c = true
    · rcases boundary_cases hb (Ne.symm hl.1) hq with ⟨rfl, rfl, rfl⟩ | ⟨hp, hwide⟩
      · by_cases hnil : l = []
        · subst hnil
          exact ⟨[], [], rfl, .ended⟩
        · exact ⟨[], k :: ks, by rw [Text.cutLines_cons fun _ => hnil, if_pos hb, hcut], .broken hcuts⟩
      · have hreturn : c ≠ '\r' := by
          rintro rfl
          cases hwide
        exact ⟨[], _, by rw [Text.cutLines_cons fun hc => absurd hc hreturn, if_pos hb], .wide hp hwide⟩
    · have hreturn : c ≠ '\r' := by
        rintro rfl
        exact hb (by decide)
      refine ⟨c :: k, ks, ?_, .char hq (Bool.eq_false_iff.mpr hb) hcuts⟩
      rw [Text.cutLines_cons fun hc => absurd hc hreturn, if_neg hb, hcut, List.modifyHead_cons]

theorem Cuts.run_isSome (h : Cuts p l k ks) : (run p k).isSome = true := by
  induction h with
  | nil | ended | broken | wide => rfl
  | char hq _ _ ih => rwa [Json.run_cons, hq]

theorem isComment_of_run (h : (run .outside k).isSome = true) : isComment k = false := by
  rw [isComment]
  induction k with
  | nil => rfl
  | cons c k ih =>
    obtain ⟨r, hr⟩ := Option.isSome_iff_exists.mp h
    obtain ⟨q, hq, hr⟩ := Option.bind_eq_some_iff.mp hr
    by_cases hc : Text.isBlank c = true
    · have hquote : c ≠ '"' := by
        rintro rfl
        cases hc
      rw [Place.next, if_neg hquote] at hq
      split at hq
      · cases hq
        rw [Text.trimStart, List.dropWhile_cons_of_pos hc]
        exact ih (Option.isSome_iff_exists.mpr ⟨r, hr⟩)
      · cases hq
    · have hslash : '/' ≠ c := by
        rintro rfl
        cases hq
      rw [Text.trimStart, List.dropWhile_cons_of_neg hc]
      simp [Text.startsWith, List.isPrefixOf, hslash]

theorem kept_cons_of_not (hk : isComment k = false) (ks : List Text) : kept (k :: ks) = '\n' :: k ++ kept ks := by
  simp [kept, hk]

theorem Cuts.kept_cons (h : Cuts .outside l k ks) : kept (k :: ks) = '\n' :: k ++ kept ks :=
  kept_cons_of_not (isComment_of_run h.run_isSome) ks

theorem Cuts.respaced (h : Cuts p l k ks) (hl : ∀ c ∈ l, isWide c = false) (hab : Respaced .outside a b)
    (ha : HasGap a) : Respaced p (l ++ a) (k ++ kept ks ++ b) := by
  induction h with
  | nil => exact hab
  | ended => exact (hab.symm.more (List.forall_mem_singleton.mpr (by decide)) (hab.hasGap ha)).symm
  | @char p q c l k ks hq hc _ ih =>
    obtain ⟨-, hl⟩ := List.forall_mem_cons.mp hl
    exact (ih hl).same hq
  | broken h ih =>
    rw [h.kept_cons]
    exact (ih (List.forall_mem_cons.mp hl).2).blank (by decide) (by decide)
  | wide _ hc => cases hc.symm.trans (hl _ List.mem_cons_self)

theorem kept_nil_or (ks : List Text) : kept ks = [] ∨ ∃ s, kept ks = '\n' :: s := by
  rw [kept]
  cases ks.filter fun k => !isComment k with
  | nil => exact .inl rfl
  | cons k ks => exact .inr ⟨_, rfl⟩

theorem Cuts.not_run (h : Cuts p l k ks) (hl : ∃ c ∈ l, isWide c = true) : run p (k ++ kept ks) ≠ some .outside := by
  induction h with
  | nil => exact absurd hl (by simp)
  | ended =>
    obtain ⟨c, hc, hwide⟩ := hl
    obtain rfl := List.mem_singleton.mp hc
    cases hwide
  | @char p q c l k ks hq hc _ ih =>
    have hrest : ∃ d ∈ l, isWide d = true := by
      obtain ⟨d, hd, hwide⟩ := hl
      rcases List.mem_cons.mp hd with rfl | hd
      · cases hc.symm.trans (isBoundary_of_isWide hwide)
      · exact ⟨d, hd, hwide⟩
    rw [List.cons_append, Json.run_cons, hq]
    exact ih hrest
  | @broken l k ks h ih =>
    have hrest : ∃ d ∈ l, isWide d = true := by
      obtain ⟨d, hd, hwide⟩ := hl
      rcases List.mem_cons.mp hd with rfl | hd
      · cases hwide
      · exact ⟨d, hd, hwide⟩
    rw [h.kept_cons]
    exact ih hrest
  | @wide p c l ks hp _ =>
    rw [List.nil_append]
    rcases kept_nil_or ks with hks | ⟨s, hks⟩
    · rw [hks]
      exact fun h => hp (Option.some.inj h)
    · rw [hks, Json.run_break, if_neg hp]
      nofun

end Lines

section Files

theorem opened_cases (ls : List Text) : ls.flatMap ('\n' :: ·) = [] ∨ ∃ s, ls.flatMap ('\n' :: ·) = '\n' :: s := by
  cases ls with
  | nil => exact .inl rfl
  | cons => exact .inr ⟨_, rfl⟩

theorem hasGap_opened (ls : List Text) : HasGap (ls.flatMap ('\n' :: ·)) := by
  rcases opened_cases ls with h | ⟨s, h⟩
  · rw [h]
    exact .nil
  · rw [h]
    exact .cons (by decide) s

theorem closes_opened (h : Closes (ls.flatMap ('\n' :: ·))) : ∀ l ∈ ls, Closes l := by
  induction ls with
  | nil => simp
  | cons l ls ih =>
    obtain ⟨hl, hls⟩ := (Json.closes_append_iff (opened_cases ls)).mp h
    exact List.forall_mem_cons.mpr ⟨hl, ih hls⟩

theorem kept_append (ks ks' : List Text) : kept (ks ++ ks') = kept ks ++ kept ks' := by
  rw [kept, List.filter_append, List.flatMap_append]
  rfl

theorem IsRemark.isSpace_of_mem_kept (h : IsRemark l) : ∀ c ∈ kept (Text.cutLines l), Json.isSpace c = true := by
  intro c hc
  obtain ⟨k, hk, hc⟩ := List.mem_flatMap.mp hc
  obtain ⟨hk, hkept⟩ := List.mem_filter.mp hk
  rcases List.mem_cons.mp hc with rfl | hc
  · decide
  · exact (h.quiet k hk).resolve_left (by simpa using hkept) c hc

/-- Without wide boundaries the lines that are kept differ from the JSON in blanks only. -/
theorem Inserted.respaced (h : Inserted IsRemark ls cs) (hls : ∀ l ∈ ls, '\n' ∉ l ∧ Closes l)
    (hwide : ∀ l ∈ ls, ∀ c ∈ l, isWide c = false) :
    Respaced .outside (ls.flatMap ('\n' :: ·)) (kept (cs.flatMap Text.cutLines)) := by
  induction h with
  | nil => exact .nil
  | @line l ls cs _ ih =>
    obtain ⟨⟨hl, hclose⟩, hls⟩ := List.forall_mem_cons.mp hls
    obtain ⟨hnarrow, hwide⟩ := List.forall_mem_cons.mp hwide
    obtain ⟨k, ks, hcut, hcuts⟩ := cuts_of_run hl hclose
    rw [List.flatMap_cons, List.flatMap_cons, hcut, kept_append, hcuts.kept_cons]
    exact (hcuts.respaced hnarrow (ih hls hwide) (hasGap_opened ls)).blank (by decide) (by decide)
  | @other c ls cs hc _ ih =>
    rw [List.flatMap_cons, kept_append]
    exact (ih hls hwide).more hc.isSpace_of_mem_kept (hasGap_opened ls)

theorem Inserted.not_closes (h : Inserted IsRemark ls cs) (hls : ∀ l ∈ ls, '\n' ∉ l ∧ Closes l)
    (hwide : ∃ l ∈ ls, ∃ c ∈ l, isWide c = true) : ¬Closes (kept (cs.flatMap Text.cutLines)) := by
  induction h with
  | nil => exact absurd hwide (by simp)
  | @line l ls cs _ ih =>
    obtain ⟨⟨hl, hclose⟩, hls⟩ := List.forall_mem_cons.mp hls
    obtain ⟨k, ks, hcut, hcuts⟩ := cuts_of_run hl hclose
    rw [List.flatMap_cons, hcut, kept_append, hcuts.kept_cons]
    intro h
    obtain ⟨hfirst, hrest⟩ := (Json.closes_append_iff (kept_nil_or _)).mp h
    obtain ⟨l', hl', hwide⟩ := hwide
    rcases List.mem_cons.mp hl' with rfl | hl'
    · exact hcuts.not_run hwide hfirst
    · exact ih hls ⟨l', hl', hwide⟩ hrest
  | @other c ls cs _ _ ih =>
    rw [List.flatMap_cons, kept_append]
    exact fun h => ih hls hwide ((Json.closes_append_iff (kept_nil_or _)).mp h).2

/-- The text that is left of a file begins one line feed later, and an empty line at its end is none. -/
theorem kept_cases (hne : cs ≠ []) (hcs : ∀ c ∈ cs, '\n' ∉ c)
    (hs : withoutComments (Text.normalizeBreaks (Text.joinLines cs)) = s) :
    kept (cs.flatMap Text.cutLines) = [] ∧ s = [] ∨ kept (cs.flatMap Text.cutLines) = '\n' :: s ∨
      kept (cs.flatMap Text.cutLines) = '\n' :: (s ++ ['\n']) := by
  subst hs
  have hkept (ks : List Text) : kept ks = [] ∧ Text.joinLines (ks.filter fun k => !isComment k) = [] ∨
      kept ks = '\n' :: Text.joinLines (ks.filter fun k => !isComment k) := by
    rw [kept]
    by_cases hks : (ks.filter fun k => !isComment k) = []
    · rw [hks]
      exact .inl ⟨rfl, rfl⟩
    · exact .inr (Text.flatMap_opened hks)
  have hlines := hkept (Text.boundedLines (Text.normalizeBreaks (Text.joinLines cs)))
  have hlast : kept [[]] = ['\n'] := rfl
  rcases Text.boundedLines_joinLines hne hcs with h | h
  · rw [h]
    exact hlines.imp_right .inl
  · rw [h, kept_append, hlast]
    rcases hlines with ⟨hnil, hs⟩ | hs
    · rw [hnil]
      refine .inr (.inl ?_)
      rw [withoutComments]
      exact congrArg ('\n' :: ·) hs.symm
    · rw [hs]
      exact .inr (.inr rfl)

theorem notMem_of_inserted (h : Inserted IsRemark ls cs) (hls : ∀ l ∈ ls, '\n' ∉ l) : ∀ c ∈ cs, '\n' ∉ c := by
  induction h with
  | nil => simp
  | line _ ih =>
    obtain ⟨hl, hls⟩ := List.forall_mem_cons.mp hls
    exact List.forall_mem_cons.mpr ⟨hl, ih hls⟩
  | other hc _ ih => exact List.forall_mem_cons.mpr ⟨hc.line, ih hls⟩

variable {t : FileTree} {file : Path} {v : Json} {ms : List (Text × Json)} {doc : Text}

theorem lines_of_parse (hv : Json.parse doc = .ok v) : ∀ l ∈ Text.splitLines doc, '\n' ∉ l ∧ Closes l := by
  have hclose : Closes doc := Json.closes_of_parse hv
  have hopened : Closes ((Text.splitLines doc).flatMap ('\n' :: ·)) := by
    rw [Text.flatMap_opened (Text.splitLines_ne_nil doc), Text.joinLines_splitLines]
    exact hclose
  exact fun l hl => ⟨Text.newline_notMem_splitLines hl, closes_opened hopened l hl⟩

theorem Inserted.ne_nil (h : Inserted IsRemark ls cs) (hls : ls ≠ []) : cs ≠ [] := by
  cases h with
  | nil => exact absurd rfl hls
  | line | other => exact List.cons_ne_nil _ _

theorem Inserted.kept_cases (h : Inserted IsRemark (Text.splitLines doc) cs)
    (hs : withoutComments (Text.normalizeBreaks (Text.joinLines cs)) = s) :
    kept (cs.flatMap Text.cutLines) = [] ∧ s = [] ∨ kept (cs.flatMap Text.cutLines) = '\n' :: s ∨
      kept (cs.flatMap Text.cutLines) = '\n' :: (s ++ ['\n']) :=
  Settings.kept_cases (h.ne_nil (Text.splitLines_ne_nil doc))
    (notMem_of_inserted h fun _ => Text.newline_notMem_splitLines) hs

theorem parse_withoutComments (hv : Json.parse doc = .ok v) (h : Inserted IsRemark (Text.splitLines doc) cs)
    (hwide : ∀ c ∈ doc, isWide c = false) :
    Json.parse (withoutComments (Text.normalizeBreaks (Text.joinLines cs))) = .ok v := by
  have hspaced := h.respaced (lines_of_parse hv) fun l hl c hc => hwide c ((Text.infix_of_mem_splitLines hl).subset hc)
  rw [Text.flatMap_opened (Text.splitLines_ne_nil doc), Text.joinLines_splitLines] at hspaced
  have hskip : Respaced .outside (Json.skipSpace doc) (Json.skipSpace (kept (cs.flatMap Text.cutLines))) :=
    hspaced.skipSpace
  have hkept := Json.parse_of_respaced hskip hv
  generalize hs : withoutComments (Text.normalizeBreaks (Text.joinLines cs)) = s
  rcases h.kept_cases hs with ⟨hnil, rfl⟩ | hline | hline
  · rwa [hnil] at hkept
  · rw [hline, ← List.append_nil s] at hkept
    exact Json.parse_of_padded (.inl rfl) hkept
  · rw [hline] at hkept
    exact Json.parse_of_padded (.inr rfl) hkept

theorem not_closes_withoutComments (hv : Json.parse doc = .ok v) (h : Inserted IsRemark (Text.splitLines doc) cs)
    (hwide : ∃ c ∈ doc, isWide c = true) :
    ¬Closes (withoutComments (Text.normalizeBreaks (Text.joinLines cs))) := by
  have hline : ∃ l ∈ Text.splitLines doc, ∃ c ∈ l, isWide c = true := by
    obtain ⟨c, hc, hwide⟩ := hwide
    have hmem : c ∈ (Text.splitLines doc).flatMap ('\n' :: ·) := by
      rw [Text.flatMap_opened (Text.splitLines_ne_nil doc), Text.joinLines_splitLines]
      exact List.mem_cons_of_mem _ hc
    obtain ⟨l, hl, hmem⟩ := List.mem_flatMap.mp hmem
    rcases List.mem_cons.mp hmem with rfl | hmem
    · cases hwide
    · exact ⟨l, hl, c, hmem, hwide⟩
  intro hclose
  refine h.not_closes (lines_of_parse hv) hline ?_
  generalize hs : withoutComments (Text.normalizeBreaks (Text.joinLines cs)) = s at hclose
  rcases h.kept_cases hs with ⟨hnil, -⟩ | hline | hline
  · rw [hnil]
    rfl
  · rw [hline]
    exact hclose
  · rw [hline]
    exact (Json.closes_append_iff (.inr ⟨[], rfl⟩)).mpr ⟨hclose, rfl⟩

/-- Comments that are whole lines change nothing of an object, when its strings hold no boundary as it is; otherwise it
cannot be read, even without any comment. -/
theorem readMembers_inserted (hfile : t.find true file = .ok (.file (Text.encode (Text.joinLines cs))))
    (hv : Json.parse doc = .ok v) (hms : v.members? = some ms) (h : Inserted IsRemark (Text.splitLines doc) cs) :
    ((∀ c ∈ doc, isWide c = false) → readMembers t file = .ok ms) ∧
      ((∃ c ∈ doc, isWide c = true) → ∃ p, readMembers t file =
        .error (.ofJson (fun p => .configuration (.badJson file.toText p)) p)) := by
  have hsource (hne : withoutComments (Text.normalizeBreaks (Text.joinLines cs)) ≠ []) :
      source (Text.joinLines cs) = withoutComments (Text.normalizeBreaks (Text.joinLines cs)) :=
    if_neg (by rwa [List.isEmpty_iff])
  rw [readMembers_of_find hfile, Text.decode?_eq_some.mpr rfl]
  constructor
  · intro hwide
    have hparse := parse_withoutComments hv h hwide
    rw [← hsource fun hnil => by rw [hnil] at hparse; cases hparse] at hparse
    simp only [hparse, hms]
    rfl
  · intro hwide
    have hopen := not_closes_withoutComments hv h hwide
    rw [← hsource fun hnil => hopen (by rw [hnil]; rfl)] at hopen
    cases hparse : Json.parse (source (Text.joinLines cs)) with
    | ok w => exact absurd (Json.closes_of_parse hparse) hopen
    | error p => exact ⟨p, by simp only [hparse]⟩

/-- A directory with a settings file of some lines. -/
def fileOf (cs : List Text) : FileTree := .dir [(fileName, .file (Text.encode (Text.joinLines cs)))]

def slashes : Text := "\x7b\n\"model\": \"a // b\"\n\x7d"

def slashesCommented : List Text := ["// Which model", "\x7b", "  // not \"b\"", "\"model\": \"a // b\"", "\x7d", "//"]

theorem readMembers_slashes : ∃ v ms, Json.parse slashes = .ok v ∧ v.members? = some ms ∧
    Inserted IsRemark (Text.splitLines slashes) slashesCommented ∧ (∀ c ∈ slashes, isWide c = false) ∧
    readMembers (fileOf slashesCommented) (.ofPlace [fileName]) = .ok ms ∧ ms.map Prod.fst = ["model".toList] := by
  have hread : (Json.parse slashes).toOption.map (fun v => v.members?.map fun ms => ms.map Prod.fst) =
      some (some ["model".toList]) := by decide +kernel
  have hlines : Text.splitLines slashes = ["\x7b".toList, "\"model\": \"a // b\"".toList, "\x7d".toList] := by decide
  have hremark : ∀ c ∈ ["// Which model".toList, "  // not \"b\"".toList, "//".toList],
      '\n' ∉ c ∧ isComment c = true ∧ ∀ k ∈ Text.cutLines c, isComment k = true := by decide
  have hquiet (c : Text) (hc : c ∈ ["// Which model".toList, "  // not \"b\"".toList, "//".toList]) : IsRemark c :=
    ⟨(hremark c hc).1, (hremark c hc).2.1, fun k hk => .inl ((hremark c hc).2.2 k hk)⟩
  have hinserted : Inserted IsRemark (Text.splitLines slashes) slashesCommented := by
    rw [hlines]
    refine .other (hquiet _ (by simp)) (.line (.other (hquiet _ (by simp)) (.line (.line ?_))))
    exact .other (hquiet _ (by simp)) .nil
  have hnarrow : slashes.any isWide = false := by decide
  have hwide : ∀ c ∈ slashes, isWide c = false := fun c hc => Bool.eq_false_iff.mpr (List.any_eq_false.mp hnarrow c hc)
  obtain ⟨v, hv, hmembers⟩ := exists_ok_of_toOption hread
  obtain ⟨ms, hms, hnames⟩ := Option.map_eq_some_iff.mp hmembers
  exact ⟨v, ms, hv, hms, hinserted, hwide, (readMembers_inserted rfl hv hms hinserted).1 hwide, hnames⟩

/-- With comments the object is not read as it is. -/
def IsMisread (doc : Text) (cs : List Text) : Prop :=
  ∃ v ms, Json.parse doc = .ok v ∧ v.members? = some ms ∧
    Inserted (fun c => isComment c = true) (Text.splitLines doc) cs ∧
    readMembers (fileOf cs) (.ofPlace [fileName]) ≠ .ok ms

def wideModel : Text := "\x7b\"model\": \"a\u2028b\"\x7d"

def shortModel : Text := "\x7b\n\"model\": \"x\"\n\x7d"

/-- A comment that goes on as a member behind a wide boundary. -/
def spilled : List Text := ["\x7b", "// note\u2028\"mode\": \"offline\",", "\"model\": \"x\"", "\x7d"]

/-- A wide boundary in a string is misread without any comment, and one in a comment ends the comment. -/
theorem isMisread_wide : IsMisread wideModel [wideModel] ∧ IsMisread shortModel spilled := by
  constructor
  · have hread : (Json.parse wideModel).toOption.map (fun v => v.members?.isSome) = some true := by decide +kernel
    have hlines : Text.splitLines wideModel = [wideModel] := by decide
    have hfile : (readMembers (fileOf [wideModel]) (.ofPlace [fileName])).toOption.isSome = false := by decide +kernel
    obtain ⟨v, hv, hmembers⟩ := exists_ok_of_toOption hread
    obtain ⟨ms, hms⟩ := Option.isSome_iff_exists.mp hmembers
    refine ⟨v, ms, hv, hms, hlines ▸ .line .nil, fun h => ?_⟩
    rw [h] at hfile
    cases hfile
  · have hread : (Json.parse shortModel).toOption.map (fun v => v.members?.map List.length) = some (some 1) := by
      decide +kernel
    have hlines : Text.splitLines shortModel = ["\x7b".toList, "\"model\": \"x\"".toList, "\x7d".toList] := by decide
    have hfile : (readMembers (fileOf spilled) (.ofPlace [fileName])).toOption.map List.length = some 2 := by
      decide +kernel
    obtain ⟨v, hv, hmembers⟩ := exists_ok_of_toOption hread
    obtain ⟨ms, hms, hone⟩ := Option.map_eq_some_iff.mp hmembers
    refine ⟨v, ms, hv, hms, hlines ▸ .line (.other (by decide) (.line (.line .nil))), fun h => ?_⟩
    rw [h] at hfile
    cases hone.symm.trans (Option.some.inj hfile)

end Files

end RuleReview.Settings
