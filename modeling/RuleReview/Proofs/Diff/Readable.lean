import RuleReview.Proofs.Diff.Header
import RuleReview.Proofs.Diff.Lossless

/-! # Diffs that can be read again

In a readable diff every header says what stands in the fields beside it, and no line opens anything but the
header of a section or a hunk. Reading gives readable diffs, and a readable diff is read from its own text.
-/
namespace RuleReview

/-- The header of the hunk says its numbers and heading, and its lines open nothing. -/
structure Hunk.Readable (h : Hunk) : Prop where
  opens : Diff.opensHunk h.header = true
  noBreak : '\n' ∉ h.header
  reads : ∀ number, Diff.readHunk ⟨h.header, number, h.lines⟩ = .ok h
  plain : ∀ l ∈ h.lines, Diff.IsPlain l

/-- The header lines of the section say its paths and what happened to its file. -/
structure Section.HeaderReadable (s : Section) (mark : Text) (extra : List Text) : Prop where
  header : s.header = mark :: extra
  opens : Diff.opensSection mark = true
  noBreak : '\n' ∉ mark
  plain : ∀ l ∈ extra, Diff.IsPlain l
  reads : Diff.readHeader mark extra = .ok { s with hunks := [] }

structure Section.Readable (s : Section) : Prop where
  header : ∃ mark extra, s.HeaderReadable mark extra
  hunks : ∀ h ∈ s.hunks, h.Readable

structure Diff.Readable (d : Diff) : Prop where
  preamble : ∀ l ∈ d.preamble, Diff.IsPlain l
  sections : ∀ s ∈ d.sections, s.Readable

theorem Hunk.Readable.newline_notMem {h : Hunk} (hr : h.Readable) : ∀ l ∈ h.allLines, '\n' ∉ l :=
  List.forall_mem_cons.mpr ⟨hr.noBreak, fun l hl => (hr.plain l hl).noBreak⟩

theorem Section.Readable.newline_notMem {s : Section} (hr : s.Readable) : ∀ l ∈ s.allLines, '\n' ∉ l := by
  obtain ⟨⟨mark, extra, hheader⟩, hhunks⟩ := hr
  rw [Section.allLines, hheader.header, List.cons_append, List.forall_mem_cons]
  refine ⟨hheader.noBreak, fun l hl => ?_⟩
  rcases List.mem_append.mp hl with hl | hl
  · exact (hheader.plain l hl).noBreak
  · obtain ⟨h, hh, hl⟩ := List.mem_flatMap.mp hl
    exact (hhunks h hh).newline_notMem l hl

theorem Diff.Readable.newline_notMem {d : Diff} (hr : d.Readable) : ∀ l ∈ d.allLines, '\n' ∉ l := by
  intro l hl
  rcases List.mem_append.mp hl with hl | hl
  · exact (hr.preamble l hl).noBreak
  · obtain ⟨s, hs, hl⟩ := List.mem_flatMap.mp hl
    exact (hr.sections s hs).newline_notMem l hl

namespace Diff

theorem readHunk_number {header : Text} {n m : Nat} {body : List Text} {h : Hunk}
    (hr : readHunk ⟨header, n, body⟩ = .ok h) : readHunk ⟨header, m, body⟩ = .ok h := by
  rw [readHunk] at hr ⊢
  cases hp : headerParts? header with
  | none => simp [hp] at hr
  | some parts => simpa only [hp] using hr

theorem readHunk_body {header : Text} {n : Nat} {body : List Text} {h : Hunk}
    (hr : readHunk ⟨header, n, body⟩ = .ok h) (ls : List Text) :
    readHunk ⟨header, n, ls⟩ = .ok { h with lines := ls } := by
  rw [readHunk] at hr ⊢
  cases hp : headerParts? header with
  | none => simp [hp] at hr
  | some parts =>
    simp only [hp, bind_eq_ok, pure_eq_ok] at hr ⊢
    obtain ⟨a, ha, b, hb, c, hc, d, hd, rfl⟩ := hr
    exact ⟨a, ha, b, hb, c, hc, d, hd, rfl⟩

end Diff

theorem Hunk.Readable.withLines {h : Hunk} (hr : h.Readable) {ls : List Line} (hls : ls ⊆ h.lines) :
    { h with lines := ls }.Readable :=
  ⟨hr.opens, hr.noBreak, fun number => Diff.readHunk_body (hr.reads number) ls, fun l hl => hr.plain l (hls hl)⟩

theorem Section.Readable.withHunks {s : Section} (hr : s.Readable) {hs : List Hunk} (hhs : ∀ h ∈ hs, h.Readable) :
    { s with hunks := hs }.Readable := by
  obtain ⟨⟨mark, extra, hheader⟩, _⟩ := hr
  exact ⟨⟨mark, extra, hheader.header, hheader.opens, hheader.noBreak, hheader.plain, hheader.reads⟩, hhs⟩

namespace Diff

theorem RawHunk.Grouped.readable {raw : RawHunk} {h : Hunk} (hg : raw.Grouped) (hr : readHunk raw = .ok h) :
    h.Readable := by
  obtain ⟨hheader, hbody⟩ := readHunk_lines hr
  refine ⟨hheader ▸ hg.opens, hheader ▸ hg.noBreak, fun number => ?_, hbody ▸ hg.body⟩
  rw [hheader, hbody]
  exact readHunk_number hr

theorem RawSection.Grouped.readable {raw : RawSection} {s : Section} (hg : raw.Grouped)
    (hr : readSection raw = .ok s) : s.Readable := by
  obtain ⟨hheader, hhunks⟩ := readSection_eq_ok.mp hr
  refine ⟨⟨raw.header, raw.extra, ?_⟩, forall_of_mapM (fun _ _ ha hb => ha.readable hb) hg.hunks hhunks⟩
  exact ⟨(readHeader_lines hheader).1, hg.opens, hg.noBreak, hg.extra, hheader⟩

theorem readable_of_parse {s : Text} {d : Diff} (h : Diff.parse s = .ok d) : d.Readable := by
  obtain ⟨_, hsections, hloose, _⟩ := parse_eq_ok.mp h
  have hg : (outline 1 (textLines s).1).Grouped := outline_grouped 1 fun l hl => newline_notMem_textLines hl
  exact ⟨hloose ▸ hg.loose, forall_of_mapM (fun _ _ ha hb => ha.readable hb) hg.sections hsections⟩

/-- The lines of readable hunks are grouped into these hunks, when the lines after them open something. -/
theorem outline_hunks {hs : List Hunk} (h : ∀ k ∈ hs, k.Readable) {rest : List Text}
    (hrest : ∀ n, (outline n rest).loose = []) (n : Nat) :
    ∃ m raws, raws.mapM readHunk = .ok hs ∧
      outline n (hs.flatMap Hunk.allLines ++ rest) =
        ⟨[], raws ++ (outline m rest).hunks, (outline m rest).sections⟩ := by
  induction hs generalizing n with
  | nil =>
    have hnil : outline n rest = ⟨[], (outline n rest).hunks, (outline n rest).sections⟩ := by rw [← hrest n]
    exact ⟨n, [], rfl, hnil⟩
  | cons k hs ih =>
    obtain ⟨hk, h⟩ := List.forall_mem_cons.mp h
    obtain ⟨m, raws, hraws, ho⟩ := ih h (n + 1 + k.lines.length)
    refine ⟨m, ⟨k.header, n, k.lines⟩ :: raws, ?_, ?_⟩
    · simp [List.mapM_cons, hk.reads, hraws, bind, Except.bind, pure, Except.pure]
    · rw [List.flatMap_cons, Hunk.allLines, List.append_assoc, List.cons_append, outline_hunk hk.opens,
        outline_plain hk.plain, ho]
      simp

theorem outline_sections {ss : List Section} (h : ∀ s ∈ ss, s.Readable) (n : Nat) :
    ∃ raws, raws.mapM readSection = .ok ss ∧ outline n (ss.flatMap Section.allLines) = ⟨[], [], raws⟩ := by
  induction ss generalizing n with
  | nil => exact ⟨[], rfl, rfl⟩
  | cons s ss ih =>
    obtain ⟨⟨⟨mark, extra, hheader⟩, hhunks⟩, h⟩ := List.forall_mem_cons.mp h
    have hrest : ∀ n, (outline n (ss.flatMap Section.allLines)).loose = [] := by
      intro k
      obtain ⟨raws, _, ho⟩ := ih h k
      rw [ho]
    obtain ⟨m, hraws, hread, ho⟩ := outline_hunks hhunks hrest (n + 1 + extra.length)
    obtain ⟨raws, hsections, hos⟩ := ih h m
    refine ⟨⟨mark, extra, hraws⟩ :: raws, ?_, ?_⟩
    · have hs : readSection ⟨mark, extra, hraws⟩ = .ok s := readSection_eq_ok.mpr ⟨hheader.reads, hread⟩
      simp [List.mapM_cons, hs, hsections, bind, Except.bind, pure, Except.pure]
    · rw [List.flatMap_cons, Section.allLines, hheader.header, List.append_assoc, List.cons_append,
        outline_section hheader.opens, outline_plain hheader.plain, ho, hos]
      simp

theorem ofOutline_allLines {d : Diff} (hr : d.Readable) (ended : Bool) :
    ofOutline (outline 1 d.allLines) ended = .ok { d with endsWithNewline := ended } := by
  obtain ⟨raws, hsections, ho⟩ := outline_sections hr.sections (1 + d.preamble.length)
  rw [Diff.allLines, outline_plain hr.preamble, ho]
  simp [ofOutline, hsections, bind, Except.bind, pure, Except.pure]

theorem Readable.allLines_ne_nil {d : Diff} (hr : d.Readable) (hne : d.sections ≠ []) : d.allLines ≠ [] := by
  obtain ⟨s, ss, hss⟩ := List.exists_cons_of_ne_nil hne
  obtain ⟨mark, extra, hheader⟩ := (hr.sections s (by simp [hss])).header
  simp [Diff.allLines, hss, Section.allLines, hheader.header]

theorem Readable.serialize_ne_nil {d : Diff} (hr : d.Readable) (hne : d.sections ≠ []) : d.serialize ≠ [] := by
  obtain ⟨s, ss, hss⟩ := List.exists_cons_of_ne_nil hne
  obtain ⟨mark, extra, hheader⟩ := (hr.sections s (by simp [hss])).header
  have hmark : mark ∈ d.allLines := by simp [Diff.allLines, hss, Section.allLines, hheader.header]
  have hmarkne : mark ≠ [] := by
    rintro rfl
    exact absurd hheader.opens (by decide)
  intro hnil
  rw [serialize, if_neg (by simpa using hr.allLines_ne_nil hne), List.append_eq_nil_iff] at hnil
  exact hmarkne (Text.eq_nil_of_joinLines hnil.1 mark hmark)

/-- A readable diff is read from its own text, unless its last line is empty and not ended. -/
theorem Readable.parse_serialize {d : Diff} (hr : d.Readable) (hne : d.allLines ≠ [])
    (hend : d.endsWithNewline = true ∨ d.allLines.getLast? ≠ some []) : Diff.parse d.serialize = .ok d := by
  rw [Diff.parse, serialize_eq, textLines_linesText hne hr.newline_notMem hend, ofOutline_allLines hr]

end Diff

end RuleReview
