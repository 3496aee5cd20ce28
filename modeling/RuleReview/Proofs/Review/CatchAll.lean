import RuleReview.Proofs.Diff.MarkLine
import RuleReview.Proofs.Glob.Cutting
import RuleReview.Proofs.Review.Share

/-! # A rule for every file

Two stars take any characters but line feeds, and the end of a path may be one, so a rule with this pattern alone is
sent the sections with changes whose path has no line feed elsewhere. A section has a path when the line that opens
it names one, for no header line after it takes the path before the change away.
-/
namespace RuleReview

/-! ## The pattern -/

theorem Glob.accepts_anything {path : Text} : Glob.accepts [.anything] path = true ↔ '\n' ∉ path.dropLast := by
  rw [Glob.accepts_iff]
  constructor
  · rintro ⟨_, rest, hpieces, rfl, hrest⟩
    obtain ⟨u, _, hu, hnil, rfl⟩ := List.forall₂_cons_left_iff.mp hpieces
    obtain rfl := List.forall₂_nil_left_iff.mp hnil
    have hline : '\n' ∉ u := hu.2 (.inr rfl)
    rcases hrest with rfl | rfl
    · simpa using fun h => hline (List.mem_of_mem_dropLast h)
    · simpa using hline
  · intro h
    have htakes : ∀ {u : Text}, '\n' ∉ u → List.Forall₂ Glob.Token.Takes [.anything] [u] := fun hu =>
      .cons ⟨trivial, fun _ => hu⟩ .nil
    by_cases hlast : path.getLast? = some '\n'
    · refine ⟨[path.dropLast], ['\n'], htakes h, ?_, .inr rfl⟩
      rw [List.flatten_singleton, List.dropLast_append_getLast? _ hlast]
    · refine ⟨[path], [], htakes fun hmem => ?_, by simp, .inl rfl⟩
      rcases List.eq_nil_or_concat' path with rfl | ⟨init, c, rfl⟩
      · cases hmem
      · rw [List.dropLast_concat] at h
        rw [List.getLast?_concat] at hlast
        rcases List.mem_append.mp hmem with hmem | hmem
        · exact h hmem
        · exact hlast (by rw [List.mem_singleton.mp hmem])

/-- A rule for every file does not cover a path with a line feed before its end. -/
theorem Glob.covers_anything {path : Text} : Glob.covers ["**"] path = true ↔ '\n' ∉ path.dropLast := by
  have hcompile : Glob.compile "**" = .ok (.tokens [.anything]) := rfl
  rw [Glob.covers_iff]
  constructor
  · rintro ⟨p, hp, k, hk, haccepts⟩
    rw [List.mem_singleton.mp hp, hcompile] at hk
    cases hk
    exact Glob.accepts_anything.mp haccepts
  · exact fun h => ⟨_, List.mem_singleton_self _, _, hcompile, Glob.accepts_anything.mpr h⟩

theorem Glob.compile_anything : Glob.Compile ["**"] := by
  intro p hp
  rw [List.mem_singleton.mp hp]
  exact ⟨.tokens [.anything], rfl⟩

/-! ## Paths of sections -/

namespace Diff
variable {s t : Section} {mark : Text} {extra : List Text} {p q : Text}

/-- The line names a path before the change. -/
def NamesPath (mark : Text) : Prop := ∃ old new, headerPaths mark = .ok (some old, new)

theorem exists_pathOfName_iff : (∃ q, pathOfName ('a' :: '/' :: p) = some q) ↔ IsPath p := by
  refine ⟨?_, fun hp => ⟨p, pathOfName_side (.inl rfl) hp⟩⟩
  rintro ⟨q, hq⟩
  have hnot : ∀ {r : Text}, pathOfName ('a' :: '/' :: r) = none → p ≠ r := by
    rintro r hr rfl
    cases hr.symm.trans hq
  exact ⟨hnot rfl, hnot rfl, hnot rfl⟩

/-- Two names that are written alike name a path exactly when what is kept of the first is one. -/
theorem namesPath_markLine_iff (h : p = q ∨ needsQuotes p = true ∧ needsQuotes q = true) :
    NamesPath (markLine p q) ↔ IsPath (clipped p) := by
  have hnames : headerPaths (markLine p q) =
      .ok (pathOfName ('a' :: '/' :: clipped p), pathOfName ('b' :: '/' :: clipped q)) := by
    rcases h with rfl | ⟨hp, hq⟩
    · exact headerPaths_same p
    · exact headerPaths_quoted hp hq
  rw [NamesPath, hnames, ← exists_pathOfName_iff]
  constructor
  · rintro ⟨old, new, hboth⟩
    exact ⟨old, (Prod.mk.inj (Except.ok.inj hboth)).1⟩
  · rintro ⟨old, hold⟩
    exact ⟨old, _, by rw [hold]⟩

theorem readHeader_oldPath (hmark : NamesPath mark) (h : readHeader mark extra = .ok s) : s.oldPath.isSome = true := by
  obtain ⟨old, new, hnames⟩ := hmark
  rw [readHeader, hnames] at h
  exact foldlM_invariant (fun s : Section => s.oldPath.isSome = true)
    (fun _ _ _ hs happly => (applyHeaderLine_keeps happly).2.2 hs) (by rfl) h

theorem exists_path (hs : s.Readable) (hmark : s.header.head? = some mark) (hnames : NamesPath mark) :
    ∃ path, s.path = some path := by
  obtain ⟨⟨mark', extra, hheader⟩, -⟩ := hs
  obtain rfl : mark' = mark := by simpa [hheader.header] using hmark
  obtain ⟨old, hold⟩ := Option.isSome_iff_exists.mp (readHeader_oldPath hnames hheader.reads)
  change s.oldPath = some old at hold
  rw [Section.path, hold]
  cases s.newPath with
  | none => exact ⟨old, rfl⟩
  | some new => exact ⟨new, rfl⟩

end Diff

/-! ## The share -/

namespace Review
variable {rule : Rule} {text : Text} {d : Diff} {s : Section}

/-- A section with changes is sent to a rule for every file, with all of its changes, exactly when it has a path, which it
does when its first line names one, and no line feed stands before the end of the path; numbers that cannot be written
leave no share. -/
theorem share_anything (hrule : rule.patterns = ["**".toList]) (hd : Diff.parse text = .ok d)
    (hs : s ∈ d.sections) (hchanges : s.hasChanges = true) (names warnings : List Text) (strategy : Strategy)
    (base head : Option Text) (n : ℕ) :
    (∀ mark, s.header.head? = some mark → Diff.NamesPath mark → ∃ path, s.path = some path) ∧
    ∃ c, Change.build text names strategy base head warnings = .ok c ∧ c.parsed = .ok d ∧
      (¬rule.CanReceive d n → share rule c d n = .error (.numeral .unwritable)) ∧
      (rule.CanReceive d n → ∃ sh e, share rule c d n = .ok sh ∧ Diff.parse sh.diff = .ok e ∧
        (∀ t ∈ e.sections, t.path ≠ none) ∧ ∀ path, s.path = some path →
          ('\n' ∉ path.dropLast → path ∈ sh.files ∧
            ∃ t ∈ e.sections, t.Narrows s ∧ t.header = s.header ∧ t.changes = s.changes) ∧
          ('\n' ∈ path.dropLast → path ∉ sh.paths ∧ ∀ t ∈ e.sections, t.path ≠ some path)) := by
  have hblank := Diff.not_isBlankText_of_section hd hs
  obtain ⟨c, hbuild, hparsed, hcontent, hfiles⟩ := Change.exists_build hblank hd names warnings strategy base head
  have hcovers : ∀ p, Glob.covers rule.patterns p = true ↔ '\n' ∉ p.dropLast := fun p => hrule ▸ Glob.covers_anything
  have hshare := share_eq (hrule ▸ Glob.compile_anything) hcontent d n
  have hreadable := (Diff.readable_of_parse hd).sections s hs
  refine ⟨fun _ => Diff.exists_path hreadable, c, hbuild, hparsed, fun hnot => ?_, fun hreceive => ?_⟩
  · rw [hshare, if_neg fun hw => hnot ((isWritable_sent hfiles n).mp hw)]
  have hw := (isWritable_sent hfiles n).mpr hreceive
  obtain ⟨e, he, -, -, hsections⟩ := exists_parse_sent hparsed hfiles hw
  obtain ⟨hfrom, hto⟩ := exists_of_forall₂ hsections
  have hcovered : ∀ t ∈ e.sections, t.path.any (Glob.covers rule.patterns) = true := by
    intro t ht
    obtain ⟨u, hu, hnarrows⟩ := hfrom t ht
    have hconcerns := (List.mem_filter.mp hu).2
    rw [Rule.concerns, Bool.and_eq_true] at hconcerns
    have hpath := congrArg Section.path hnarrows.facts
    change t.path = u.path at hpath
    rw [hpath]
    exact hconcerns.1
  refine ⟨_, e, hshare.trans (if_pos hw), he, fun t ht hnone => ?_,
    fun path hpath => ⟨fun hline => ?_, fun hline => ?_⟩⟩
  · have h := hcovered t ht
    rw [hnone] at h
    cases h
  · have hconcerns : s ∈ d.sections.filter rule.concerns :=
      List.mem_filter.mpr ⟨hs, by rw [Rule.concerns, hpath, Option.any_some, (hcovers path).mpr hline, hchanges]; rfl⟩
    obtain ⟨t, ht, hnarrows⟩ := hto s hconcerns
    refine ⟨?_, t, ht, hnarrows, hnarrows.header, hnarrows.changes_eq⟩
    rw [changedFiles_sent hfiles, List.mem_eraseDups]
    exact List.mem_filterMap.mpr ⟨s, hconcerns, hpath⟩
  · have huncovered : ¬Glob.covers rule.patterns path = true := fun h => (hcovers path).mp h hline
    refine ⟨fun hmem => huncovered (List.mem_filter.mp hmem).2, fun t ht htpath => huncovered ?_⟩
    have h := hcovered t ht
    rwa [htpath, Option.any_some] at h

def everythingRule : Rule := ⟨"all", "1.0.0", ["**".toList], "Rule.", "threadlines/all.md", []⟩

/-- One line of a file is changed. -/
def changeOf (path : Text) : Text := Diff.markLine path path ++ "\n@@ -1,1 +1,1 @@\n-a\n+b\n".toList

def changedSection (path : Text) : Section where
  header := [Diff.markLine path path]
  hunks :=
    [{ oldStart := 1, oldCount := 1, newStart := 1, newCount := 1, heading := [], header := "@@ -1,1 +1,1 @@"
       lines := ["-a", "+b"] }]
  oldPath := some path
  newPath := some path

def changedDiff (path : Text) : Diff := ⟨[changedSection path], [], true⟩

/-- A quotation mark in a name is no way out. -/
theorem share_anything_quotationMark : Diff.NamesPath (Diff.markLine "x\"y" "x\"y") ∧
    ∃ c sh, Change.build (changeOf "x\"y") [] .commit none none [] = .ok c ∧
      share everythingRule c (changedDiff "x\"y") 0 = .ok sh ∧ "x\"y".toList ∈ sh.files := by
  have hparse : Diff.parse (changeOf "x\"y") = .ok (changedDiff "x\"y") := by rfl
  have hnames : Diff.NamesPath (Diff.markLine "x\"y" "x\"y") :=
    (Diff.namesPath_markLine_iff (.inl rfl)).mpr ⟨by decide, by decide, by decide⟩
  have hreceive : everythingRule.CanReceive (changedDiff "x\"y") 0 := by
    intro s hs _ h hh _
    obtain rfl := List.mem_singleton.mp hs
    obtain rfl := List.mem_singleton.mp hh
    decide +kernel
  have hrule : everythingRule.patterns = ["**".toList] := rfl
  obtain ⟨-, c, hbuild, -, -, hsent⟩ :=
    share_anything hrule hparse (List.mem_singleton.mpr rfl) (by rfl) [] [] .commit none none 0
  obtain ⟨sh, _, hshare, _, _, hpaths⟩ := hsent hreceive
  exact ⟨hnames, c, sh, hbuild, hshare, ((hpaths _ rfl).1 (by decide)).1⟩

/-- A line feed in a name is one. -/
theorem share_anything_lineFeed : Diff.parse (changeOf "x\ny") = .ok (changedDiff "x\ny") ∧
    (changedSection "x\ny").hasChanges = true ∧ Diff.NamesPath (Diff.markLine "x\ny" "x\ny") ∧
    ∃ c, Change.build (changeOf "x\ny") [] .commit none none [] = .ok c ∧
      ∀ n : ℕ, share everythingRule c (changedDiff "x\ny") n = .ok ⟨[], [], []⟩ := by
  have hparse : Diff.parse (changeOf "x\ny") = .ok (changedDiff "x\ny") := by rfl
  have hnames : Diff.NamesPath (Diff.markLine "x\ny" "x\ny") :=
    (Diff.namesPath_markLine_iff (.inl rfl)).mpr ⟨by decide, by decide, by decide⟩
  refine ⟨hparse, by rfl, hnames, ⟨changeOf "x\ny", ["x\ny".toList], .commit, none, none, []⟩, ?_, fun n => ?_⟩
  · rw [Change.build, hparse]
    rfl
  · rfl

end Review

end RuleReview
