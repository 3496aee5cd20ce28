import RuleReview.Proofs.Diff.Added
import RuleReview.Proofs.Distinct
import RuleReview.Proofs.FileTree.Names

/-! # Named files are read back

The text that stands for named files is read as one section for each path that they are shown under, and the section
holds what the first file under that path does.
-/
namespace RuleReview.Change
open Diff
variable {t : FileTree} {root : Path} {files : List Path} {shown : Path → Text} {entry : Path → Option Text × Text}

theorem addedFiles_eq_ok (seen : List Text) (hshown : ∀ p ∈ files, shownPath t root p = .ok (shown p))
    (hentry : ∀ p ∈ files, recorded t p = .ok (entry p)) :
    addedFiles t root seen files =
      .ok ((firsts shown seen files).map fun p => (shown p, addedSection (shown p) (entry p).1 (entry p).2)) := by
  induction files generalizing seen with
  | nil => rfl
  | cons p ps ih =>
    have hps (seen : List Text) := ih seen (fun q hq => hshown q (List.mem_cons_of_mem p hq))
      (fun q hq => hentry q (List.mem_cons_of_mem p hq))
    rw [addedFiles, hshown p List.mem_cons_self, hentry p List.mem_cons_self, firsts]
    change (if _ then _ else _) = _
    split
    · exact hps seen
    · rw [hps]
      rfl

theorem mode_of_recorded {p : Path} {e : Option Text × Text} (h : recorded t p = .ok e) :
    e.2 = linkMode ∨ e.2 = regularMode := by
  obtain ⟨target, -, h⟩ := bind_eq_ok.mp h
  cases target with
  | some target =>
    cases h
    exact .inl rfl
  | none =>
    obtain ⟨bytes, -, h⟩ := bind_eq_ok.mp h
    cases h
    exact .inr rfl

theorem newline_notMem_mode {p : Path} {e : Option Text × Text} (h : recorded t p = .ok e) : '\n' ∉ e.2 := by
  rcases mode_of_recorded h with hmode | hmode
  all_goals
    rw [hmode]
    decide

/-- Files whose paths can be named are read back, unless one is shown as the null file. -/
theorem exists_parse_ofFiles (hshown : ∀ p ∈ files, shownPath t root p = .ok (shown p))
    (hentry : ∀ p ∈ files, recorded t p = .ok (entry p)) (hpath : ∀ p ∈ files, IsNameable (shown p))
    (hnull : ∀ p ∈ files, shown p ≠ "/dev/null".toList) (hcount : ∀ p ∈ files, IsCountable (entry p).1) :
    ∃ text d, ofFiles t root files = .ok (text, (files.map shown).eraseDups) ∧ Diff.parse text = .ok d ∧
      d.preamble = [] ∧ List.Forall₂
        (fun path s => ∃ p, files.find? (shown · == path) = some p ∧ s.Adds path (entry p).1)
        (files.map shown).eraseDups d.sections := by
  have hread : ∀ p ∈ firsts shown [] files, (newSection (shown p) (entry p).1 (entry p).2).Readable := by
    intro p hp
    have hmem : p ∈ files := firsts_subset [] files hp
    exact readable_newSection (hpath p hmem) (hnull p hmem) (newline_notMem_mode (hentry p hmem)) (hcount p hmem)
  have hpaths : (firsts shown [] files).map shown = (files.map shown).eraseDups := by simp [map_firsts]
  obtain ⟨ended, hparse⟩ := parse_newSections hread
  refine ⟨_, _, ?_, hparse, rfl, ?_⟩
  · rw [ofFiles, addedFiles_eq_ok [] hshown hentry, ← hpaths]
    simp only [Except.map, List.flatMap_map, List.map_map]
    rfl
  · rw [← hpaths, List.forall₂_map_left_iff, List.forall₂_map_right_iff, List.forall₂_same]
    exact fun p hp => ⟨p, find?_of_mem_firsts hp, adds_newSection _ _ _⟩

/-- Files that can be read and are shown under paths that a header can name become a text, which is read as one section
for each of these paths in the order of their first appearance. The section adds what the first file under its path
holds. -/
theorem ofFiles_decodes {files : List Path.Named} (hshown : ∀ p ∈ files, shownPath t root p = .ok (shown p))
    (hentry : ∀ p ∈ files, recorded t p = .ok (entry p)) (hpath : ∀ p ∈ files, IsNameable (shown p))
    (hcount : ∀ p ∈ files, IsCountable (entry p).1) :
    ∃ text d, ofFiles t root files.unattach = .ok (text, (files.unattach.map shown).eraseDups) ∧
      Diff.parse text = .ok d ∧ d.preamble = [] ∧ List.Forall₂
        (fun path s => ∃ p, files.unattach.find? (shown · == path) = some p ∧ s.Adds path (entry p).1)
        (files.unattach.map shown).eraseDups d.sections := by
  have hnull : ∀ p ∈ files, shown p ≠ "/dev/null".toList := by
    intro p hp he
    have hhead := head?_shownPath p.2 (hshown p hp)
    rw [he] at hhead
    exact hhead rfl
  have hall {P : Path → Prop} (h : ∀ p ∈ files, P p) : ∀ p ∈ files.unattach, P p := by
    intro p hp
    obtain ⟨hnamed, hmem⟩ := List.mem_unattach.mp hp
    exact h ⟨p, hnamed⟩ hmem
  exact exists_parse_ofFiles (hall hshown) (hall hentry) (hall hpath) (hall hnull) (hall hcount)

def sampleFolder : FileTree :=
  .dir [("r".toList, .dir
    [("a b".toList, .file (Text.encode "x\n@@ -1 +1 @@\n")), ("c".toList, .file (Text.encode "diff --git a/x b/x\r")),
      ("d".toList, .file []), ("e".toList, .file [0]), ("f".toList, .link "a b")])]

def sampleRoot : Path := .ofText "/r"

/-- Two of these paths lead to the link. -/
def sampleFiles : List Path.Named :=
  [.ofText "/r/f", .ofText "/r/a b", .ofText "/r/c", .ofText "/r/d", .ofText "/r/./f", .ofText "/r/e"]

def sampleShown (p : Path) : Text := (shownPath sampleFolder sampleRoot p).toOption.getD []

def sampleEntry (p : Path) : Option Text × Text := (recorded sampleFolder p).toOption.getD (none, [])

theorem ofFiles_decodes_sample :
    ∃ text d, ofFiles sampleFolder sampleRoot sampleFiles.unattach =
        .ok (text, (["f".toList, "a b".toList, "c".toList, "d".toList, "e".toList] : List Text)) ∧
      Diff.parse text = .ok d ∧ d.preamble = [] ∧ List.Forall₂
        (fun path s => ∃ p, sampleFiles.unattach.find? (sampleShown · == path) = some p ∧ s.Adds path (sampleEntry p).1)
        (["f".toList, "a b".toList, "c".toList, "d".toList, "e".toList] : List Text) d.sections := by
  have hshown : ∀ p ∈ sampleFiles, shownPath sampleFolder sampleRoot p = .ok (sampleShown p) := by
    have hsome : ∀ p ∈ sampleFiles, (shownPath sampleFolder sampleRoot p.1).toOption.isSome = true := by decide +kernel
    exact fun p hp => eq_ok_of_isSome (hsome p hp) []
  have hentry : ∀ p ∈ sampleFiles, recorded sampleFolder p = .ok (sampleEntry p) := by
    have hsome : ∀ p ∈ sampleFiles, (recorded sampleFolder p.1).toOption.isSome = true := by decide +kernel
    exact fun p hp => eq_ok_of_isSome (hsome p hp) (none, [])
  have hpaths : (sampleFiles.unattach.map sampleShown).eraseDups =
      ["f".toList, "a b".toList, "c".toList, "d".toList, "e".toList] := by decide +kernel
  have hlength : ∀ p ∈ sampleFiles, ∀ s ∈ (sampleEntry p).1, s.length < Numeral.greatest := by decide +kernel
  have hdecoded := ofFiles_decodes hshown hentry (by decide +kernel)
    fun p hp => isCountable_of_length_lt (hlength p hp)
  rwa [hpaths] at hdecoded

end RuleReview.Change
