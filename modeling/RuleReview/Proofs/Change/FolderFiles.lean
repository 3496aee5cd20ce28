import Mathlib.Data.List.Basic
import Mathlib.Data.List.Nodup
import Mathlib.Logic.Unique
import RuleReview.Change.Files
import RuleReview.Proofs.FileTree.Walk

/-! # The files of a folder are complete

The paths that are collected from a folder are those of the entries that are listed below it, each of them once and in
order. Collecting fails where there is no folder or nothing is listed in it, and besides where a path is too long to be
looked at, be it the one of the folder or of a directory that is entered.
-/
namespace RuleReview.Change
open Entry

variable {t : FileTree} {root p : Path} {raw : Text} {excluded : List Text} {es : List (Text × Entry)}
  {found : List (List Text)} {names : List Text} {problem : FileProblem}

/-- Every directory that is entered below the one at a path can be looked at. -/
def IsOpen (t : FileTree) (excluded : List Text) (p : Path) (es : List (Text × Entry)) : Prop :=
  ∀ names, IsEntered excluded (.dir es) names → t.find false (p.below names) ≠ .error .nameTooLong

/-- The directory under names is the first one that is entered and cannot be looked at. -/
structure IsFirstClosed (t : FileTree) (excluded : List Text) (p : Path) (es : List (Text × Entry)) (names : List Text) :
    Prop where
  entered : IsEntered excluded (.dir es) names
  closed : t.find false (p.below names) = .error .nameTooLong
  first : ∀ others, IsEntered excluded (.dir es) others → Precedes others names →
    t.find false (p.below others) ≠ .error .nameTooLong

/-- These are the names from a directory at a path to the entries that are listed below it. -/
structure IsListing (t : FileTree) (excluded : List Text) (p : Path) (es : List (Text × Entry)) (found : List (List Text)) :
    Prop where
  ordered : found.Pairwise Precedes
  complete : ∀ names, names ∈ found ↔ ∃ folders n, names = folders ++ [n] ∧ IsListed t excluded p (.dir es) folders n

theorem found?_of_error (follow : Bool) (h : t.find follow p = .error problem) (hlong : problem ≠ .nameTooLong) :
    t.found? follow p = .ok none := by
  rw [found?, h]
  split <;> simp_all

theorem isSound_of_find {follow : Bool} (ht : t.IsSound) (h : t.find follow p = .ok (.dir es)) : (Entry.dir es).IsSound := by
  obtain ⟨place, -, hplace⟩ := find_eq_ok.mp h
  exact ht.at? hplace

theorem lookAt_cases (t : FileTree) (p : Path) (names : List Text) :
    t.find false (p.below names) ≠ .error .nameTooLong ∧ lookAt t p names = .ok () ∨
      t.find false (p.below names) = .error .nameTooLong ∧
        lookAt t p names = .error (.noFile (p.below names).toText .nameTooLong) := by
  cases h : t.find false (p.below names) with
  | ok e => exact .inl ⟨nofun, by rw [lookAt, found?, h]; rfl⟩
  | error problem =>
    by_cases hlong : problem = .nameTooLong
    · exact .inr ⟨congrArg _ hlong, by rw [lookAt, found?, h, hlong]; rfl⟩
    · exact .inl ⟨by simpa using hlong, by rw [lookAt, found?_of_error false h hlong]; rfl⟩

theorem lookAt_eq_ok : lookAt t p names = .ok () ↔ t.find false (p.below names) ≠ .error .nameTooLong := by
  rcases lookAt_cases t p names with ⟨h, hlook⟩ | ⟨h, hlook⟩ <;> simp [h, hlook]

theorem lookAt_eq_error {f : Failure} : lookAt t p names = .error f ↔
    t.find false (p.below names) = .error .nameTooLong ∧ f = .noFile (p.below names).toText .nameTooLong := by
  rcases lookAt_cases t p names with ⟨h, hlook⟩ | ⟨h, hlook⟩ <;> simp [h, hlook, eq_comm]

section Walked

variable (h : (Entry.dir es).IsSound)
include h

theorem isListing_walk : IsListing t excluded p es (walk t excluded p (.dir es)).entries :=
  ⟨pairwise_entries_walk h, fun _ => mem_entries_walk h⟩

theorem isListing_iff : IsListing t excluded p es found ↔ found = (walk t excluded p (.dir es)).entries := by
  constructor
  · intro hfound
    refine eq_of_pairwise_precedes hfound.ordered (pairwise_entries_walk h) fun names => ?_
    rw [hfound.complete, mem_entries_walk h]
  · rintro rfl
    exact isListing_walk h

theorem forM_lookAt_eq_ok : (walk t excluded p (.dir es)).folders.forM (lookAt t p) = .ok () ↔ IsOpen t excluded p es := by
  simp only [forM_eq_ok, mem_folders_walk h, lookAt_eq_ok, IsOpen]

theorem forM_lookAt_eq_error {f : Failure} : (walk t excluded p (.dir es)).folders.forM (lookAt t p) = .error f ↔
    ∃ names, IsFirstClosed t excluded p es names ∧ f = .noFile (p.below names).toText .nameTooLong := by
  rw [forM_eq_error (fun _ _ => Precedes.asymm) (pairwise_folders_walk h)]
  simp only [mem_folders_walk h, lookAt_eq_ok, lookAt_eq_error]
  constructor
  · rintro ⟨names, hnames, ⟨hclosed, rfl⟩, hfirst⟩
    exact ⟨names, ⟨hnames, hclosed, hfirst⟩, rfl⟩
  · rintro ⟨names, ⟨hnames, hclosed, hfirst⟩, rfl⟩
    exact ⟨names, hnames, ⟨hclosed, rfl⟩, hfirst⟩

end Walked

section Collected

theorem collectFolder_of_tooLong (h : t.find true (root.join (.ofText raw)) = .error .nameTooLong) :
    collectFolder t root raw excluded = .error (.noFile (root.join (.ofText raw)).toText .nameTooLong) := by
  rw [collectFolder, found?, h]
  rfl

theorem collectFolder_of_missing (h : t.find true (root.join (.ofText raw)) = .error problem)
    (hlong : problem ≠ .nameTooLong) : collectFolder t root raw excluded = .error (.repository (.folderMissing raw)) := by
  rw [collectFolder, found?_of_error true h hlong]
  rfl

theorem collectFolder_of_notFolder {x : Entry} (h : t.find true (root.join (.ofText raw)) = .ok x)
    (hx : x.isDirectory = false) : collectFolder t root raw excluded = .error (.repository (.notFolder raw)) := by
  rw [collectFolder, found?, h]
  cases x with
  | dir es => cases hx
  | _ => rfl

theorem collectFolder_of_dir (h : t.find true (root.join (.ofText raw)) = .ok (.dir es)) :
    collectFolder t root raw excluded =
      (walk t excluded (root.join (.ofText raw)) (.dir es)).folders.forM (lookAt t (root.join (.ofText raw))) >>= fun _ =>
        match (walk t excluded (root.join (.ofText raw)) (.dir es)).entries with
        | [] => .error (.repository (.folderEmpty raw))
        | entries => .ok (entries.map (root.join (.ofText raw)).below) := by
  rw [collectFolder, found?, h]
  rfl

theorem collectFolder_dir_eq_ok (ht : t.IsSound) (h : t.find true (root.join (.ofText raw)) = .ok (.dir es))
    {files : List Path} : collectFolder t root raw excluded = .ok files ↔ IsOpen t excluded (root.join (.ofText raw)) es ∧
      ∃ found, IsListing t excluded (root.join (.ofText raw)) es found ∧ found ≠ [] ∧
        files = found.map (root.join (.ofText raw)).below := by
  have hsound := isSound_of_find ht h
  rw [collectFolder_of_dir h, bind_eq_ok, ← forM_lookAt_eq_ok hsound]
  simp only [isListing_iff hsound, exists_eq_left]
  cases (walk t excluded (root.join (.ofText raw)) (.dir es)).entries <;> simp [Unique.exists_iff, eq_comm]

theorem collectFolder_dir_eq_error (ht : t.IsSound) (h : t.find true (root.join (.ofText raw)) = .ok (.dir es))
    {f : Failure} : collectFolder t root raw excluded = .error f ↔
      (∃ names, IsFirstClosed t excluded (root.join (.ofText raw)) es names ∧
        f = .noFile ((root.join (.ofText raw)).below names).toText .nameTooLong) ∨
      f = .repository (.folderEmpty raw) ∧ IsOpen t excluded (root.join (.ofText raw)) es ∧
        IsListing t excluded (root.join (.ofText raw)) es [] := by
  have hsound := isSound_of_find ht h
  rw [collectFolder_of_dir h, bind_eq_error, ← forM_lookAt_eq_error hsound, ← forM_lookAt_eq_ok hsound,
    isListing_iff hsound]
  cases (walk t excluded (root.join (.ofText raw)) (.dir es)).entries <;> simp [Unique.exists_iff, eq_comm, and_comm]

end Collected

/-- Collecting the files of a folder gives the paths of the listed entries, in order and each of them once, or tells why
there are none, or fails since a path is too long. -/
theorem collectFolder_spec (t : Sound) (hp : root.join (.ofText raw) = p) :
    (∀ files, collectFolder t root raw excluded = .ok files ↔ ∃ es found, find t true p = .ok (.dir es) ∧
      IsOpen t excluded p es ∧ IsListing t excluded p es found ∧ found ≠ [] ∧ files = found.map p.below) ∧
    (∀ files, collectFolder t root raw excluded = .ok files → files.Nodup) ∧
    (∀ e, collectFolder t root raw excluded = .error (.repository e) ↔
      e = .folderMissing raw ∧ (∃ problem, find t true p = .error problem ∧ problem ≠ .nameTooLong) ∨
      e = .notFolder raw ∧ (∃ x, find t true p = .ok x ∧ x.isDirectory = false) ∨
      e = .folderEmpty raw ∧ ∃ es, find t true p = .ok (.dir es) ∧ IsOpen t excluded p es ∧
        IsListing t excluded p es []) ∧
    ∀ f, (∀ e, f ≠ .repository e) → (collectFolder t root raw excluded = .error f ↔
      find t true p = .error .nameTooLong ∧ f = .noFile p.toText .nameTooLong ∨
      ∃ es names, find t true p = .ok (.dir es) ∧ IsFirstClosed t excluded p es names ∧
        f = .noFile (p.below names).toText .nameTooLong) := by
  obtain ⟨t, ht⟩ := t
  subst hp
  dsimp only
  cases h : find t true (root.join (.ofText raw)) with
  | error problem =>
    by_cases hlong : problem = .nameTooLong
    · subst hlong
      rw [collectFolder_of_tooLong h]
      exact ⟨by simp, by simp, by simp, fun f _ => by simpa using eq_comm⟩
    · rw [collectFolder_of_missing h hlong]
      have hother (f : Failure) (hf : ∀ e, f ≠ .repository e) : Failure.repository (.folderMissing raw) ≠ f := (hf _).symm
      exact ⟨by simp, by simp, fun e => by simpa [hlong] using eq_comm, fun f hf => by simp [hlong, hother f hf]⟩
  | ok x =>
    by_cases hdir : x.isDirectory = true
    · obtain ⟨es, rfl⟩ : ∃ es, x = .dir es := by
        cases x <;> cases hdir
        exact ⟨_, rfl⟩
      refine ⟨fun files => ?_, fun files hfiles => ?_, fun e => ?_, fun f hf => ?_⟩
      · simp [collectFolder_dir_eq_ok ht h]
      · obtain ⟨-, found, hfound, -, rfl⟩ := (collectFolder_dir_eq_ok ht h).mp hfiles
        exact List.Nodup.map (Path.below_injective _) (hfound.ordered.imp Precedes.ne)
      · simp [collectFolder_dir_eq_error ht h, Entry.isDirectory]
      · simp [collectFolder_dir_eq_error ht h, hf]
    · rw [collectFolder_of_notFolder h (Bool.eq_false_iff.mpr hdir)]
      have hx (es : List (Text × Entry)) : x ≠ .dir es := fun he => hdir (he ▸ rfl)
      have hother (f : Failure) (hf : ∀ e, f ≠ .repository e) : Failure.repository (.notFolder raw) ≠ f := (hf _).symm
      exact ⟨by simp [hx], by simp, fun e => by simpa [hx, hdir] using eq_comm, fun f hf => by simp [hx, hother f hf]⟩

def linkedEntries : List (Text × Entry) :=
  [("b".toList, .file []), ("a".toList, .link "d"), ("out".toList, .link "d"), ("gone".toList, .link "nowhere"),
    ("d".toList, .dir [("x".toList, .file []), ("c".toList, .dir [("z".toList, .file [])])]),
    ("dist".toList, .dir [("y".toList, .file [])])]

/-- A folder with files, a directory within a directory, an excluded one, and links to a directory, to one under an
excluded name and to nothing. -/
def linkedFolder : Sound where
  val := .dir [("r".toList, .dir linkedEntries)]
  property := by simp [linkedEntries]

def linkedExcluded : List Text := ["dist", "out", "gone"]

def linkedNames : List (List Text) := [["a"], ["b"], ["gone"], ["d", "x"], ["d", "c", "z"]]

theorem walk_linkedFolder : walk linkedFolder linkedExcluded (.ofText "/r") (.dir linkedEntries) =
    ⟨linkedNames, [["d"], ["d", "c"]]⟩ := by
  have hbelow : walk linkedFolder linkedExcluded (.ofText "/r/d")
      (.dir [("x".toList, .file []), ("c".toList, .dir [("z".toList, .file [])])]) = ⟨[["x"], ["c", "z"]], [["c"]]⟩ := by
    simp [walk, listing, arrange, sortTexts, Listed.own?, Listed.within?, linkedExcluded]
  have hlisting : listing linkedFolder linkedExcluded (.ofText "/r") linkedEntries =
      [("b".toList, .own), ("a".toList, .own), ("out".toList, .skipped), ("gone".toList, .own),
        ("d".toList, .within ⟨[["x"], ["c", "z"]], [["c"]]⟩), ("dist".toList, .skipped)] := by
    rw [← hbelow]
    rfl
  have hsorted : sortTexts ["b".toList, "a".toList, "gone".toList] = ["a".toList, "b".toList, "gone".toList] :=
    sortTexts_eq (by decide) (by decide)
  rw [walk, hlisting]
  change Findings.mk ((sortTexts ["b".toList, "a".toList, "gone".toList]).map _ ++ List.flatMap _ (List.mergeSort [_] _))
    (List.map _ (List.mergeSort [_] _) ++ List.flatMap _ (List.mergeSort [_] _)) = _
  rw [hsorted, List.mergeSort_singleton]
  rfl

theorem collectFolder_spec_linkedFolder :
    ∃ es, find linkedFolder true (.ofText "/r") = .ok (.dir es) ∧ IsOpen linkedFolder linkedExcluded (.ofText "/r") es ∧
      IsListing linkedFolder linkedExcluded (.ofText "/r") es linkedNames := by
  have hp : Path.root.join (.ofText "r") = .ofText "/r" := by decide
  have hfind : find linkedFolder true (Path.root.join (.ofText "r")) = .ok (.dir linkedEntries) := rfl
  have hcollected : collectFolder linkedFolder .root "r" linkedExcluded =
      .ok (linkedNames.map (Path.ofText "/r").below) := by
    rw [collectFolder_of_dir hfind, hp, walk_linkedFolder]
    rfl
  obtain ⟨es, found, hes, hopen, hfound, -, hmap⟩ := ((collectFolder_spec linkedFolder hp).1 _).mp hcollected
  rw [← List.map_injective_iff.mpr (Path.below_injective _) hmap] at hfound
  exact ⟨es, hes, hopen, hfound⟩

def longName : Text := List.replicate 300 'x'

theorem collectFolder_longName : (Entry.dir []).at? [longName] = none ∧
    collectFolder (.dir []) .root longName [] = .error (.noFile ('/' :: longName) .nameTooLong) := by
  have hfind : find (.dir []) true (Path.root.join (.ofText longName)) = .error .nameTooLong :=
    failure?_eq_some.mp (by decide +kernel)
  have htext : (Path.root.join (.ofText longName)).toText = '/' :: longName := by decide +kernel
  exact ⟨rfl, htext ▸ collectFolder_of_tooLong hfind⟩

end RuleReview.Change
