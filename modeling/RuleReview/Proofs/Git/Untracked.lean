import RuleReview.Git.Worktree
import RuleReview.Proofs.Diff.Added
import RuleReview.Proofs.Diff.Joining
import RuleReview.Proofs.Change.AddedFiles
import RuleReview.Proofs.Change.Build
import RuleReview.Proofs.FileTree.Relative
import RuleReview.Proofs.Git.Calls

/-! # Untracked files

With nothing staged a local review shows the edits and the untracked files. Git lists these with zero bytes between
them, and every file is shown as an added section behind the edits. A name is written into the header of its section as
it stands, so a file keeps its name when a header can name it without quotes.
-/
namespace RuleReview

namespace Diff
variable {s : Text} {d : Diff}

theorem isClosed_closeLine (s : Text) : IsClosed (Worktree.closeLine s) := by
  rw [Worktree.closeLine]
  split
  · next h =>
    rcases Bool.or_eq_true_iff.mp h with h | h
    · exact .inl (List.isEmpty_iff.mp h)
    · obtain ⟨r, rfl⟩ := List.isSuffixOf_iff_suffix.mp h
      exact .inr List.getLast?_concat
  · exact .inr List.getLast?_concat

theorem parse_closeLine (hd : Diff.parse s = .ok d) :
    ∃ e, Diff.parse (Worktree.closeLine s) = .ok e ∧ e.sections = d.sections := by
  rw [Worktree.closeLine]
  split
  · exact ⟨d, hd, rfl⟩
  · next hopen =>
    have hlast : s.getLast? ≠ some '\n' := by
      intro hlast
      obtain ⟨r, rfl⟩ := List.getLast?_eq_some_iff.mp hlast
      exact hopen (Bool.or_eq_true_iff.mpr (.inr (List.isSuffixOf_iff_suffix.mpr (List.suffix_append r ['\n']))))
    have hne : s ≠ [] := fun h => hopen (by rw [h]; rfl)
    have hlines : textLines (s ++ ['\n']) = (d.allLines, true) := by
      rw [textLines_concat_break, allLines_of_parse hd]
      rcases textLines_cases hne with ⟨ls, hls, -⟩ | ⟨-, hsame⟩
      · have hs := Text.joinLines_splitLines s
        rw [hls] at hs
        rcases List.eq_nil_or_concat' ls with rfl | hsome
        · exact absurd hs.symm hne
        · rw [Text.joinLines_append_nil (by obtain ⟨ks, k, rfl⟩ := hsome; simp)] at hs
          exact absurd (hs ▸ List.getLast?_concat) hlast
      · rw [hsame]
    refine ⟨{ d with endsWithNewline := true }, ?_, rfl⟩
    rw [Diff.parse, hlines]
    exact ofOutline_allLines (readable_of_parse hd) true

end Diff

/-! ## Names -/

namespace Worktree
variable {git : Git} {t : FileTree} {root : Path} {n : ℕ} {names edited : List Text} {name : Text} {d : Diff}

/-- A name that git lists: it leads down from the root to a link or to a file that can be read. -/
structure IsListed (t : FileTree) (root : Path) (name : Text) : Prop where
  relative : Path.IsRelative name
  noZero : '\x00' ∉ name
  recorded : ∃ e, Change.recorded t (root.join (.ofText name)) = .ok e ∧ Diff.IsCountable e.1

/-- The name comes through git's output as it is, and a header can name it without quotes. -/
structure Survives (name : Text) : Prop where
  nameable : Diff.IsNameable name
  noReturn : '\r' ∉ name

/-- What git prints for a list of names that zero bytes end. -/
def listing (names : List Text) : Text := names.flatMap (· ++ ['\x00'])

theorem splitOn_listing (hzero : ∀ name ∈ names, '\x00' ∉ name) :
    (listing names).splitOn '\x00' = names ++ [[]] := by
  induction names with
  | nil => rfl
  | cons name names ih =>
    obtain ⟨hname, hnames⟩ := List.forall_mem_cons.mp hzero
    have hlist : listing (name :: names) = name ++ '\x00' :: listing names := by
      rw [listing, List.flatMap_cons, List.append_assoc, List.singleton_append, listing]
    have hone : name.splitOn '\x00' = [name] := by
      have hjoin : (['\x00'].intercalate [name]).splitOn '\x00' = [name] :=
        List.splitOn_intercalate '\x00' (by simpa using hname) (List.cons_ne_nil _ _)
      simpa using hjoin
    rw [hlist, Text.splitOn_append_cons, ih hnames, hone, List.singleton_append, List.cons_append]

theorem return_notMem_listing (hreturn : ∀ name ∈ names, '\r' ∉ name) : '\r' ∉ listing names := by
  rw [listing, List.mem_flatMap]
  rintro ⟨name, hname, hmem⟩
  rcases List.mem_append.mp hmem with hmem | hmem
  · exact hreturn name hname hmem
  · cases List.mem_singleton.mp hmem

theorem names_of_listing (hlisted : ∀ name ∈ names, IsListed t root name) (hsurvives : ∀ name ∈ names, Survives name) :
    ((Session.decodeOutput (Text.encode (listing names))).splitOn '\x00').filter (!·.isEmpty) = names := by
  have hdecoded : Session.decodeOutput (Text.encode (listing names)) = listing names :=
    Session.decodeOutput_encode_of_notMem (return_notMem_listing fun name hname => (hsurvives name hname).noReturn)
  have hsome : names.filter (!·.isEmpty) = names :=
    List.filter_eq_self.mpr fun name hname => by simpa using (hlisted name hname).relative.ne_nil
  rw [hdecoded, splitOn_listing fun name hname => (hlisted name hname).noZero, List.filter_append, hsome]
  exact List.append_nil names

/-- The section adds what the file with the name holds. -/
def IsAdded (t : FileTree) (root : Path) (name : Text) (s : Section) : Prop :=
  ∃ content mode, Change.recorded t (root.join (.ofText name)) = .ok (content, mode) ∧ s.Adds name content

/-- Files with names that survive are read back as one section for each of them. -/
theorem ofFiles_untracked (hne : names ≠ []) (hdistinct : names.Nodup) (hlisted : ∀ name ∈ names, IsListed t root name)
    (hsurvives : ∀ name ∈ names, Survives name) :
    ∃ text e, Change.ofFiles t root (names.map fun n => root.join (.ofText n)) = .ok (text, names) ∧
      Diff.parse text = .ok e ∧ e.preamble = [] ∧ text ≠ [] ∧ List.Forall₂ (IsAdded t root) names e.sections := by
  let place (name : Text) : Path := root.join (.ofText name)
  let shown (p : Path) : Text := (Change.shownPath t root p).toOption.getD []
  let entry (p : Path) : Option Text × Text := (Change.recorded t p).toOption.getD (none, [])
  have hshow : ∀ name ∈ names, Change.shownPath t root (place name) = .ok (shown (place name)) ∧
      shown (place name) = name := by
    intro name hname
    simp only [place, shown, Change.shownPath_of_isRelative (hlisted name hname).relative t root]
    exact ⟨rfl, rfl⟩
  have hentry : ∀ name ∈ names, Change.recorded t (place name) = .ok (entry (place name)) ∧
      Diff.IsCountable (entry (place name)).1 := by
    intro name hname
    obtain ⟨e, he, hcount⟩ := (hlisted name hname).recorded
    simp only [place, entry, he]
    exact ⟨rfl, hcount⟩
  have hpath : ∀ name ∈ names, Diff.IsNameable (shown (place name)) := fun name hname =>
    (hshow name hname).2.symm ▸ (hsurvives name hname).nameable
  have hnull : ∀ name ∈ names, shown (place name) ≠ "/dev/null".toList := by
    intro name hname he
    have hhead := (hlisted name hname).relative.head?_ne
    rw [(hshow name hname).2] at he
    exact hhead (he ▸ rfl)
  have hlabels : ((names.map place).map shown).eraseDups = names := by
    have hnames : names.map (shown ∘ place) = names :=
      (List.map_congr_left fun name hname => (hshow name hname).2).trans (List.map_id names)
    rw [List.map_map, hnames, eraseDups_of_nodup hdistinct]
  obtain ⟨text, e, hfiles, hparse, hpreamble, hsections⟩ := Change.exists_parse_ofFiles
    (List.forall_mem_map.mpr fun name hname => (hshow name hname).1)
    (List.forall_mem_map.mpr fun name hname => (hentry name hname).1) (List.forall_mem_map.mpr hpath)
    (List.forall_mem_map.mpr hnull) (List.forall_mem_map.mpr fun name hname => (hentry name hname).2)
  rw [hlabels] at hfiles hsections
  refine ⟨text, e, hfiles, hparse, hpreamble, ?_, hsections.imp ?_⟩
  · rintro rfl
    cases hparse
    exact hne (List.forall₂_nil_right_iff.mp hsections)
  · rintro name s ⟨p, hp, hadds⟩
    obtain ⟨name', hname', rfl⟩ := List.mem_map.mp (List.mem_of_find?_eq_some hp)
    have hlabel : shown (place name') = name := by simpa using List.find?_some hp
    obtain rfl : name' = name := (hshow name' hname').2.symm.trans hlabel
    exact ⟨_, _, (hentry name' hname').1, hadds⟩

/-! ## The review -/

def listStaged : Command := diffCommand ++ ["--cached".toList, "--name-only".toList]

def listEdited : Command := diffCommand ++ ["--name-only".toList]

def listUntracked : Command := ["ls-files", "--others", "--exclude-standard", "-z"]

def showEdits (n : ℕ) : Command := diffCommand ++ [Text.concat ["-U", Text.ofNat n]]

/-- After the calls `h` git lists the names, one in a line. -/
def Lists (git : Git) (h : List Command) (c : Command) (names : List Text) : Prop :=
  ∃ out err, git h c = .exited 0 out err ∧
    (Session.decodeOutput out).boundedLines.filter (fun l => !l.isBlankText) = names

/-- Nothing is staged, the edits are read as `d`, and git lists the untracked names. The patch of the edits is asked for
only if there are any. -/
structure Unstaged (git : Git) (n : ℕ) (edited names : List Text) (d : Diff) : Prop where
  staged : Lists git [] listStaged []
  unstaged : Lists git [listStaged] listEdited edited
  untracked : ∃ err, git [listStaged, listEdited] listUntracked = .exited 0 (Text.encode (listing names)) err
  unedited : edited = [] → d = ⟨[], [], false⟩
  patch : edited ≠ [] → ∃ out err, git [listStaged, listEdited, listUntracked] (showEdits n) = .exited 0 out err ∧
    Diff.parse (Session.decodeOutput out) = .ok d

/-- The change shows the edits and behind them every untracked file. Its paths are those of the edits, and then every
untracked name that is not among them, in the order that git lists them in. -/
structure Gathers (t : FileTree) (root : Path) (d : Diff) (names : List Text) (change : Change) : Prop where
  files : change.files = d.changedFiles ++ names.filter (!d.changedFiles.contains ·)
  sections : ∃ e added, change.parsed = .ok e ∧ e.sections = d.sections ++ added ∧
    List.Forall₂ (IsAdded t root) names added

theorem changedFiles_append {e : Diff} {added : List Section} (hadded : List.Forall₂ (IsAdded t root) names added)
    (hdistinct : names.Nodup) (he : e.sections = d.sections ++ added) :
    e.changedFiles = d.changedFiles ++ names.filter (!d.changedFiles.contains ·) := by
  have hnames : added.filterMap Section.path = names := by
    clear he
    induction hadded with
    | nil => rfl
    | cons hs _ ih =>
      obtain ⟨_, _, -, hadds⟩ := hs
      rw [List.filterMap_cons_some hadds.path, ih (List.nodup_cons.mp hdistinct).2]
  have hcontains : ∀ name, d.changedFiles.contains name = (d.sections.filterMap Section.path).contains name := by
    intro name
    rw [Bool.eq_iff_iff, List.contains_iff_mem, List.contains_iff_mem, Diff.changedFiles, List.mem_eraseDups]
  simp only [hcontains]
  rw [Diff.changedFiles, he, List.filterMap_append, hnames, eraseDups_append_of_nodup _ hdistinct, Diff.changedFiles]

theorem ends_lines {h : List Command} {c : Command} {ok : List Text → List Command → Prop}
    {fail : Failure → List Command → Prop} (hlists : Lists git h c names) (hok : ok names (h ++ [c])) :
    (Session.lines c).Ends git h ok fail := by
  obtain ⟨out, err, hout, rfl⟩ := hlists
  exact Session.Ends.bind (Session.Ends.output_of_eq hout (Session.Ends.pure hok))

/-- Behind the edits, the last line of which is ended first, the sections of untracked files can be read. -/
theorem exists_build_untracked {edits text : Text} {e : Diff} (hedits : Diff.parse edits = .ok d)
    (hparse : Diff.parse text = .ok e) (hpreamble : e.preamble = []) (hnonempty : text ≠ []) (hne : names ≠ [])
    (hdistinct : names.Nodup) (hadded : List.Forall₂ (IsAdded t root) names e.sections) (shown : List Text) :
    ∃ change, Change.build (closeLine edits ++ text) shown .unstaged "index".toList "worktree".toList [] = .ok change ∧
      Gathers t root d names change := by
  obtain ⟨d', hd', hsections⟩ := Diff.parse_closeLine hedits
  have hjoined := Diff.parse_append_of_parse (Diff.isClosed_closeLine edits) (Diff.isHeaded_of_parse hparse hpreamble)
    hnonempty hd' hparse
  have hall : (d'.followedBy e).sections = d.sections ++ e.sections := by rw [Diff.followedBy, hsections]
  obtain ⟨name, rest, rfl⟩ := List.exists_cons_of_ne_nil hne
  obtain ⟨s, _, -, -, hs⟩ := List.forall₂_cons_left_iff.mp hadded
  have hblank := Diff.not_isBlankText_of_section (s := s) hjoined (by rw [hall, hs]; simp)
  obtain ⟨change, hchange, hparsed, -, hfiles⟩ :=
    Change.exists_build hblank hjoined shown [] .unstaged "index".toList "worktree".toList
  exact ⟨change, hchange, hfiles.trans (changedFiles_append hadded hdistinct hall), _, _, hparsed, hall, hadded⟩

/-- With nothing staged a review gathers the edits and all untracked files, when no name has a line feed, a tab or a
carriage return in it and none is that of the null file without its slash. -/
theorem collect_untracked (hunstaged : Unstaged git n edited names d) (hne : names ≠ []) (hdistinct : names.Nodup)
    (hlisted : ∀ name ∈ names, IsListed t root name) (hsurvives : ∀ name ∈ names, Survives name) :
    ∃ change, ((collect t root n).start git).1 = .ok change ∧ Gathers t root d names change := by
  obtain ⟨text, e, hfiles, hparse, hpreamble, hnonempty, hadded⟩ := ofFiles_untracked hne hdistinct hlisted hsurvives
  have hbuild {edits : Text} (hedits : Diff.parse edits = .ok d) :=
    exists_build_untracked hedits hparse hpreamble hnonempty hne hdistinct hadded (edited ++ names)
  obtain ⟨err, huntracked⟩ := hunstaged.untracked
  have hsome : names.isEmpty = false := List.isEmpty_eq_false_iff.mpr hne
  let Q (r : Except Failure Change) : Prop := ∃ change, r = .ok change ∧ Gathers t root d names change
  refine Session.Ends.start (Q := fun r _ => Q r) ?_
  refine Session.Ends.bind (ends_lines hunstaged.staged ?_)
  rw [if_neg (by decide)]
  refine Session.Ends.bind (ends_lines hunstaged.unstaged ?_)
  refine Session.Ends.bind (Session.Ends.bind (Session.Ends.output_of_eq huntracked (Session.Ends.pure ?_)))
  rw [names_of_listing hlisted hsurvives, hsome, Bool.and_false, if_neg Bool.false_ne_true]
  refine Session.Ends.bind (Session.Ends.log ?_)
  have hrest {edits : Text} (hedits : Diff.parse edits = .ok d) (h : List Command) :
      (Session.ofExcept (Change.ofFiles t root (names.map fun n => root.join (.ofText n))) >>= fun r =>
        Session.ofExcept (Change.build (closeLine edits ++ r.1) (edited ++ r.2) .unstaged "index".toList
          "worktree".toList [])).Ends git h (fun change _ => Q (.ok change)) (fun e _ => Q (.error e)) := by
    obtain ⟨change, hchange, hgathers⟩ := hbuild hedits
    rw [hfiles]
    refine Session.Ends.bind (Session.Ends.pure ?_)
    rw [hchange]
    exact Session.Ends.pure ⟨change, rfl, hgathers⟩
  dsimp only
  split
  · next hedited =>
    have hd := hunstaged.unedited (List.isEmpty_iff.mp hedited)
    exact Session.Ends.bind (Session.Ends.pure (hrest (hd ▸ rfl) _))
  · next hedited =>
    obtain ⟨out, err, hout, hedits⟩ := hunstaged.patch fun hnil => hedited (List.isEmpty_iff.mpr hnil)
    exact Session.Ends.bind (Session.Ends.output_of_eq hout (hrest hedits _))

/-- Nothing is staged; git prints the patch of the edited files, and lists the names. -/
def editingGit (patch : Text) (edited names : List Text) : Git := fun _ c =>
  .exited 0 (Text.encode (if c = listEdited then Text.joinLines edited else if c = listUntracked then listing names
    else if c = showEdits 3 then patch else [])) []

def folderOf (name : Text) : FileTree := .dir [(name, .file (Text.encode "a\n"))]

theorem isListed_folderOf (hrelative : Path.IsRelative name) (hzero : '\x00' ∉ name)
    (hrecorded : Change.recorded (folderOf name) (Path.root.join (.ofText name)) =
      .ok (some "a\n".toList, Diff.regularMode)) :
    IsListed (folderOf name) .root name := by
  refine ⟨hrelative, hzero, _, hrecorded, Diff.isCountable_of_length_lt ?_⟩
  rintro s hs
  cases hs
  decide +kernel

/-- The last line of an edit, which git does not end, does not run into the section of an untracked file. -/
theorem collect_untracked_unended :
    ∃ change, ((collect (folderOf "u \"v") .root 3).start
        (editingGit "diff --git a/e b/e\n@@ -1 +1 @@\n-a\n+b" ["e"] ["u \"v"])).1 = .ok change ∧
      change.files = ["e".toList, "u \"v".toList] := by
  let patch : Text := "diff --git a/e b/e\n@@ -1 +1 @@\n-a\n+b"
  have hread : (Diff.parse patch).toOption.map Diff.changedFiles = some ["e".toList] := by decide +kernel
  obtain ⟨d, hd, hfiles⟩ := exists_ok_of_toOption hread
  have hunstaged : Unstaged (editingGit patch ["e"] ["u \"v"]) 3 ["e"] ["u \"v"] d := by
    refine ⟨⟨_, _, rfl, ?_⟩, ⟨_, _, rfl, ?_⟩, ⟨_, rfl⟩, nofun, fun _ => ⟨_, _, rfl, ?_⟩⟩
    · decide +kernel
    · decide +kernel
    · exact (congrArg Diff.parse (Session.decodeOutput_encode_of_notMem (by decide))).trans hd
  have hlisted : IsListed (folderOf "u \"v") .root "u \"v" := isListed_folderOf (by decide) (by decide) rfl
  have hsurvives : Survives "u \"v" := ⟨by decide, by decide⟩
  obtain ⟨change, hchange, hgathers⟩ := collect_untracked hunstaged (List.cons_ne_nil _ _) (List.nodup_singleton _)
    (List.forall_mem_singleton.mpr hlisted) (List.forall_mem_singleton.mpr hsurvives)
  refine ⟨change, hchange, ?_⟩
  rw [hgathers.files, hfiles]
  decide

/-- A tab in a name ends it. -/
theorem collect_untracked_tab :
    Unstaged (editingGit [] [] ["x\ty"]) 3 [] ["x\ty"] ⟨[], [], false⟩ ∧ IsListed (folderOf "x\ty") .root "x\ty" ∧
      ∃ change, ((collect (folderOf "x\ty") .root 3).start (editingGit [] [] ["x\ty"])).1 = .ok change ∧
        change.files = ["x".toList] ∧ ¬Gathers (folderOf "x\ty") .root ⟨[], [], false⟩ ["x\ty"] change := by
  have hunstaged : Unstaged (editingGit [] [] ["x\ty"]) 3 [] ["x\ty"] ⟨[], [], false⟩ := by
    refine ⟨⟨_, _, rfl, ?_⟩, ⟨_, _, rfl, ?_⟩, ⟨_, rfl⟩, fun _ => rfl, nofun⟩
    · decide +kernel
    · decide +kernel
  have hlisted : IsListed (folderOf "x\ty") .root "x\ty" := isListed_folderOf (by decide) (by decide) rfl
  have hrun : ((collect (folderOf "x\ty") .root 3).start (editingGit [] [] ["x\ty"])).1.toOption.map Change.files =
      some ["x".toList] := by decide +kernel
  obtain ⟨change, hchange, hfiles⟩ := exists_ok_of_toOption hrun
  refine ⟨hunstaged, hlisted, change, hchange, hfiles, fun hgathers => ?_⟩
  have hwrong := hfiles.symm.trans hgathers.files
  exact absurd hwrong (by decide)

end Worktree

end RuleReview
