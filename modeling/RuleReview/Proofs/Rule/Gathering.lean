import RuleReview.Proofs.Distinct
import RuleReview.Proofs.Rule.Reading
import RuleReview.Yaml.Header

/-! # Gathering the rules of files

Files are read one after another. One that is no rule and one whose name is taken are passed over, and one that stops
the program ends it; of the others the rules are kept, the first one for each name.
-/
namespace RuleReview.Rule
variable {lang : HeaderLanguage} {t : FileTree} {root file : Path} {files : List Path} {rules : List RuleFile}
  {logs : List LogLine} {r : RuleFile} {e : Failure}

theorem gather_nil (lang : HeaderLanguage) (t : FileTree) (root : Path) (rules : List RuleFile) (logs : List LogLine) :
    gather lang t root [] rules logs = (.ok rules, logs) := rfl

/-- All that one file can do: be no rule, end the gathering, give a rule whose name is taken, or give one that is new. -/
theorem gather_cases (lang : HeaderLanguage) (t : FileTree) (root file : Path) (files : List Path)
    (rules : List RuleFile) (logs : List LogLine) :
    (∃ path p logs', ofFile lang t root file = .error (.rule path p) ∧
        gather lang t root (file :: files) rules logs = gather lang t root files rules logs') ∨
      (∃ e, ofFile lang t root file = .error e ∧ (∀ path p, e ≠ .rule path p) ∧
        gather lang t root (file :: files) rules logs = (.error e, logs)) ∨
      (∃ r logs', ofFile lang t root file = .ok r ∧ r.id ∈ rules.map (·.id) ∧
        gather lang t root (file :: files) rules logs = gather lang t root files rules logs') ∨
      ∃ r, ofFile lang t root file = .ok r ∧ r.id ∉ rules.map (·.id) ∧
        gather lang t root (file :: files) rules logs = gather lang t root files (rules ++ [r]) logs := by
  rw [gather]
  cases hread : ofFile lang t root file with
  | error e =>
    by_cases hrule : ∃ path p, e = .rule path p
    · obtain ⟨path, p, rfl⟩ := hrule
      exact .inl ⟨path, p, _, rfl, rfl⟩
    · refine .inr (.inl ⟨e, rfl, fun path p he => hrule ⟨path, p, he⟩, ?_⟩)
      split
      · next heq => exact absurd ⟨_, _, Except.error.inj heq⟩ hrule
      · next heq => rw [Except.error.inj heq]
      · next heq => cases heq
  | ok r =>
    by_cases hid : r.id ∈ rules.map (·.id)
    · obtain ⟨q, hq, hqid⟩ := List.mem_map.mp hid
      obtain ⟨first, hfirst⟩ : ∃ first, rules.find? (·.id = r.id) = some first :=
        Option.isSome_iff_exists.mp (List.find?_isSome.mpr ⟨q, hq, by simpa using hqid⟩)
      simp only [hfirst]
      exact .inr (.inr (.inl ⟨r, _, rfl, hid, rfl⟩))
    · have hnone : rules.find? (·.id = r.id) = none :=
        List.find?_eq_none.mpr fun q hq => by simpa using fun hqid => hid (List.mem_map.mpr ⟨q, hq, hqid⟩)
      simp only [hnone]
      exact .inr (.inr (.inr ⟨r, rfl, hid, rfl⟩))

theorem Stops.gather_eq (h : Stops lang t root file e) (files : List Path) (rules : List RuleFile)
    (logs : List LogLine) : gather lang t root (file :: files) rules logs = (.error e, logs) := by
  have hfile := h.ofFile_eq
  rcases gather_cases lang t root file files rules logs with
    ⟨path, p, -, hread, -⟩ | ⟨e', hread, -, hstep⟩ | ⟨r, -, hread, -⟩ | ⟨r, hread, -⟩
  · exact absurd (Except.error.inj (hfile.symm.trans hread)) (h.ne_rule path p)
  · rw [hstep, Except.error.inj (hfile.symm.trans hread)]
  · cases hfile.symm.trans hread
  · cases hfile.symm.trans hread

theorem gather_cons (hlang : lang.IsSafe) (h : ∀ e, ¬Stops lang t root file e) (files : List Path)
    (rules : List RuleFile) (logs : List LogLine) :
    ∃ rules' logs', gather lang t root (file :: files) rules logs = gather lang t root files rules' logs' := by
  rcases gather_cases lang t root file files rules logs with
    ⟨-, -, logs', -, hstep⟩ | ⟨e, hread, hkind, -⟩ | ⟨r, logs', -, -, hstep⟩ | ⟨r, -, -, hstep⟩
  · exact ⟨rules, logs', hstep⟩
  · obtain ⟨p, rfl⟩ := (ofFile_error_cases hlang hread).resolve_right (h e)
    exact absurd rfl (hkind _ p)
  · exact ⟨rules, logs', hstep⟩
  · exact ⟨rules ++ [r], logs, hstep⟩

/-- Gathering ends with a failure when a file stops it, and with that of the first such file. -/
theorem gather_eq_error (hlang : lang.IsSafe) : (gather lang t root files rules logs).1 = .error e ↔
    ∃ before file after, files = before ++ file :: after ∧ (∀ g ∈ before, ∀ e', ¬Stops lang t root g e') ∧
      Stops lang t root file e := by
  induction files generalizing rules logs with
  | nil => simp [gather_nil]
  | cons f files ih =>
    by_cases hf : ∃ e', Stops lang t root f e'
    · obtain ⟨e', hf⟩ := hf
      rw [hf.gather_eq]
      constructor
      · rintro ⟨⟩
        exact ⟨[], f, files, rfl, by simp, hf⟩
      · rintro ⟨before, g, after, hfiles, hbefore, hg⟩
        cases before with
        | nil =>
          cases hfiles
          rw [Except.error.inj (hf.ofFile_eq.symm.trans hg.ofFile_eq)]
        | cons _ before =>
          cases hfiles
          exact absurd hf (hbefore f List.mem_cons_self e')
    · rw [not_exists] at hf
      obtain ⟨rules', logs', hstep⟩ := gather_cons hlang hf files rules logs
      rw [hstep, ih]
      constructor
      · rintro ⟨before, g, after, rfl, hbefore, hg⟩
        exact ⟨f :: before, g, after, rfl, List.forall_mem_cons.mpr ⟨hf, hbefore⟩, hg⟩
      · rintro ⟨before, g, after, hfiles, hbefore, hg⟩
        cases before with
        | nil =>
          cases hfiles
          exact absurd hg (hf e)
        | cons _ before =>
          cases hfiles
          exact ⟨before, g, after, rfl, (List.forall_mem_cons.mp hbefore).2, hg⟩

def readings (lang : HeaderLanguage) (t : FileTree) (root : Path) (files : List Path) : List RuleFile :=
  files.filterMap fun f => (ofFile lang t root f).toOption

theorem gather_eq (h : ∀ f ∈ files, ∀ e, ofFile lang t root f = .error e → ∃ path p, e = .rule path p)
    (rules : List RuleFile) (logs : List LogLine) : (gather lang t root files rules logs).1 =
      .ok (rules ++ firsts (·.id) (rules.map (·.id)) (readings lang t root files)) := by
  induction files generalizing rules logs with
  | nil => exact congrArg Except.ok (List.append_nil rules).symm
  | cons f files ih =>
    obtain ⟨hf, h⟩ := List.forall_mem_cons.mp h
    rw [readings, List.filterMap_cons]
    rcases gather_cases lang t root f files rules logs with
      ⟨path, p, logs', hread, hstep⟩ | ⟨e, hread, hkind, -⟩ | ⟨r, logs', hread, hid, hstep⟩ | ⟨r, hread, hid, hstep⟩
    · rw [hstep, ih h, hread]
      rfl
    · obtain ⟨path, p, rfl⟩ := hf e hread
      exact absurd rfl (hkind path p)
    · rw [hstep, ih h, toOption_eq_some.mpr hread, firsts_cons, if_pos (List.contains_iff_mem.mpr hid)]
      rfl
    · have hseen : ∀ b, b ∈ (rules ++ [r]).map (·.id) ↔ b ∈ r.id :: rules.map (·.id) := by simp [or_comm]
      rw [hstep, ih h, toOption_eq_some.mpr hread, firsts_cons, if_neg (by simpa using hid), firsts_congr hseen,
        List.append_assoc, List.singleton_append]
      rfl

/-- A file is read as a sound rule whose context files are there, or it is told of its path why it is none, exactly when
nothing about it stops the program; and gathering fails exactly as the first file that stops it does. -/
theorem reads_iff_not_stops (hlang : lang.IsSafe) (t : FileTree) (root file : Path) :
    ((∃ r, ofFile lang t root file = .ok r ∧ r.IsSound ∧ r.path = pathFrom root file ∧
          ∀ n ∈ r.contextFiles, ∃ p, Names root n p ∧ t.hasFile p = .ok true) ∨
        (∃ p, ofFile lang t root file = .error (.rule (pathFrom root file) p)) ↔ ∀ e, ¬Stops lang t root file e) ∧
      (∀ e, Stops lang t root file e → ofFile lang t root file = .error e) ∧
      ∀ files rules logs e, (gather lang t root files rules logs).1 = .error e ↔ ∃ before f after,
        files = before ++ f :: after ∧ (∀ g ∈ before, ∀ e', ¬Stops lang t root g e') ∧ Stops lang t root f e := by
  refine ⟨⟨?_, fun h => ?_⟩, fun _ => Stops.ofFile_eq, fun _ _ _ _ => gather_eq_error hlang⟩
  · rintro (⟨r, hr, -⟩ | ⟨p, hp⟩) e he
    · cases hr.symm.trans he.ofFile_eq
    · exact he.ne_rule _ p (Except.error.inj (he.ofFile_eq.symm.trans hp))
  · cases hread : ofFile lang t root file with
    | error e =>
      obtain ⟨p, rfl⟩ := (ofFile_error_cases hlang hread).resolve_right (h e)
      exact .inr ⟨p, rfl⟩
    | ok r =>
      obtain ⟨s, -, hr, hcontext⟩ := ofFile_eq_ok.mp hread
      obtain ⟨hsound, hpath⟩ := isSound_of_parse hr
      exact .inl ⟨r, rfl, hsound, hpath, hcontext⟩

def folderOf (files : List (Text × Text)) : FileTree :=
  .dir [(folderName, .dir (files.map fun f => (f.1, .file (Text.encode f.2))))]

def fileNamed (root : Path) (name : Text) : Path := (root.child folderName).child name

def plainText (id more : Text) : Text :=
  .concat ["---\nid: ", id, "\nversion: 1.0.0\npatterns: [x]\n", more, "---\nRule.\n"]

def plainRule (id path : Text) (contextFiles : List Text) : RuleFile :=
  ⟨.ofText id, .ofText "1.0.0", [.ofText "x"], "Rule.", path, contextFiles.map .ofText⟩

/-- A language that calls malformed whatever another one does not read. -/
def safely (lang : HeaderLanguage) : HeaderLanguage := fun s => (lang s).mapError fun _ => .malformed

theorem isSafe_safely (lang : HeaderLanguage) : (safely lang).IsSafe := by
  intro s e h
  obtain ⟨-, -, rfl⟩ := mapError_eq_error.mp h
  rfl

/-- Two rules, of which the second one has a header with a number among its keys. -/
def numberedFolder : FileTree := folderOf [("a.md", plainText "a" ""), ("b.md", plainText "b" "1: x\n")]

theorem ofFile_numberedFolder :
    (ofFile (safely Yaml.header) numberedFolder .root (fileNamed .root "a.md")).toOption =
      some (plainRule "a" "threadlines/a.md" []) := by
  decide +kernel

theorem reads_numberedFolder : (safely Yaml.header).IsSafe ∧
    ∃ r, ofFile (safely Yaml.header) numberedFolder .root (fileNamed .root "a.md") = .ok r ∧ r.IsSound ∧
      r.path = "threadlines/a.md".toList := by
  have hread := toOption_eq_some.mp ofFile_numberedFolder
  have hsafe := isSafe_safely Yaml.header
  obtain ⟨hiff, hstops, -⟩ := reads_iff_not_stops hsafe numberedFolder .root (fileNamed .root "a.md")
  have hgood : ∀ e, ¬Stops (safely Yaml.header) numberedFolder .root (fileNamed .root "a.md") e := by
    intro e he
    cases hread.symm.trans (hstops e he)
  rcases hiff.mpr hgood with ⟨r, hr, hsound, hpath, -⟩ | ⟨p, hp⟩
  · exact ⟨hsafe, r, hr, hsound, hpath.trans (by decide)⟩
  · cases hread.symm.trans hp

def isWrongType : Failure → Bool
  | .wrongType => true
  | _ => false

theorem eq_wrongType {α : Type} {x : Except Failure α} (h : (failure? x).any isWrongType = true) :
    x = .error .wrongType := by
  obtain ⟨e, he, hkind⟩ := Option.any_eq_true _ _ |>.mp h
  rw [failure?_eq_some.mp he]
  cases e <;> first | rfl | cases hkind

/-- Such a key is neither read over nor is the file called no rule, and the rule beside it is not read either. -/
theorem not_reads_numberedFolder : (safely Yaml.header).IsSafe ∧
    ¬((∃ r, ofFile (safely Yaml.header) numberedFolder .root (fileNamed .root "b.md") = .ok r) ∨
        ∃ path p, ofFile (safely Yaml.header) numberedFolder .root (fileNamed .root "b.md") =
          .error (.rule path p)) ∧
      (gather (safely Yaml.header) numberedFolder .root [fileNamed .root "a.md"] [] []).1.toOption =
        some [plainRule "a" "threadlines/a.md" []] ∧
      (gather (safely Yaml.header) numberedFolder .root [fileNamed .root "a.md", fileNamed .root "b.md"] [] []).1 =
        .error .wrongType := by
  have hkey : ofFile (safely Yaml.header) numberedFolder .root (fileNamed .root "b.md") = .error .wrongType :=
    eq_wrongType (by decide +kernel)
  refine ⟨isSafe_safely Yaml.header, ?_, by decide +kernel, eq_wrongType (by decide +kernel)⟩
  rw [hkey]
  rintro (⟨r, hr⟩ | ⟨path, p, hp⟩)
  · cases hr
  · cases hp

end RuleReview.Rule
