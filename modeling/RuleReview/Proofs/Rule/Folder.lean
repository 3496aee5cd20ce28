import RuleReview.Proofs.FileTree.Removal
import RuleReview.Proofs.Rule.Gathering

/-! # The rules of a folder

Where nothing in the folder stops the program, its rules are those of the files that are rules, in the order of the
names of the files, of several files with the same name of a rule the first one. A file that gives no rule can be
removed as long as no rule needs it: by being read through it, or by having it for context.
-/
namespace RuleReview.Rule
variable {lang : HeaderLanguage} {t : FileTree} {root : Path} {n m : Text} {r r' : RuleFile}
  {rules : List RuleFile}

/-- The names in the folder of rules under which there are files that may hold rules. -/
def fileNames (t : FileTree) (root : Path) : List Text :=
  (t.childNames (root.child folderName)).filter fun n =>
    n.endsWith ".md" && (t.hasFile (fileNamed root n)).toOption == some true

/-- Nothing in the folder of rules stops the program: whether the folder is there and what is a file in it can be told,
and of each file the rule that it is or why it is none. -/
structure IsLoadable (lang : HeaderLanguage) (t : FileTree) (root : Path) : Prop where
  folder : ∃ b, t.hasDirectory (root.child folderName) = .ok b
  entries : ∀ n ∈ t.childNames (root.child folderName), Text.endsWith n ".md" = true →
    ∃ b, t.hasFile (fileNamed root n) = .ok b
  files : ∀ n ∈ fileNames t root, ∀ e, ofFile lang t root (fileNamed root n) = .error e → ∃ path p, e = .rule path p

theorem mem_fileNames : n ∈ fileNames t root ↔
    n ∈ t.childNames (root.child folderName) ∧ Text.endsWith n ".md" = true ∧
      t.hasFile (fileNamed root n) = .ok true := by
  rw [fileNames, List.mem_filter, Bool.and_eq_true, beq_iff_eq, toOption_eq_some]

theorem exists_folder_of_mem_fileNames (h : n ∈ fileNames t root) :
    ∃ es, t.find true (root.child folderName) = .ok (.dir es) :=
  Entry.exists_find_of_mem_childNames (mem_fileNames.mp h).1

theorem pairwise_fileNames (t : FileTree) (root : Path) : (fileNames t root).Pairwise fun a b => Text.le a b = true :=
  (t.pairwise_childNames _).filter _

theorem pathFrom_fileNamed (root : Path) (n : Text) :
    pathFrom root (fileNamed root n) = folderName ++ '/' :: n := by
  have hfrom : root.from? (fileNamed root n) = some [folderName, n] := by
    rw [Path.from?, if_pos (show root.origin = (fileNamed root n).origin from rfl)]
    exact List.isPrefixOf?_eq_some_iff_append_eq.mpr (List.append_assoc root.names [folderName] [n]).symm
  rw [pathFrom, hfrom]
  change Path.namesText [folderName, n] = _
  simp [Path.namesText, Text.joinWith, List.intercalate_cons_cons]

theorem fileNamed_of_pathFrom (h : pathFrom root (fileNamed root m) = pathFrom root (fileNamed root n)) : m = n := by
  rw [pathFrom_fileNamed, pathFrom_fileNamed] at h
  exact List.cons_injective (List.append_cancel_left h)

theorem path_of_ofFile {file : Path} (h : ofFile lang t root file = .ok r) : r.path = pathFrom root file := by
  obtain ⟨s, -, hr, -⟩ := ofFile_eq_ok.mp h
  exact (isSound_of_parse hr).2

/-! ### The files that are rules -/

/-- The names of files that are rules, with the rules. -/
def namedRules (lang : HeaderLanguage) (t : FileTree) (root : Path) : List (Text × RuleFile) :=
  (fileNames t root).filterMap fun n => (ofFile lang t root (fileNamed root n)).toOption.map (n, ·)

theorem mem_namedRules : (n, r) ∈ namedRules lang t root ↔
    n ∈ fileNames t root ∧ ofFile lang t root (fileNamed root n) = .ok r := by
  rw [namedRules, List.mem_filterMap]
  constructor
  · rintro ⟨m, hm, hread⟩
    obtain ⟨q, hq, he⟩ := exists_ok_of_toOption hread
    cases he
    exact ⟨hm, hq⟩
  · rintro ⟨hn, hread⟩
    exact ⟨n, hn, by rw [hread]; rfl⟩

theorem pairwise_namedRules (lang : HeaderLanguage) (t : FileTree) (root : Path) :
    (namedRules lang t root).Pairwise fun a b => Text.le a.1 b.1 = true := by
  refine List.pairwise_filterMap.mpr ((pairwise_fileNames t root).imp ?_)
  intro a b hab x hx y hy
  obtain ⟨r, -, rfl⟩ := Option.map_eq_some_iff.mp hx
  obtain ⟨r', -, rfl⟩ := Option.map_eq_some_iff.mp hy
  exact hab

theorem readings_fileNames (lang : HeaderLanguage) (t : FileTree) (root : Path) :
    readings lang t root ((fileNames t root).map (fileNamed root)) = (namedRules lang t root).map Prod.snd := by
  rw [readings, namedRules, List.filterMap_map, List.map_filterMap]
  refine List.filterMap_congr fun n _ => ?_
  rw [Function.comp_apply]
  cases ofFile lang t root (fileNamed root n) <;> rfl

/-- Of the files that are rules those that come first with the names of their rules. -/
def kept (lang : HeaderLanguage) (t : FileTree) (root : Path) : List (Text × RuleFile) :=
  firsts (fun x => x.2.id) [] (namedRules lang t root)

theorem kept_sublist (lang : HeaderLanguage) (t : FileTree) (root : Path) :
    (kept lang t root).Sublist (namedRules lang t root) := firsts_sublist [] _

theorem mem_namedRules_of_mem_kept (h : (n, r) ∈ kept lang t root) : (n, r) ∈ namedRules lang t root :=
  (kept_sublist lang t root).subset h

/-- A file that is kept comes before every other one whose rule has the same name. -/
theorem before_of_mem_kept (h : (n, r) ∈ kept lang t root) (hm : (m, r') ∈ namedRules lang t root)
    (hid : r'.id = r.id) : m = n ∧ r' = r ∨ n.Before m := by
  obtain ⟨-, as, bs, hsplit, has⟩ := List.find?_eq_some_iff_append.mp (find?_of_mem_firsts h)
  have hn := (mem_namedRules.mp (mem_namedRules_of_mem_kept h)).2
  have hread := (mem_namedRules.mp hm).2
  rw [hsplit] at hm
  rcases List.mem_append.mp hm with hm | hm
  · exact absurd (has _ hm) (by simp [hid])
  · rcases List.mem_cons.mp hm with heq | hm
    · exact .inl (Prod.mk.inj heq)
    · have hle : Text.le n m = true := by
        have hsorted := (List.pairwise_append.mp (hsplit ▸ pairwise_namedRules lang t root)).2.1
        exact (List.pairwise_cons.mp hsorted).1 _ hm
      by_cases heq : n = m
      · subst heq
        exact .inl ⟨rfl, Except.ok.inj (hread.symm.trans hn)⟩
      · exact .inr ⟨hle, heq⟩

theorem pairwise_kept (lang : HeaderLanguage) (t : FileTree) (root : Path) :
    ((kept lang t root).map Prod.fst).Pairwise Text.Before := by
  have hids : (kept lang t root).Pairwise fun a b => a.2.id ≠ b.2.id := by
    refine List.pairwise_map.mp ?_
    rw [kept, map_firsts]
    exact nodup_eraseDups _
  have hsorted := (pairwise_namedRules lang t root).sublist (kept_sublist lang t root)
  refine List.pairwise_map.mpr (List.Pairwise.imp_of_mem ?_ (hsorted.and hids))
  rintro ⟨n, r⟩ ⟨m, r'⟩ hn hm ⟨hle, hid⟩
  refine ⟨hle, fun heq => hid ?_⟩
  have hn := (mem_namedRules.mp (mem_namedRules_of_mem_kept hn)).2
  have hm := (mem_namedRules.mp (mem_namedRules_of_mem_kept hm)).2
  subst heq
  rw [Except.ok.inj (hn.symm.trans hm)]

theorem nodup_ids_kept (lang : HeaderLanguage) (t : FileTree) (root : Path) :
    (((kept lang t root).map Prod.snd).map (·.id)).Nodup := by
  rw [List.map_map]
  change ((kept lang t root).map fun x => x.2.id).Nodup
  rw [kept, map_firsts]
  exact nodup_eraseDups _

/-! ### What is loaded -/

theorem IsLoadable.filesIn_eq (h : IsLoadable lang t root) :
    filesIn t (root.child folderName) = .ok ((fileNames t root).map (fileNamed root)) := by
  rw [filesIn, filterM_eq_ok (p := fun f => (t.hasFile f).toOption == some true), List.filter_map, List.filter_filter]
  · refine congrArg (fun names => Except.ok (names.map (fileNamed root))) (List.filter_congr fun n _ => ?_)
    exact Bool.and_comm _ _
  · intro f hf
    obtain ⟨n, hn, rfl⟩ := List.mem_map.mp hf
    obtain ⟨hchild, hmark⟩ := List.mem_filter.mp hn
    obtain ⟨b, hb⟩ := h.entries n hchild hmark
    rw [isFile_eq_ok]
    cases b <;> simp [fileNamed] at hb ⊢ <;> simp [hb, Except.toOption]

theorem IsLoadable.files_cases (h : IsLoadable lang t root) :
    fileNames t root = [] ∧ (∃ p, Rule.files t root = .error (.configuration p)) ∨
      fileNames t root ≠ [] ∧ Rule.files t root = .ok ((fileNames t root).map (fileNamed root)) := by
  obtain ⟨b, hb⟩ := h.folder
  have hcheck : (t.hasDirectory (root.child folderName)).mapError (Failure.noFile (root.child folderName).toText) =
      .ok b := mapError_eq_ok.mpr hb
  have hfound := h.filesIn_eq
  simp only [Rule.files, hcheck]
  cases b with
  | false =>
    refine .inl ⟨List.eq_nil_iff_forall_not_mem.mpr fun n hn => ?_, .noRuleFolder, rfl⟩
    cases hb.symm.trans (Entry.hasDirectory_eq_true.mpr (exists_folder_of_mem_fileNames hn))
  | true =>
    cases hnames : fileNames t root with
    | nil =>
      rw [hfound, hnames]
      exact .inl ⟨rfl, .noRuleFiles, rfl⟩
    | cons n ns =>
      rw [hfound, hnames]
      exact .inr ⟨List.cons_ne_nil n ns, rfl⟩

theorem IsLoadable.readable (h : IsLoadable lang t root) : ∀ f ∈ (fileNames t root).map (fileNamed root), ∀ e,
    ofFile lang t root f = .error e → ∃ path p, e = .rule path p := by
  intro f hf e he
  obtain ⟨n, hn, rfl⟩ := List.mem_map.mp hf
  exact h.files n hn e he

theorem IsLoadable.all_cases (h : IsLoadable lang t root) :
    kept lang t root = [] ∧ (∃ p, (all lang t root).1 = .error (.configuration p)) ∨
      kept lang t root ≠ [] ∧ (all lang t root).1 = .ok ((kept lang t root).map Prod.snd) := by
  rcases h.files_cases with ⟨hnone, p, hp⟩ | ⟨-, hfiles⟩
  · have hkept : kept lang t root = [] := by rw [kept, namedRules, hnone]; rfl
    rw [all, hp]
    exact .inl ⟨hkept, p, rfl⟩
  · have hgather : (gather lang t root ((fileNames t root).map (fileNamed root)) [] []).1 =
        .ok ((kept lang t root).map Prod.snd) := by
      rw [gather_eq h.readable, readings_fileNames, List.nil_append, List.map_nil, firsts_map]
      rfl
    rw [all, hfiles]
    dsimp only
    split
    · next hrun => cases hgather.symm.trans (congrArg Prod.fst hrun)
    · next hrun =>
      have hnil := Except.ok.inj (hgather.symm.trans (congrArg Prod.fst hrun))
      exact .inl ⟨List.map_eq_nil_iff.mp hnil, .noValidRules, rfl⟩
    · next found logs hsome hrun =>
      have hfound := Except.ok.inj (hgather.symm.trans (congrArg Prod.fst hrun))
      refine .inr ⟨fun hnil => hsome ?_, by rw [hfound]⟩
      rw [← hfound, hnil]
      rfl

/-! ### A folder without one of its files -/

section
variable {a file : Path} {e : Failure}

theorem hasFile_of_remove {q : Path} (h : (t.remove a).hasFile q = .ok true) :
    ¬t.Needs a q ∧ t.hasFile q = .ok true := by
  have hneeds : ¬t.Needs a q := fun hneeds => by cases h.symm.trans hneeds.hasFile_remove
  exact ⟨hneeds, Entry.hasFile_remove_of_not_needs hneeds ▸ h⟩

theorem find_of_remove {q : Path} (h : (t.remove a).find true q = .error .nameTooLong) :
    t.find true q = .error .nameTooLong := by
  have hneeds : ¬t.Needs a q := fun hneeds => by cases h.symm.trans hneeds.find_remove
  rcases Entry.find_face_cases (Entry.find_remove_of_not_needs hneeds) with ⟨_, _, -, hdir⟩ | hsame
  · cases h.symm.trans hdir
  · rw [← hsame, h]

/-- A failure that is there when something is removed was there before, or says why a file is no rule. -/
theorem ofFile_error_of_remove (hfile : ¬t.Needs a file) (h : ofFile lang (t.remove a) root file = .error e) :
    (∃ path p, e = .rule path p) ∨ ofFile lang t root file = .error e := by
  have hread := Entry.readText_remove_of_not_needs hfile
  cases hs : t.readText file with
  | error q =>
    rw [ofFile, hread, hs] at h
    exact .inr (by rw [ofFile, hs, ← h])
  | ok o =>
    cases o with
    | error bad =>
      rw [ofFile, hread, hs] at h
      exact .inr (by rw [ofFile, hs, ← h])
    | ok s =>
      rw [ofFile_of_text lang root (hread.trans hs), read_eq_bind] at h
      rw [ofFile_of_text lang root hs, read_eq_bind]
      rcases bind_eq_error.mp h with h | ⟨r, hr, h⟩
      · exact .inr (bind_eq_error.mpr (.inl h))
      rcases bind_eq_error.mp h with h | ⟨o, -, h⟩
      · obtain ⟨before, n, after, hn, hbefore, hfail⟩ := missingContext_eq_error.mp h
        have hmissing : missingContext (isContext t root) r.contextFiles = .error e := by
          refine missingContext_eq_error.mpr ⟨before, n, after, hn, fun m hm => ?_, ?_⟩
          · obtain ⟨p, hp, hthere⟩ := isContext_eq_true.mp (hbefore m hm)
            exact isContext_eq_true.mpr ⟨p, hp, (hasFile_of_remove hthere).2⟩
          · obtain ⟨p, hp, hlong, he⟩ := isContext_eq_error.mp hfail
            exact isContext_eq_error.mpr ⟨p, hp, find_of_remove hlong, he⟩
        exact .inr (bind_eq_error.mpr (.inr ⟨r, hr, bind_eq_error.mpr (.inl hmissing)⟩))
      · cases o <;> cases h
        exact .inl ⟨_, _, rfl⟩

theorem ofFile_remove (hfile : ¬t.Needs a file) : ofFile lang (t.remove a) root file = .ok r ↔
    ofFile lang t root file = .ok r ∧ ∀ c ∈ r.contextFiles, ∀ p, Names root c p → ¬t.Needs a p := by
  rw [ofFile_eq_ok, ofFile_eq_ok, Entry.readText_remove_of_not_needs hfile]
  constructor
  · rintro ⟨s, hs, hr, hcontext⟩
    refine ⟨⟨s, hs, hr, fun c hc => ?_⟩, fun c hc p hp => ?_⟩ <;> obtain ⟨q, hq, hthere⟩ := hcontext c hc
    · exact ⟨q, hq, (hasFile_of_remove hthere).2⟩
    · exact hp.eq hq ▸ (hasFile_of_remove hthere).1
  · rintro ⟨⟨s, hs, hr, hcontext⟩, hneeds⟩
    refine ⟨s, hs, hr, fun c hc => ?_⟩
    obtain ⟨p, hp, hthere⟩ := hcontext c hc
    exact ⟨p, hp, (Entry.hasFile_remove_of_not_needs (hneeds c hc p hp)).trans hthere⟩

end

theorem ne_dots_of_mem_fileNames (hn : n ∈ fileNames t root) : n ≠ ['.'] ∧ n ≠ ['.', '.'] := by
  have hmark := (mem_fileNames.mp hn).2.1
  constructor <;> rintro rfl <;> revert hmark <;> decide

section
variable (hn : n ∈ fileNames t root) (hfolder : ¬t.Needs (fileNamed root n) (root.child folderName))
include hn hfolder

theorem childNames_remove_file : (t.remove (fileNamed root n)).childNames (root.child folderName) =
    (t.childNames (root.child folderName)).filter (· != n) := by
  obtain ⟨hdot, hdots⟩ := ne_dots_of_mem_fileNames hn
  obtain ⟨hchild, -, hfile⟩ := mem_fileNames.mp hn
  exact Entry.childNames_remove hdot hdots hchild hfile hfolder

theorem fileNames_remove : fileNames (t.remove (fileNamed root n)) root = (fileNames t root).filter fun m =>
    m != n && ((t.remove (fileNamed root n)).hasFile (fileNamed root m)).toOption == some true := by
  rw [fileNames, fileNames, childNames_remove_file hn hfolder, List.filter_filter, List.filter_filter]
  refine List.filter_congr fun m _ => ?_
  have hstays : ((t.remove (fileNamed root n)).hasFile (fileNamed root m)).toOption = some true →
      (t.hasFile (fileNamed root m)).toOption = some true :=
    fun h => toOption_eq_some.mpr (hasFile_of_remove (toOption_eq_some.mp h)).2
  rw [Bool.eq_iff_iff]
  simp only [Bool.and_eq_true, beq_iff_eq]
  constructor
  · rintro ⟨⟨hmark, hfile⟩, hne⟩
    exact ⟨⟨hne, hfile⟩, hmark, hstays hfile⟩
  · rintro ⟨⟨hne, hfile⟩, hmark, -⟩
    exact ⟨⟨hmark, hfile⟩, hne⟩

theorem mem_fileNames_remove : m ∈ fileNames (t.remove (fileNamed root n)) root ↔
    m ∈ fileNames t root ∧ m ≠ n ∧ ¬t.Needs (fileNamed root n) (fileNamed root m) := by
  rw [fileNames_remove hn hfolder, List.mem_filter, Bool.and_eq_true, bne_iff_ne, beq_iff_eq, toOption_eq_some]
  refine and_congr_right fun hm => and_congr_right fun _ => ⟨fun h => (hasFile_of_remove h).1, fun hneeds => ?_⟩
  rw [Entry.hasFile_remove_of_not_needs hneeds]
  exact (mem_fileNames.mp hm).2.2

theorem IsLoadable.remove (h : IsLoadable lang t root) : IsLoadable lang (t.remove (fileNamed root n)) root := by
  obtain ⟨hdot, hdots⟩ := ne_dots_of_mem_fileNames hn
  obtain ⟨es, hes⟩ := exists_folder_of_mem_fileNames hn
  have hfound := Entry.find_remove_child hdot hdots hes (mem_fileNames.mp hn).2.2 hfolder
  refine ⟨⟨true, Entry.hasDirectory_eq_true.mpr ⟨_, hfound⟩⟩, fun m hm hmark => ?_, fun m hm e he => ?_⟩
  · by_cases hneeds : t.Needs (fileNamed root n) (fileNamed root m)
    · exact ⟨false, hneeds.hasFile_remove⟩
    · rw [childNames_remove_file hn hfolder] at hm
      rw [Entry.hasFile_remove_of_not_needs hneeds]
      exact h.entries m (List.mem_filter.mp hm).1 hmark
  · obtain ⟨hm, -, hneeds⟩ := (mem_fileNames_remove hn hfolder).mp hm
    rcases ofFile_error_of_remove hneeds he with hrule | he
    · exact hrule
    · exact h.files m hm e he

/-- The files that are rules afterwards were rules before, and stand in the same order. -/
theorem namedRules_remove : namedRules lang (t.remove (fileNamed root n)) root =
    (namedRules lang t root).filter fun x => decide (x ∈ namedRules lang (t.remove (fileNamed root n)) root) := by
  have hnames : fileNames (t.remove (fileNamed root n)) root =
      (fileNames t root).filter fun m => decide (m ∈ fileNames (t.remove (fileNamed root n)) root) := by
    conv_lhs => rw [fileNames_remove hn hfolder]
    refine List.filter_congr fun m hm => ?_
    rw [fileNames_remove hn hfolder, Bool.eq_iff_iff, decide_eq_true_eq, List.mem_filter, and_iff_right hm]
  have hafter : namedRules lang (t.remove (fileNamed root n)) root = (fileNames t root).filterMap fun m =>
      if decide (m ∈ fileNames (t.remove (fileNamed root n)) root) = true then
        (ofFile lang (t.remove (fileNamed root n)) root (fileNamed root m)).toOption.map (m, ·) else none := by
    conv_lhs => rw [namedRules, hnames]
    exact List.filterMap_filter
  refine hafter.trans (Eq.trans (List.filterMap_congr fun m _ => ?_) List.filter_filterMap.symm)
  by_cases hm : m ∈ fileNames (t.remove (fileNamed root n)) root
  · have hneeds := ((mem_fileNames_remove hn hfolder).mp hm).2.2
    cases hread : ofFile lang (t.remove (fileNamed root n)) root (fileNamed root m) with
    | ok r =>
      have hmem := mem_namedRules.mpr ⟨hm, hread⟩
      rw [((ofFile_remove hneeds).mp hread).1]
      simp [Option.filter_some, hm, hmem, Except.toOption]
    | error e =>
      have hnot : ∀ r, (m, r) ∉ namedRules lang (t.remove (fileNamed root n)) root := fun r hr => by
        cases hread.symm.trans (mem_namedRules.mp hr).2
      cases ofFile lang t root (fileNamed root m) <;> simp [Option.filter_some, hm, hnot, Except.toOption]
  · have hnot : ∀ r, (m, r) ∉ namedRules lang (t.remove (fileNamed root n)) root := fun r hr =>
      hm (mem_namedRules.mp hr).1
    cases ofFile lang t root (fileNamed root m) <;> simp [Option.filter_some, hm, hnot, Except.toOption]

end

/-- A file gives no rule: it is none, or the name of its rule is taken by a file that comes before. -/
def IsPassed (lang : HeaderLanguage) (t : FileTree) (root : Path) (n : Text) : Prop :=
  ∀ r, ofFile lang t root (fileNamed root n) = .ok r →
    ∃ m r', m ∈ fileNames t root ∧ m.Before n ∧ ofFile lang t root (fileNamed root m) = .ok r' ∧ r'.id = r.id

theorem IsPassed.notMem_kept (h : IsPassed lang t root n) : (n, r) ∉ kept lang t root := by
  intro hn
  obtain ⟨m, r', hm, hbefore, hread, hid⟩ := h r (mem_namedRules.mp (mem_namedRules_of_mem_kept hn)).2
  rcases before_of_mem_kept hn (mem_namedRules.mpr ⟨hm, hread⟩) hid with ⟨heq, -⟩ | hafter
  · exact hbefore.2 heq
  · exact hbefore.2 (Text.le_antisymm hbefore.1 hafter.1)

/-- A rule needs what a path names, for its file or for its context. -/
def Relies (t : FileTree) (root a : Path) (m : Text) (r : RuleFile) : Prop :=
  t.Needs a (fileNamed root m) ∨ ∃ c ∈ r.contextFiles, ∃ p, Names root c p ∧ t.Needs a p

/-- Removing a file that gives no rule takes no rule along, unless one needs the file. -/
theorem IsLoadable.all_remove_iff (h : IsLoadable lang t root) (hn : n ∈ fileNames t root)
    (hpassed : IsPassed lang t root n) (hsome : kept lang t root ≠ []) :
    (all lang (t.remove (fileNamed root n)) root).1 = .ok ((kept lang t root).map Prod.snd) ↔
      ∀ x ∈ kept lang t root, ¬Relies t root (fileNamed root n) x.1 x.2 := by
  constructor
  · rintro hall ⟨m, r⟩ hm
    have hfolder : ¬t.Needs (fileNamed root n) (root.child folderName) := by
      intro hneeds
      have hnone : Rule.files (t.remove (fileNamed root n)) root = .error (.configuration .noRuleFolder) := by
        rw [Rule.files, hneeds.hasDirectory_remove]
        rfl
      rw [all, hnone] at hall
      cases hall
    have hread := (mem_namedRules.mp (mem_namedRules_of_mem_kept hm)).2
    obtain ⟨⟨m', _⟩, hm', rfl⟩ : ∃ x ∈ kept lang (t.remove (fileNamed root n)) root, x.2 = r := by
      rcases (h.remove hn hfolder).all_cases with ⟨-, p, hp⟩ | ⟨-, hafter⟩
      · cases hall.symm.trans hp
      · exact List.mem_map.mp (Except.ok.inj (hall.symm.trans hafter) ▸ List.mem_map_of_mem hm)
    obtain ⟨hfile, hread'⟩ := mem_namedRules.mp (mem_namedRules_of_mem_kept hm')
    have hpath := ((mem_fileNames_remove hn hfolder).mp hfile).2.2
    obtain ⟨hread', hcontext⟩ := (ofFile_remove hpath).mp hread'
    have hsame : m = m' := fileNamed_of_pathFrom ((path_of_ofFile hread).symm.trans (path_of_ofFile hread'))
    subst hsame
    rintro (hneeds | ⟨c, hc, p, hp, hneeds⟩)
    · exact hpath hneeds
    · exact hcontext c hc p hp hneeds
  · intro hneeds
    obtain ⟨⟨m₀, r₀⟩, hm₀⟩ := List.exists_mem_of_ne_nil _ hsome
    have hfile₀ := (mem_namedRules.mp (mem_namedRules_of_mem_kept hm₀)).1
    have hfolder : ¬t.Needs (fileNamed root n) (root.child folderName) := fun hfolder =>
      hneeds (m₀, r₀) hm₀ (.inl (hfolder.child (mem_fileNames.mp hfile₀).2.2))
    have hstays : ∀ x ∈ kept lang t root, decide (x ∈ namedRules lang (t.remove (fileNamed root n)) root) = true := by
      rintro ⟨m, r⟩ hm
      obtain ⟨hfile, hread⟩ := mem_namedRules.mp (mem_namedRules_of_mem_kept hm)
      obtain ⟨hpath, hcontext⟩ := not_or.mp (hneeds (m, r) hm)
      have hne : m ≠ n := fun heq => hpassed.notMem_kept (heq ▸ hm)
      refine decide_eq_true (mem_namedRules.mpr ⟨(mem_fileNames_remove hn hfolder).mpr ⟨hfile, hne, hpath⟩, ?_⟩)
      exact (ofFile_remove hpath).mpr ⟨hread, fun c hc p hp hneeds => hcontext ⟨c, hc, p, hp, hneeds⟩⟩
    have hkept : kept lang (t.remove (fileNamed root n)) root = kept lang t root := by
      rw [kept, namedRules_remove hn hfolder, firsts_filter hstays]
      rfl
    rcases (h.remove hn hfolder).all_cases with ⟨hnone, -⟩ | ⟨-, hall⟩
    · exact absurd (hkept ▸ hnone) hsome
    · rw [hall, hkept]

/-- The rules of a folder, with the names of their files: each file is read as its rule, the files are in the order of
their names, no two rules have the same name, and a file that is a rule gives its rule or comes after one whose rule has
the same name. -/
structure IsLoaded (lang : HeaderLanguage) (t : FileTree) (root : Path) (names : List Text) (rules : List RuleFile) :
    Prop where
  read : List.Forall₂ (fun n r => n ∈ fileNames t root ∧ ofFile lang t root (fileNamed root n) = .ok r) names rules
  sorted : names.Pairwise Text.Before
  ids : (rules.map (·.id)).Nodup
  complete : ∀ n ∈ fileNames t root, ∀ r, ofFile lang t root (fileNamed root n) = .ok r →
    r ∈ rules ∨ ∃ m ∈ names, ∃ r' ∈ rules, m.Before n ∧ ofFile lang t root (fileNamed root m) = .ok r' ∧ r'.id = r.id

theorem isLoaded_kept (lang : HeaderLanguage) (t : FileTree) (root : Path) :
    IsLoaded lang t root ((kept lang t root).map Prod.fst) ((kept lang t root).map Prod.snd) := by
  refine ⟨?_, pairwise_kept lang t root, nodup_ids_kept lang t root, fun n hn r hread => ?_⟩
  · rw [List.forall₂_map_left_iff, List.forall₂_map_right_iff, List.forall₂_same]
    exact fun x hx => mem_namedRules.mp (mem_namedRules_of_mem_kept hx)
  · obtain ⟨⟨m, r'⟩, hm, hid, -⟩ := exists_mem_firsts (fun x => x.2.id) (mem_namedRules.mpr ⟨hn, hread⟩)
    have hr' : r' ∈ (kept lang t root).map Prod.snd := List.mem_map_of_mem hm
    rcases before_of_mem_kept hm (mem_namedRules.mpr ⟨hn, hread⟩) hid.symm with ⟨-, rfl⟩ | hbefore
    · exact .inl hr'
    · exact .inr ⟨m, List.mem_map_of_mem hm, r', hr', hbefore,
        (mem_namedRules.mp (mem_namedRules_of_mem_kept hm)).2, hid⟩

theorem kept_eq_nil :
    kept lang t root = [] ↔ ∀ n ∈ fileNames t root, ∀ r, ofFile lang t root (fileNamed root n) ≠ .ok r := by
  rw [kept, firsts_eq_nil, List.eq_nil_iff_forall_not_mem]
  constructor
  · exact fun h n hn r hr => h (n, r) (mem_namedRules.mpr ⟨hn, hr⟩)
  · exact fun h x hx => h x.1 (mem_namedRules.mp hx).1 x.2 (mem_namedRules.mp hx).2

/-- A folder that is loadable has no rules exactly when none of its files is one. Else its rules are loaded, and
removing a file that gives none changes nothing exactly when no rule needs the file. -/
theorem all_of_isLoadable (h : IsLoadable lang t root) :
    ((∃ p, (all lang t root).1 = .error (.configuration p)) ↔
        ∀ n ∈ fileNames t root, ∀ r, ofFile lang t root (fileNamed root n) ≠ .ok r) ∧
      ((∃ n ∈ fileNames t root, ∃ r, ofFile lang t root (fileNamed root n) = .ok r) →
        ∃ names rules, (all lang t root).1 = .ok rules ∧ IsLoaded lang t root names rules ∧
          ∀ n ∈ fileNames t root, IsPassed lang t root n →
            ((all lang (t.remove (fileNamed root n)) root).1 = .ok rules ↔
              ∀ x ∈ names.zip rules, ¬Relies t root (fileNamed root n) x.1 x.2)) := by
  refine ⟨?_, ?_⟩
  · rw [← kept_eq_nil]
    rcases h.all_cases with ⟨hnil, hnone⟩ | ⟨hsome, hall⟩
    · exact iff_of_true hnone hnil
    · refine iff_of_false ?_ hsome
      rintro ⟨p, hp⟩
      cases hall.symm.trans hp
  · rintro ⟨n, hn, r, hread⟩
    have hsome : kept lang t root ≠ [] := fun hnil => kept_eq_nil.mp hnil n hn r hread
    have hall := (h.all_cases.resolve_left fun hnone => hsome hnone.1).2
    refine ⟨_, _, hall, isLoaded_kept lang t root, fun m hm hpassed => ?_⟩
    rw [h.all_remove_iff hm hpassed hsome, List.zip_map', List.forall_mem_map]

theorem find_folderOf (files : List (Text × Text)) : (folderOf files).find true (Path.root.child folderName) =
    .ok (.dir (files.map fun f => (f.1, .file (Text.encode f.2)))) := rfl

theorem childNames_folderOf {files : List (Text × Text)}
    (h : (files.map (·.1)).Pairwise fun a b => Text.le a b = true) :
    (folderOf files).childNames (Path.root.child folderName) = files.map (·.1) := by
  have hnames : (files.map fun f => (f.1, Entry.file (Text.encode f.2))).map (·.1) = files.map (·.1) := by simp
  rw [Entry.childNames_of_find (find_folderOf files), hnames, Entry.sortTexts_eq (.refl _) h]

/-- Three files: a rule that has the last one for context, one with the same name, and one that is no rule. -/
def sharedFolder : FileTree := folderOf
  [("a.md", plainText "t" "context_files: [threadlines/c.md]\n"), ("b.md", plainText "t" ""), ("c.md", "Rule.\n")]

def sharedRule : RuleFile := plainRule "t" "threadlines/a.md" ["threadlines/c.md"]

theorem childNames_sharedFolder : sharedFolder.childNames (Path.root.child folderName) =
    ["a.md".toList, "b.md".toList, "c.md".toList] := childNames_folderOf (by decide)

theorem fileNames_sharedFolder : fileNames sharedFolder .root = ["a.md".toList, "b.md".toList, "c.md".toList] := by
  rw [fileNames, childNames_sharedFolder]
  rfl

/-- The first two files are rules with the same name, and the last one is no rule. -/
theorem ofFile_sharedFolder : ofFile Yaml.header sharedFolder .root (fileNamed .root "a.md") = .ok sharedRule ∧
    ofFile Yaml.header sharedFolder .root (fileNamed .root "b.md") = .ok (plainRule "t" "threadlines/b.md" []) ∧
    ofFile Yaml.header sharedFolder .root (fileNamed .root "c.md") = .error (.rule "threadlines/c.md" .noHeader) := by
  have hrules : (ofFile Yaml.header sharedFolder .root (fileNamed .root "a.md")).toOption = some sharedRule ∧
      (ofFile Yaml.header sharedFolder .root (fileNamed .root "b.md")).toOption =
        some (plainRule "t" "threadlines/b.md" []) := by
    decide +kernel
  exact ⟨toOption_eq_some.mp hrules.1, toOption_eq_some.mp hrules.2, rfl⟩

theorem kept_sharedFolder : kept Yaml.header sharedFolder .root = [("a.md".toList, sharedRule)] := by
  obtain ⟨hfirst, hsecond, hlast⟩ := ofFile_sharedFolder
  rw [kept, namedRules, fileNames_sharedFolder, List.filterMap_cons_some (by rw [hfirst]; rfl),
    List.filterMap_cons_some (by rw [hsecond]; rfl), List.filterMap_cons_none (by rw [hlast]; rfl)]
  rfl

theorem isLoadable_sharedFolder : IsLoadable Yaml.header sharedFolder .root := by
  refine ⟨⟨true, Entry.hasDirectory_eq_true.mpr ⟨_, find_folderOf _⟩⟩, fun n hn hmark => ?_, fun n hn e he => ?_⟩
  · have hfiles : n ∈ fileNames sharedFolder .root := by rwa [fileNames_sharedFolder, ← childNames_sharedFolder]
    exact ⟨true, (mem_fileNames.mp hfiles).2.2⟩
  · obtain ⟨hfirst, hsecond, hlast⟩ := ofFile_sharedFolder
    simp only [fileNames_sharedFolder, List.mem_cons, List.not_mem_nil, or_false] at hn
    obtain rfl | rfl | rfl := hn
    · cases hfirst.symm.trans he
    · cases hsecond.symm.trans he
    · cases hlast.symm.trans he
      exact ⟨_, _, rfl⟩

theorem isPassed_sharedFolder :
    IsPassed Yaml.header sharedFolder .root "b.md".toList ∧ IsPassed Yaml.header sharedFolder .root "c.md".toList := by
  obtain ⟨hfirst, hsecond, hlast⟩ := ofFile_sharedFolder
  refine ⟨fun r hr => ⟨"a.md", sharedRule, ?_, by decide, hfirst, ?_⟩, fun r hr => ?_⟩
  · rw [fileNames_sharedFolder]
    exact List.mem_cons_self
  · rw [Except.ok.inj (hr.symm.trans hsecond), sharedRule, plainRule, plainRule]
  · cases hlast.symm.trans hr

theorem all_sharedFolder : (all Yaml.header sharedFolder .root).1 = .ok [sharedRule] := by
  rcases isLoadable_sharedFolder.all_cases with ⟨hnil, -⟩ | ⟨-, hall⟩
  · rw [kept_sharedFolder] at hnil
    cases hnil
  · rw [hall, kept_sharedFolder]
    rfl

/-- The file with the name that is taken can be removed. -/
theorem all_remove_sharedFolder : (all Yaml.header sharedFolder .root).1 = .ok [sharedRule] ∧
    (all Yaml.header (sharedFolder.remove (fileNamed .root "b.md")) .root).1 = .ok [sharedRule] := by
  have hread := mem_namedRules.mp (mem_namedRules_of_mem_kept (kept_sharedFolder ▸ List.mem_singleton_self _))
  obtain ⟨names, rules, hall, hloaded, hremove⟩ :=
    (all_of_isLoadable isLoadable_sharedFolder).2 ⟨_, hread.1, _, hread.2⟩
  cases all_sharedFolder.symm.trans hall
  refine ⟨hall, (hremove "b.md" (by rw [fileNames_sharedFolder]; decide) isPassed_sharedFolder.1).mpr ?_⟩
  obtain ⟨n, ns, ⟨-, hn⟩, hnil, rfl⟩ := List.forall₂_cons_right_iff.mp hloaded.read
  cases hnil
  have hname : n = "a.md".toList :=
    fileNamed_of_pathFrom ((path_of_ofFile hn).symm.trans (path_of_ofFile hread.2))
  subst hname
  refine List.forall_mem_singleton.mpr (not_or.mpr ⟨(hasFile_of_remove rfl).1, ?_⟩)
  rintro ⟨c, hc, p, hp, hneeds⟩
  rw [List.mem_singleton.mp hc] at hp
  cases names_ofText.mp hp
  exact (hasFile_of_remove rfl).1 hneeds

/-- A link to a name that no entry can have. -/
def longLinkFolder : FileTree := .dir [(folderName, .dir [("a.md", .link (List.replicate 256 'x'))])]

/-- The file that is no rule cannot be removed, as it is context of a rule; and a link that cannot be followed is not
passed over. -/
theorem not_all_remove_sharedFolder : (IsLoadable Yaml.header sharedFolder .root ∧
      (all Yaml.header sharedFolder .root).1 = .ok [sharedRule] ∧
      (∃ p, ofFile Yaml.header sharedFolder .root (fileNamed .root "c.md") = .error (.rule "threadlines/c.md" p)) ∧
      (all Yaml.header (sharedFolder.remove (fileNamed .root "c.md")) .root).1 ≠ .ok [sharedRule]) ∧
    fileNames longLinkFolder .root = [] ∧
      (failure? (all Yaml.header longLinkFolder .root).1).map (·.kind) = some .file := by
  refine ⟨⟨isLoadable_sharedFolder, all_sharedFolder, ⟨_, ofFile_sharedFolder.2.2⟩, fun hall => ?_⟩, by decide +kernel⟩
  have hlast : "c.md".toList ∈ fileNames sharedFolder .root := by rw [fileNames_sharedFolder]; decide
  have hsome : kept Yaml.header sharedFolder .root ≠ [] := by rw [kept_sharedFolder]; exact List.cons_ne_nil _ _
  have hiff := isLoadable_sharedFolder.all_remove_iff hlast isPassed_sharedFolder.2 hsome
  rw [kept_sharedFolder] at hiff
  exact hiff.mp hall _ (List.mem_singleton_self _)
    (.inr ⟨_, List.mem_singleton_self _, _, names_ofText.mpr rfl, ["threadlines", "c.md"], [], rfl, rfl⟩)

end RuleReview.Rule
