import RuleReview.Proofs.Distinct
import RuleReview.Proofs.Review.Isolation
import RuleReview.Publish

/-! # What a report adds up to

Whatever becomes of a rule, its finding says why exactly when it is an error, cites its files and each of them once,
and tells what was sent exactly when something was. So the counts of a report, which are taken in different ways, add
up, and they are the ones that are published.
-/
namespace RuleReview

/-- A finding that says why exactly when it is an error, and cites files that it is about, each of them once. -/
structure Finding.Sound (f : Finding) : Prop where
  fault : f.fault.isSome = true ↔ f.status = .error
  nodup : f.citations.Nodup
  cited : f.citations ⊆ f.files

/-- Every finding is counted once, and there are failures exactly when something counts as one. -/
structure Report.Balanced (r : Report) : Prop where
  total : (r.total : ℤ) = r.completed + r.timedOut + r.errors
  completed : r.completed = r.count .compliant + r.count .attention + r.count .notRelevant
  errors : 0 ≤ r.errors
  failures : r.hasFailures = true ↔ 0 < (r.count .attention + r.timedOut + r.errors : ℤ)

/-- The counts that a published document holds are those of the report. -/
structure Report.IsToldBy (r : Report) (metadata : Json) : Prop where
  total : metadata.member? "totalThreadlines" = some (.nat r.total)
  completed : metadata.member? "completed" = some (.nat r.completed)
  timedOut : metadata.member? "timedOut" = some (.nat r.timedOut)
  errors : metadata.member? "errors" = some (.int r.errors)

theorem Finding.Sound.status_of_isTimeout {f : Finding} (hf : f.Sound) (ht : f.isTimeout = true) :
    f.status = .error := by
  obtain ⟨fault, hfault, _⟩ := (Option.any_eq_true _ _).mp ht
  exact hf.fault.mp (Option.isSome_of_mem hfault)

namespace Report

theorem completed_eq (r : Report) :
    r.completed = r.count .compliant + r.count .attention + r.count .notRelevant := by
  rw [completed, count, count, count]
  induction r.findings with
  | nil => rfl
  | cons f fs ih =>
    simp only [List.countP_cons, ih]
    cases f.status <;> simp <;> omega

theorem total_eq (r : Report) : r.total = r.completed + r.count .error := by
  have hstatus : r.findings.countP (fun f => decide (¬(f.status != .error) = true)) = r.count .error :=
    List.countP_congr fun f _ => by simp
  rw [total, List.length_eq_countP_add_countP (fun f => f.status != .error), hstatus, completed]

theorem timedOut_le {r : Report} (hr : ∀ f ∈ r.findings, f.Sound) : r.timedOut ≤ r.count .error :=
  List.countP_mono_left fun f hf ht => decide_eq_true ((hr f hf).status_of_isTimeout ht)

theorem hasFailures_iff (r : Report) : r.hasFailures = true ↔ 0 < r.count .attention + r.count .error := by
  rw [hasFailures, List.any_eq_true, Nat.add_pos_iff_pos_or_pos, count, count, List.countP_pos_iff, List.countP_pos_iff]
  simp only [Finding.isFailure, Bool.or_eq_true, and_or_left, exists_or]

/-- Timeouts are errors that are counted on their own, so that no number is below zero. -/
theorem balanced {r : Report} (hr : ∀ f ∈ r.findings, f.Sound) : r.Balanced := by
  have htotal := r.total_eq
  have htimes := timedOut_le hr
  refine ⟨?_, r.completed_eq, ?_, r.hasFailures_iff.trans ?_⟩
  all_goals rw [errors]; omega

theorem isToldBy_metadata (r : Report) : r.IsToldBy (Publish.metadata r) := ⟨rfl, rfl, rfl, rfl⟩

end Report

theorem Status.ofStanding_ne_error (s : Standing) : Status.ofStanding s ≠ .error := by
  cases s <;> simp [Status.ofStanding]

namespace Citation

theorem mem_of_resolveGlyphs? {sent : List Text} {citation : Glyphs} {path : Text}
    (h : resolveGlyphs? sent citation = some path) : path ∈ sent := List.contains_iff_mem.mp (List.find?_some h)

end Citation

namespace Review
variable {s : Setup} {c : Change} {d : Diff} {rule : Rule} {rules : List Rule} {sh : Share} {o : Outcome}

/-- The line that is logged when the evaluation of a rule is started, with the number of its files. -/
def startLine (rule : Rule) (sh : Share) : LogLine :=
  ⟨.debug, .concat ["Dispatching ", rule.id, " for ", Text.ofNat sh.files.length, " file(s)"]⟩

/-- The evaluation of the rule was started, which is logged before anything else. -/
def Outcome.Started (o : Outcome) (rule : Rule) (sh : Share) : Prop := o.logs.head? = some (startLine rule sh)

/-- What an outcome tells about the share of its rule: of an evaluation that was started all files and the text, of any
other no text. -/
structure Outcome.Accounts (o : Outcome) (rule : Rule) (sh : Share) : Prop where
  started : o.Started rule sh ↔ sh.files ≠ []
  files : o.Started rule sh → o.finding.files = sh.files
  request : ∀ q ∈ o.request, o.Started rule sh ∧ q.files = o.finding.files ∧ q.diff = o.finding.diff
  diff : o.finding.diff ≠ [] ↔ o.Started rule sh

theorem share_cases {n : ℤ} (h : share rule c d n = .ok sh) :
    sh.diff = [] ∧ sh.files = [] ∨
      ∃ e, (d.restrict sh.paths).narrow n = .ok e ∧ sh.paths ≠ [] ∧ sh.diff = e.serialize ∧ sh.files = e.changedFiles := by
  obtain ⟨paths, -, h⟩ := bind_eq_ok.mp h
  split at h
  · cases h
    exact .inl ⟨rfl, rfl⟩
  · next hsome =>
    obtain ⟨e, he, h⟩ := bind_eq_ok.mp h
    cases h
    refine .inr ⟨e, he, ?_, rfl, rfl⟩
    rintro rfl
    exact hsome rfl

theorem diff_ne_nil (hd : c.parsed = .ok d) {n : ℤ} (h : share rule c d n = .ok sh) (hfiles : sh.files ≠ []) :
    sh.diff ≠ [] := by
  rcases share_cases h with ⟨-, hnone⟩ | ⟨e, he, -, hdiff, hchanged⟩
  · exact absurd hnone hfiles
  · obtain ⟨n, rfl⟩ := Int.eq_ofNat_of_zero_le (Diff.nonneg_of_narrow he)
    have hr : e.Readable := ((Diff.readable_of_parse hd).restrict _).narrow he
    rw [hdiff]
    refine hr.serialize_ne_nil fun hnil => hfiles ?_
    rw [hchanged, Diff.changedFiles, hnil]
    rfl

theorem files_settle (r : Request) (t : Timing) (seconds : Seconds) (a : Answer) :
    (settle r t seconds a).1.files = r.files ∧ (settle r t seconds a).1.diff = r.diff := by
  cases a <;> exact ⟨rfl, rfl⟩

theorem sound_faulty (r : Request) (t : Timing) (kind message : Text) : (faulty r t kind message).Sound :=
  ⟨⟨fun _ => rfl, fun _ => rfl⟩, List.nodup_nil, List.nil_subset _⟩

theorem sound_settle (r : Request) (t : Timing) (seconds : Seconds) (a : Answer) : (settle r t seconds a).1.Sound := by
  cases a with
  | failed f => exact sound_faulty r t _ _
  | late l => exact sound_faulty r t _ _
  | verdict v =>
    refine ⟨?_, nodup_eraseDups _, ?_⟩
    · simp [settle, Status.ofStanding_ne_error]
    · intro path hpath
      rw [settle, keptCitations, List.mem_eraseDups] at hpath
      obtain ⟨citation, -, hcited⟩ := List.mem_filterMap.mp hpath
      exact Citation.mem_of_resolveGlyphs? hcited

theorem sound_findingOf (s : Setup) (rule : Rule) (sh : Share) : (findingOf s rule sh).Sound := by
  rw [findingOf]
  split
  · exact ⟨⟨fun h => (by cases h), fun h => (by cases h)⟩, List.nodup_nil, List.nil_subset _⟩
  split
  · exact ⟨⟨fun h => (by cases h), fun h => (by cases h)⟩, List.nodup_nil, List.nil_subset _⟩
  · exact sound_settle _ _ _ _

/-- Without files to be sent a rule is found not to be relevant, and nothing is asked or logged. -/
theorem diff_findingOf_idle (hidle : sh.paths = [] ∨ sh.files = []) : (findingOf s rule sh).diff = [] := by
  rw [findingOf]
  split
  · rfl
  · next hpaths =>
    have hfiles : sh.files = [] := hidle.resolve_left (by simpa using hpaths)
    rw [hfiles]
    rfl

theorem files_findingOf (hpaths : sh.paths ≠ []) (hfiles : sh.files ≠ []) :
    (findingOf s rule sh).files = sh.files ∧ (findingOf s rule sh).diff = sh.diff := by
  rw [findingOf, if_neg (by simpa using hpaths), if_neg (by simpa using hfiles)]
  exact files_settle _ _ _ _

/-- An outcome has the finding of its share, and it is idle, or begins with the line that its evaluation was started
and asks at most for that share. -/
theorem one_cases (h : one s c d rule = .ok o) :
    ∃ sh, share rule c d s.window = .ok sh ∧ o.finding = findingOf s rule sh ∧
      ((sh.paths = [] ∨ sh.files = []) ∧ o.request = none ∧ o.logs = [] ∨
        sh.paths ≠ [] ∧ sh.files ≠ [] ∧ o.Started rule sh ∧ ∀ q ∈ o.request, q = requestOf s rule sh) := by
  have hfinding := finding_one s c d rule
  obtain ⟨sh, hsh, hone⟩ := bind_eq_ok.mp h
  rw [h, hsh] at hfinding
  refine ⟨sh, hsh, Except.ok.inj hfinding, ?_⟩
  by_cases hpaths : sh.paths = []
  · simp only [hpaths, List.isEmpty_nil, if_true] at hone
    cases hone
    exact .inl ⟨.inl hpaths, rfl, rfl⟩
  by_cases hfiles : sh.files = []
  · simp only [hpaths, hfiles, List.isEmpty_nil, List.isEmpty_iff, if_true, if_false] at hone
    cases hone
    exact .inl ⟨.inr hfiles, rfl, rfl⟩
  simp only [hpaths, hfiles, List.isEmpty_iff, if_false] at hone
  refine .inr ⟨hpaths, hfiles, ?_⟩
  split at hone
  · cases hone
    exact ⟨rfl, by simp⟩
  cases hread : (readContext s.tree s.root rule rule.contextFiles).1 with
  | error f =>
    rw [hread] at hone
    cases hone
    exact ⟨rfl, by simp⟩
  | ok context =>
    rw [hread] at hone
    cases hone
    refine ⟨rfl, ?_⟩
    rintro q ⟨⟩
    rw [requestOf, hread]

theorem accounts_one (hd : c.parsed = .ok d) (h : one s c d rule = .ok o) :
    ∃ sh, share rule c d s.window = .ok sh ∧ o.finding.Sound ∧ o.Accounts rule sh := by
  obtain ⟨sh, hsh, hfinding, hcases⟩ := one_cases h
  refine ⟨sh, hsh, hfinding ▸ sound_findingOf s rule sh, ?_⟩
  rcases hcases with ⟨hidle, hrequest, hlogs⟩ | ⟨hpaths, hfiles, hstarted, hrequest⟩
  · have hnot : ¬o.Started rule sh := by simp [Outcome.Started, hlogs]
    have hnone : sh.files = [] := by
      rcases hidle with hpaths | hfiles
      · rcases share_cases hsh with ⟨-, hfiles⟩ | ⟨_, _, hne, _⟩
        · exact hfiles
        · exact absurd hpaths hne
      · exact hfiles
    have hdiff : o.finding.diff = [] := hfinding ▸ diff_findingOf_idle hidle
    exact ⟨by simp [hnot, hnone], fun hs => absurd hs hnot, by simp [hrequest], by simp [hnot, hdiff]⟩
  · have hfiled : (findingOf s rule sh).files = sh.files ∧ (findingOf s rule sh).diff = sh.diff :=
      files_findingOf hpaths hfiles
    rw [← hfinding] at hfiled
    obtain ⟨hof, hod⟩ := hfiled
    refine ⟨by simp [hstarted, hfiles], fun _ => hof, fun q hq => ?_, ?_⟩
    · rw [hrequest q hq]
      exact ⟨hstarted, hof.symm, hod.symm⟩
    · rw [hod]
      exact iff_of_true (diff_ne_nil hd hsh hfiles) hstarted

theorem outcomes_run {ms : Int} {r : Result} (hr : run s rules c ms = .ok r) :
    ∃ d outcomes, c.parsed = .ok d ∧ rules.mapM (one s c d) = .ok outcomes ∧
      r.report.findings = outcomes.map (·.finding) := by
  obtain ⟨d, hd, hr⟩ := bind_eq_ok.mp hr
  obtain ⟨outcomes, houtcomes, hr⟩ := bind_eq_ok.mp hr
  cases hr
  exact ⟨d, outcomes, hd, houtcomes, rfl⟩

/-- The counts of a report add up, whatever is answered to whom, and they are published as they are. Every finding says
why exactly when it is an error, and cites its files, each once. A finding has the files that were prepared for its
rule whenever the evaluation was started, whatever became of it, and the text that goes with them exactly then. -/
theorem run_balanced {ms : Int} {r : Result} (hr : run s rules c ms = .ok r) :
    r.report.Balanced ∧ (∀ f ∈ r.report.findings, f.Sound) ∧
      (∃ d, c.parsed = .ok d ∧ List.Forall₂ (fun rule f => ∃ sh o, share rule c d s.window = .ok sh ∧
        one s c d rule = .ok o ∧ o.finding = f ∧ o.Accounts rule sh) rules r.report.findings) ∧
      ∀ p : Publish.Parcel, p.report = r.report →
        ∃ metadata, p.toJson.member? "metadata" = some metadata ∧ r.report.IsToldBy metadata := by
  obtain ⟨d, outcomes, hd, houtcomes, hfindings⟩ := outcomes_run hr
  have hsound : ∀ f ∈ r.report.findings, f.Sound := by
    have houtcome : ∀ o ∈ outcomes, o.finding.Sound :=
      forall_of_mapM (P := fun _ => True) (fun rule o _ ho => (accounts_one hd ho).elim fun _ h => h.2.1)
        (fun _ _ => trivial) houtcomes
    rw [hfindings]
    exact List.forall_mem_map.mpr houtcome
  refine ⟨Report.balanced hsound, hsound, ⟨d, hd, ?_⟩, fun p hp => ⟨_, rfl, hp ▸ p.report.isToldBy_metadata⟩⟩
  rw [hfindings]
  refine List.forall₂_map_right_iff.mpr ((mapM_eq_ok.mp houtcomes).imp fun rule o ho => ?_)
  obtain ⟨sh, hsh, -, hacc⟩ := accounts_one hd ho
  exact ⟨sh, o, hsh, ho, rfl, hacc⟩

/-- A rule about files that the change does not touch. -/
def elsewhereRule : Rule := { sampleRule with id := "e", patterns := ["z"] }

theorem run_balanced_sample :
    ∃ r, run sampleSetup [sampleRule, elsewhereRule] sampleChange 0 = .ok r ∧ r.report.Balanced ∧
      r.report.completed = 1 ∧ r.report.errors = 1 ∧ r.report.hasFailures = true := by
  have hcounts : (run sampleSetup [sampleRule, elsewhereRule] sampleChange 0).toOption.map
      (fun r => (r.report.completed, r.report.errors, r.report.hasFailures)) = some (1, 1, true) := by
    decide +kernel
  cases hr : run sampleSetup [sampleRule, elsewhereRule] sampleChange 0 with
  | error f =>
    rw [hr] at hcounts
    cases hcounts
  | ok r =>
    rw [hr] at hcounts
    obtain ⟨hcompleted, herrors, hfailures⟩ : r.report.completed = 1 ∧ r.report.errors = 1 ∧
        r.report.hasFailures = true := by simpa [Except.toOption] using hcounts
    exact ⟨r, rfl, (run_balanced hr).1, hcompleted, herrors, hfailures⟩

end Review

end RuleReview
