import RuleReview.Proofs.Review.Share
import RuleReview.Yaml.Header

/-! # Rules that do not meet

What becomes of a rule in a review is decided by its own share and by the answer to its own request. So a review
comes to an end when every rule has a share, and the finding of a rule is the one that it gets alone, whatever is
answered to the others and however long anything takes. But a rule without a share ends the review for all.
-/
namespace RuleReview

def Finding.untimed (f : Finding) : Finding := { f with timing := none }

namespace Review
variable {s : Setup} {c : Change} {d : Diff} {rule : Rule} {rules : List Rule}

/-- The request of a rule with its share. -/
def requestOf (s : Setup) (rule : Rule) (sh : Share) : Request :=
  ⟨rule, sh.diff, sh.files, (readContext s.tree s.root rule rule.contextFiles).1.toOption.getD []⟩

/-- What becomes of the request: without any time the context files are not read, and without them nothing is
asked. -/
def answerTo (s : Setup) (rule : Rule) (sh : Share) : Answer :=
  if s.seconds.isOver && !rule.contextFiles.isEmpty then .late .cancelled
  else match (readContext s.tree s.root rule rule.contextFiles).1 with
  | .error f => .failed f
  | .ok _ => s.provider.answer (requestOf s rule sh)

/-- What a rule with a share comes to. -/
def findingOf (s : Setup) (rule : Rule) (sh : Share) : Finding :=
  let idle (reasoning : Glyphs) (files : List Text) : Finding :=
    { rule := rule.id, status := .notRelevant, reasoning, files, timing := some (s.timing rule) }
  if sh.paths.isEmpty then idle (.ofText noMatch) []
  else if sh.files.isEmpty then idle (.ofText noLines) sh.paths
  else (settle (requestOf s rule sh) (s.timing rule) s.seconds (answerTo s rule sh)).1

/-- The finding of a rule is made of its share alone, and without a share there is none. -/
theorem finding_one (s : Setup) (c : Change) (d : Diff) (rule : Rule) :
    (one s c d rule).map (·.finding) = (share rule c d s.window).map (findingOf s rule) := by
  simp only [one, bind, Except.bind, pure, Except.pure]
  cases share rule c d s.window with
  | error f => rfl
  | ok sh =>
    simp only [Except.map, findingOf, answerTo, requestOf]
    by_cases hpaths : sh.paths.isEmpty = true
    · rw [if_pos hpaths, if_pos hpaths]
    rw [if_neg hpaths, if_neg hpaths]
    by_cases hfiles : sh.files.isEmpty = true
    · rw [if_pos hfiles, if_pos hfiles]
    rw [if_neg hfiles, if_neg hfiles]
    by_cases hover : (s.seconds.isOver && !rule.contextFiles.isEmpty) = true
    · rw [if_pos hover, if_pos hover]
    rw [if_neg hover, if_neg hover]
    cases (readContext s.tree s.root rule rule.contextFiles).1 with
    | error f => rfl
    | ok context => rfl

theorem rule_findingOf (s : Setup) (rule : Rule) (sh : Share) : (findingOf s rule sh).rule = rule.id := by
  rw [findingOf]
  split
  · rfl
  split
  · rfl
  cases answerTo s rule sh <;> rfl

theorem untimed_settle (r : Request) (t u : Timing) (seconds : Seconds) (a : Answer) :
    (settle r t seconds a).1.untimed = (settle r u seconds a).1.untimed := by
  cases a <;> rfl

/-- How long tasks take and what other rules are answered says nothing about a rule. -/
theorem untimed_findingOf (s : Setup) (p : Provider) (t : Rule → Timing) (sh : Share)
    (hp : ∀ q, q.rule = rule → p.answer q = s.provider.answer q) :
    (findingOf { s with provider := p, timing := t } rule sh).untimed = (findingOf s rule sh).untimed := by
  have hanswer : answerTo { s with provider := p, timing := t } rule sh = answerTo s rule sh := by
    rw [answerTo, answerTo]
    dsimp only
    split
    · rfl
    split
    · rfl
    · exact hp _ rfl
  rw [findingOf, findingOf, hanswer]
  dsimp only
  split
  · rfl
  split
  · rfl
  · exact untimed_settle _ _ _ _ _

theorem findings_run (hd : c.parsed = .ok d) (s : Setup) (rules : List Rule) (ms : Int) :
    (run s rules c ms).map (·.report.findings) =
      rules.mapM fun rule => (share rule c d s.window).map (findingOf s rule) := by
  have hone : (fun rule => (share rule c d s.window).map (findingOf s rule)) =
      fun rule => (one s c d rule).map (·.finding) := funext fun rule => (finding_one s c d rule).symm
  rw [hone, mapM_map]
  simp only [run, hd, bind, Except.bind, pure, Except.pure]
  cases rules.mapM (one s c d) with
  | error f => rfl
  | ok outcomes => rfl

theorem run_eq_ok (hd : c.parsed = .ok d) {ms : Int} {fs : List Finding} :
    (∃ r, run s rules c ms = .ok r ∧ r.report.findings = fs) ↔
      List.Forall₂ (fun rule f => ∃ sh, share rule c d s.window = .ok sh ∧ findingOf s rule sh = f) rules fs := by
  rw [← map_eq_ok, findings_run hd, mapM_eq_ok]
  simp only [map_eq_ok]

theorem exists_run_iff (hd : c.parsed = .ok d) (s : Setup) (rules : List Rule) (ms : Int) :
    (∃ r, run s rules c ms = .ok r) ↔ ∀ rule ∈ rules, ∃ sh, share rule c d s.window = .ok sh := by
  have hfindings : (∃ r, run s rules c ms = .ok r) ↔
      ∃ fs, (run s rules c ms).map (·.report.findings) = .ok fs := by
    simp only [map_eq_ok]
    exact ⟨fun ⟨r, hr⟩ => ⟨_, r, hr, rfl⟩, fun ⟨_, r, hr, _⟩ => ⟨r, hr⟩⟩
  rw [hfindings, findings_run hd, exists_mapM_ok]
  simp only [map_eq_ok]
  exact forall₂_congr fun rule _ => ⟨fun ⟨_, sh, hsh, _⟩ => ⟨sh, hsh⟩, fun ⟨sh, hsh⟩ => ⟨_, sh, hsh, rfl⟩⟩

/-- A rule has a share when its patterns stand for something and the numbers that it would be sent can be written. -/
theorem exists_share {n : ℕ} (hrule : Glob.Compile rule.patterns) (hw : (sent rule c d n).isWritable = true) :
    ∃ sh, share rule c d n = .ok sh := by
  by_cases hc : c.hasContent = true
  · exact ⟨_, (share_eq hrule hc d n).trans (if_pos hw)⟩
  · simp [share, Glob.select_eq hrule, hc, bind, Except.bind, pure, Except.pure]

/-- A review comes to an end exactly when it does for every rule alone, and it does when all patterns stand for
something and all numbers can be written. Then it has one finding for each rule, in their order, and each is the one
that its rule gets alone, at other times and where other rules are answered otherwise. -/
theorem run_isolated (hd : c.parsed = .ok d) (s : Setup) (rules : List Rule) (ms : Int) :
    ((∃ r, run s rules c ms = .ok r) ↔ ∀ rule ∈ rules, ∃ r, run s [rule] c ms = .ok r) ∧
    (∀ n : ℕ, s.window = n →
      (∀ rule ∈ rules, Glob.Compile rule.patterns ∧ (sent rule c d n).isWritable = true) →
      ∃ r, run s rules c ms = .ok r) ∧
    ∀ r, run s rules c ms = .ok r → List.Forall₂ (fun rule f => f.rule = rule.id ∧
      ∀ (p : Provider) (t : Rule → Timing) (ms' : Int), (∀ q, q.rule = rule → p.answer q = s.provider.answer q) →
        ∃ r', run { s with provider := p, timing := t } [rule] c ms' = .ok r' ∧
          r'.report.findings.map Finding.untimed = [f.untimed]) rules r.report.findings := by
  refine ⟨?_, fun n hn hrules => ?_, fun r hr => ?_⟩
  · simp only [exists_run_iff hd, List.forall_mem_singleton]
  · refine (exists_run_iff hd s rules ms).mpr fun rule hrule => ?_
    rw [hn]
    exact exists_share (hrules rule hrule).1 (hrules rule hrule).2
  · refine ((run_eq_ok hd).mp ⟨r, hr, rfl⟩).imp ?_
    rintro rule f ⟨sh, hsh, rfl⟩
    refine ⟨rule_findingOf s rule sh, fun p t ms' hp => ?_⟩
    let s' : Setup := { s with provider := p, timing := t }
    have halone : ∃ r', run s' [rule] c ms' = .ok r' ∧ r'.report.findings = [findingOf s' rule sh] :=
      (run_eq_ok hd).mpr (.cons ⟨sh, hsh, rfl⟩ .nil)
    obtain ⟨r', hr', hfs⟩ := halone
    refine ⟨r', hr', ?_⟩
    rw [hfs, List.map_singleton, untimed_findingOf s p t sh hp]

def sampleSetup : Setup where
  tree := .dir []
  root := .root
  window := 0
  seconds := .whole 1
  provider := ⟨none, fun _ => .failed (.general "no answer")⟩
  timing := fun _ => ⟨[], [], 0⟩

theorem parsed_sampleChange : sampleChange.parsed = .ok Diff.sampleDiff := Diff.parse_sample

theorem isWritable_sent_sample : (sent sampleRule sampleChange Diff.sampleDiff 0).isWritable = true := by
  decide +kernel

theorem run_isolated_sample :
    ∃ r, run sampleSetup [sampleRule, sampleRule] sampleChange 0 = .ok r ∧
      r.report.findings.map (·.rule) = ["t".toList, "t".toList] := by
  obtain ⟨_, hok, hfindings⟩ := run_isolated parsed_sampleChange sampleSetup [sampleRule, sampleRule] 0
  have hrules : ∀ rule ∈ [sampleRule, sampleRule],
      Glob.Compile rule.patterns ∧ (sent rule sampleChange Diff.sampleDiff 0).isWritable = true := by
    simp [compile_sampleRule, isWritable_sent_sample]
  obtain ⟨r, hr⟩ := hok 0 rfl hrules
  refine ⟨r, hr, ?_⟩
  have hids := (hfindings r hr).imp fun _ _ h => h.1
  obtain ⟨f, fs, hf, hrest, hfs⟩ := List.forall₂_cons_left_iff.mp hids
  obtain ⟨g, gs, hg, hnil, rfl⟩ := List.forall₂_cons_left_iff.mp hrest
  cases hnil
  rw [hfs, List.map_cons, List.map_singleton, hf, hg]
  rfl

def ruleFile (pattern : Text) : Text :=
  "---\nid: t\nversion: 1.0.0\npatterns: [\"".toList ++ pattern ++ "\"]\n---\nRule.\n".toList

/-- The rule that is read from such a file. -/
def readRule (pattern : Text) : Option Rule :=
  (Rule.read Yaml.header (fun _ => .ok true) "threadlines/t.md" (ruleFile pattern)).toOption.bind RuleFile.rule?

/-- A rule whose pattern is a range that runs backwards. -/
def backwardRule : Rule := { sampleRule with patterns := ["[z-a]"] }

theorem read_ruleFile : readRule "x" = some sampleRule ∧ readRule "[z-a]" = some backwardRule := by
  decide +kernel

/-- A rule with such a pattern is read like any other, and ends the review also for the rule after it. -/
theorem not_run_backwardRule :
    readRule "x" = some sampleRule ∧ readRule "[z-a]" = some backwardRule ∧
      sampleChange.parsed = .ok Diff.sampleDiff ∧ (∃ r, run sampleSetup [sampleRule] sampleChange 0 = .ok r) ∧
      ¬∃ r, run sampleSetup [backwardRule, sampleRule] sampleChange 0 = .ok r := by
  refine ⟨read_ruleFile.1, read_ruleFile.2, parsed_sampleChange, ?_, ?_⟩
  · rw [exists_run_iff parsed_sampleChange, List.forall_mem_singleton]
    exact exists_share compile_sampleRule isWritable_sent_sample
  · rw [exists_run_iff parsed_sampleChange, List.forall_mem_cons]
    rintro ⟨⟨sh, hsh⟩, _⟩
    have hnone : (share backwardRule sampleChange Diff.sampleDiff sampleSetup.window).toBool = false := by
      decide +kernel
    rw [hsh] at hnone
    cases hnone

end Review

end RuleReview
