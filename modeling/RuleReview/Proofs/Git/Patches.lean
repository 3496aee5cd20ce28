import RuleReview.Change.Source
import RuleReview.Proofs.Diff.Openings
import RuleReview.Proofs.Git.Branches

/-! # What becomes of a patch

A review of a commit, of a pull request or of what is staged asks git for one patch, when everything else about it is
settled, and shows it. The patch is read as text is, so that a carriage return in it counts as the end of a line: what
is shown is the patch with line feeds in place of its carriage returns, and it is what git wrote exactly when there are
none. Its sections and hunks are then those that lines of what git wrote introduce.
-/
namespace RuleReview

open Session

namespace Worktree

/-- Prints the patch of what is staged. -/
def stagedPatch (contextLines : Nat) : Command :=
  diffCommand ++ ["--cached".toList, Text.concat ["-U", Text.ofNat contextLines]]

end Worktree

/-- The command prints the patch of a commit or of a pull request, or of what is staged. -/
def IsPatch (f : Fetching) (c : Command) : Prop :=
  (∃ base head, c = History.patchOf f base head) ∨ c = Worktree.stagedPatch f.contextLines

variable {f : Fetching} {git : Git} {h calls : List Command} {c : Command}

theorem not_isPatch_of_verb (htree : History.verb c ≠ some "diff-tree".toList)
    (hdiff : History.verb c ≠ some "diff".toList) : ¬IsPatch f c := by
  rintro (⟨base, head, rfl⟩ | rfl)
  · exact htree rfl
  · exact hdiff rfl

@[simp] theorem verb_stagedPatch (n : Nat) : History.verb (Worktree.stagedPatch n) = some "diff".toList := rfl

@[simp] theorem verb_diffCommand (args : List Text) : History.verb (Worktree.diffCommand ++ args) = some "diff".toList :=
  rfl

theorem not_isPatch_diff {args : List Text}
    (hargs : args ≠ ["--cached".toList, Text.concat ["-U", Text.ofNat f.contextLines]]) :
    ¬IsPatch f (Worktree.diffCommand ++ args) := by
  rintro (⟨base, head, he⟩ | he)
  · exact absurd (congrArg History.verb he) (by simp)
  · exact hargs (List.append_cancel_left he)

theorem not_isPatch_namesOf (base head : Text) : ¬IsPatch f (History.namesOf base head) := by
  rintro (⟨base', head', he⟩ | he)
  · exact absurd (congrArg List.length he) (by simp [History.namesOf, History.patchOf])
  · exact absurd (congrArg History.verb he) (by simp)

/-- The change has the text `s`, and one section and one hunk for each line of `s` that introduces one, and no other. -/
structure Change.Shows (change : Change) (s : Text) : Prop where
  text : change.text = s
  read : ∃ d, change.parsed = .ok d ∧ d.serialize = s ∧
    d.sections.map (·.header.head?) = ((Diff.textLines s).1.filter Diff.opensSection).map some ∧
    d.sections.flatMap (·.hunks.map Hunk.header) = (Diff.textLines s).1.filter Diff.opensHunk

/-- What becomes of the one patch that git prints after the calls `h`, where that is the text `s`: it is shown, or the
run fails, as it cannot be read or as git does not do what it is called for next. -/
def Relayed (git : Git) (h : List Command) (c : Command) (s : Text) (calls : List Command) : Except Failure Change → Prop
  | .ok change => change.Shows (Text.normalizeBreaks s)
  | .error e => Diff.parse (Text.normalizeBreaks s) = .error e ∨
    ∃ next, calls = h ++ [c] ++ [next] ∧ ¬git.Succeeds (h ++ [c]) next

/-- Every patch that is printed in a run becomes what it should. -/
def Relays (f : Fetching) (git : Git) (calls : List Command) (r : Except Failure Change) : Prop :=
  ∀ h c s err, Issued calls h c → IsPatch f c → git h c = .exited 0 (Text.encode s) err → s.isBlankText = false →
    Relayed git h c s calls r

theorem Free.relays (hcalls : Free (IsPatch f) calls) (r : Except Failure Change) : Relays f git calls r :=
  fun _ c _ _ hi hc => absurd hc (hcalls c hi.mem)

theorem Free.relays_concat {more : List Command} {r : Except Failure Change} (hh : Free (IsPatch f) h)
    (hmore : Free (IsPatch f) more) (hr : ∀ s err, git h c = .exited 0 (Text.encode s) err → s.isBlankText = false →
      Relayed git h c s (h ++ [c] ++ more) r) : Relays f git (h ++ [c] ++ more) r := by
  intro h' c' s err hi hc hout hblank
  obtain ⟨rfl, rfl⟩ := hi.eq_of_free hh hmore hc
  exact hr s err hout hblank

theorem Free.relays_last {r : Except Failure Change} (hh : Free (IsPatch f) h)
    (hr : ∀ s err, git h c = .exited 0 (Text.encode s) err → s.isBlankText = false → Relayed git h c s (h ++ [c]) r) :
    Relays f git (h ++ [c]) r := by
  have hlast : Relays f git (h ++ [c] ++ []) r :=
    hh.relays_concat (fun _ hc => absurd hc List.not_mem_nil) ((List.append_nil _).symm ▸ hr)
  rwa [List.append_nil] at hlast

theorem Free.relays_unprinted {r : Except Failure Change} (hh : Free (IsPatch f) h) (hs : ¬git.Succeeds h c) :
    Relays f git (h ++ [c]) r := hh.relays_last fun _ _ hout _ => absurd ⟨_, _, hout⟩ hs

theorem Change.shows_of_build {s : Text} {names warnings : List Text} {strategy : Strategy} {base head : Option Text}
    {change : Change} (hblank : s.isBlankText = false)
    (hc : Change.build s names strategy base head warnings = .ok change) : change.Shows s := by
  rw [Change.build, hblank, if_neg Bool.false_ne_true] at hc
  obtain ⟨d, hd, rfl⟩ := map_eq_ok.mp hc
  have hserialize : d.serialize = s := Diff.linesText_of_parse hd
  exact ⟨rfl, d, hd, hserialize, Diff.headers_of_parse hd, Diff.hunkHeaders_of_parse hd⟩

theorem avoids_hasCommit (x : Text) : Avoids (IsPatch f) (History.hasCommit x) :=
  (Avoids.ask (not_isPatch_of_verb (c := History.probe x) (by simp) (by simp))).bind fun _ => Avoids.pure _

theorem avoids_ensureCommit (x : Text) : Avoids (IsPatch f) (History.ensureCommit f x) := by
  have hfetch : ¬IsPatch f (History.fetchOne f x) := not_isPatch_of_verb (by simp) (by simp)
  refine (avoids_hasCommit x).bind fun found => ?_
  cases found with
  | true => exact Avoids.pure _
  | false =>
    refine (Avoids.log _ _).bind fun _ => (Avoids.ask hfetch).bind fun r => avoids_unless ?_ _ _
    exact (avoids_hasCommit x).bind fun found => avoids_unless (Avoids.pure ()) _ _

theorem avoids_tipOf (ref : Text) : Avoids (IsPatch f) (History.tipOf ref) :=
  (Avoids.output (not_isPatch_of_verb (c := History.tip ref) (by simp) (by simp))).bind fun _ => Avoids.pure _

theorem avoids_resolveCommit (ref : Text) : Avoids (IsPatch f) (History.resolveCommit f ref) := by
  refine (Avoids.ofExcept _).bind fun _ => ?_
  cases hsha : Ref.isSha ref with
  | false => exact avoids_tipOf ref
  | true =>
    refine (avoids_hasCommit ref).bind fun found => ?_
    cases found with
    | true => exact avoids_tipOf ref
    | false => exact (avoids_ensureCommit ref).bind fun _ => avoids_tipOf ref

theorem avoids_parentOf (x : Text) : Avoids (IsPatch f) (History.parentOf f x) := by
  have hobject : ¬IsPatch f (History.object x) := not_isPatch_of_verb (by simp) (by simp)
  refine (avoids_ensureCommit x).bind fun _ => (Avoids.output hobject).bind fun raw => (Avoids.ofExcept _).bind fun p => ?_
  cases p with
  | none => exact Avoids.throw _
  | some parent => exact Avoids.pure parent

theorem avoids_ensureBranch (branch : Text) : Avoids (IsPatch f) (History.ensureBranch f branch) := by
  have hquery : ¬IsPatch f History.shallowQuery := not_isPatch_of_verb (by simp) (by simp)
  have hfetch (shallow : Bool) : ¬IsPatch f (History.branchFetch f branch shallow) :=
    not_isPatch_of_verb (by simp) (by simp)
  have hshallow : Avoids (IsPatch f) History.isShallow := (Avoids.ask hquery).bind fun _ => Avoids.pure _
  refine (Avoids.ofExcept _).bind fun _ => hshallow.bind fun shallow => (Avoids.log _ _).bind fun _ => ?_
  exact (Avoids.ask (hfetch shallow)).bind fun r => avoids_unless (Avoids.pure _) _ _

theorem avoids_mergeBase (left right : Text) : Avoids (IsPatch f) (History.mergeBase left right) := by
  have hquery : ¬IsPatch f (History.baseQuery left right) := not_isPatch_of_verb (by simp) (by simp)
  refine (Avoids.ask hquery).bind fun r => ?_
  dsimp only
  split
  · exact Avoids.pure _
  · split
    · exact Avoids.pure _
    · exact Avoids.throw _

theorem relayed_build {out err err' : List UInt8} {s : Text} {names warnings : List Text} {strategy : Strategy}
    {base head : Option Text} {r : Except Failure Change} (hout : git h c = .exited 0 out err)
    (hr : Change.build (decodeOutput out) names strategy base head warnings = r)
    (hs : git h c = .exited 0 (Text.encode s) err') (hblank : s.isBlankText = false) : Relayed git h c s calls r := by
  obtain rfl : out = Text.encode s := by
    rw [hout] at hs
    exact (Reply.exited.inj hs).2.1
  rw [decodeOutput_encode] at hr
  cases r with
  | ok change => exact Change.shows_of_build (Text.isBlankText_normalizeBreaks s ▸ hblank) hr
  | error e => exact .inl (History.parse_of_build_eq_error hr)

/-- What a run ends with that has to relay its patches. -/
abbrev EndsRelaying (f : Fetching) (git : Git) (h : List Command) (s : Session Change) : Prop :=
  s.Ends git h (fun change calls => Relays f git calls (.ok change)) (fun e calls => Relays f git calls (.error e))

theorem Session.Avoids.relaying {s : Session Change} (hs : Avoids (IsPatch f) s) (hh : Free (IsPatch f) h) :
    EndsRelaying f git h s := (hs git h hh).mono (fun _ _ hh' => hh'.relays _) fun _ _ hh' => hh'.relays _

theorem Session.Avoids.then_relaying {α : Type} {s : Session α} {k : α → Session Change} (hs : Avoids (IsPatch f) s)
    (hh : Free (IsPatch f) h) (hk : ∀ a h', Free (IsPatch f) h' → EndsRelaying f git h' (k a)) :
    EndsRelaying f git h (s >>= k) := hs.ends_bind hh hk fun _ _ hh' => hh'.relays _

theorem compare_relays (hh : Free (IsPatch f) h) (strategy : Strategy) (base head : Text) (warnings : List Text) :
    EndsRelaying f git h (do
      let (text, names) ← History.compare f base head
      Session.ofExcept (Change.build text names strategy base head warnings)) := by
  have hnames : Free (IsPatch f) [History.namesOf base head] := by
    intro c hc
    rw [List.mem_singleton.mp hc]
    exact not_isPatch_namesOf base head
  refine Ends.bind (Ends.bind (Ends.output (fun out err hout => ?_) fun e hs => hh.relays_unprinted hs))
  refine Ends.bind (Ends.lines (fun names => Ends.pure ?_) fun e hs => ?_)
  · exact Ends.ofExcept (fun _ hc => hh.relays_concat hnames fun _ _ => relayed_build hout hc)
      fun _ he => hh.relays_concat hnames fun _ _ => relayed_build hout he
  · exact hh.relays_concat hnames fun _ _ _ _ => .inr ⟨_, rfl, hs⟩

theorem commitChange_relays (hh : Free (IsPatch f) h) (ref : Text) :
    EndsRelaying f git h (History.commitChange f ref) := by
  refine (avoids_resolveCommit ref).then_relaying hh fun sha h₁ hh₁ => ?_
  refine (avoids_parentOf sha).then_relaying hh₁ fun parent h₂ hh₂ => ?_
  refine (avoids_ensureCommit parent).then_relaying hh₂ fun _ h₃ hh₃ => ?_
  exact compare_relays hh₃ .commit parent sha []

theorem branchChange_relays (hh : Free (IsPatch f) h) (target head : Text) :
    EndsRelaying f git h (History.branchChange f target head) := by
  refine (avoids_ensureBranch target).then_relaying hh fun tracking h₁ hh₁ => ?_
  refine (avoids_resolveCommit head).then_relaying hh₁ fun sha h₂ hh₂ => ?_
  refine (avoids_tipOf tracking).then_relaying hh₂ fun tip h₃ hh₃ => ?_
  refine (avoids_mergeBase tip sha).then_relaying hh₃ fun base h₄ hh₄ => ?_
  cases base with
  | some base => exact compare_relays hh₄ .mergeBase base sha []
  | none => exact Ends.bind (Ends.log (compare_relays hh₄ .twoPoint tip sha _))

theorem collect_relays (t : FileTree) (root : Path) (hh : Free (IsPatch f) h) :
    EndsRelaying f git h (Worktree.collect t root f.contextLines) := by
  have hstaged : Avoids (IsPatch f) Worktree.stagedFiles := Avoids.lines (not_isPatch_diff (by simp [Text.concat]))
  have hunstaged : Avoids (IsPatch f) Worktree.unstagedFiles := Avoids.lines (not_isPatch_diff (by simp))
  have hedits : ¬IsPatch f (Worktree.diffCommand ++ [Text.concat ["-U", Text.ofNat f.contextLines]]) :=
    not_isPatch_diff (by simp)
  have huntracked : Avoids (IsPatch f) Worktree.untrackedFiles :=
    (Avoids.output (not_isPatch_of_verb (by simp [History.verb]) (by simp [History.verb]))).bind fun _ => Avoids.pure _
  refine hstaged.then_relaying hh fun staged h₁ hh₁ => ?_
  cases staged with
  | cons name names =>
    refine Ends.bind (Ends.log (Ends.bind (Ends.output (fun out err hout => ?_) fun e hs => hh₁.relays_unprinted hs)))
    exact Ends.ofExcept (fun _ hc => hh₁.relays_last fun _ _ => relayed_build hout hc)
      fun _ he => hh₁.relays_last fun _ _ => relayed_build hout he
  | nil =>
    rw [if_neg (by decide)]
    refine Avoids.relaying ?_ hh₁
    refine hunstaged.bind fun unstaged => huntracked.bind fun untracked => avoids_unless ?_ _ _
    refine (Avoids.log _ _).bind fun _ => ?_
    have hrest : ∀ text : Text, Avoids (IsPatch f) (do
        let (added, shown) ← Session.ofExcept (Change.ofFiles t root (untracked.map fun n => root.join (.ofText n)))
        Session.ofExcept (Change.build (Worktree.closeLine text ++ added) (unstaged ++ shown) .unstaged "index".toList
          "worktree".toList [])) := fun text => (Avoids.ofExcept _).bind fun _ => Avoids.ofExcept _
    dsimp only
    split
    · exact (Avoids.pure []).bind hrest
    · exact (Avoids.output hedits).bind hrest

theorem change_relays (t : FileTree) (root : Path) (settings : Settings) (scope : Scope) (git : Git) :
    Relays settings.fetching git ((scope.change t root settings).start git).2.calls
      ((scope.change t root settings).start git).1 := by
  have hnil : Free (IsPatch settings.fetching) [] := fun _ hc => absurd hc List.not_mem_nil
  refine Ends.start (Q := fun r calls => Relays settings.fetching git calls r) ?_
  cases scope with
  | pullRequest source target number title =>
    refine (Avoids.ofExcept _).then_relaying hnil fun target h hh => ?_
    exact Ends.bind (Ends.log (branchChange_relays hh target "HEAD"))
  | commit ref =>
    refine (Avoids.ofExcept _).then_relaying hnil fun ref h hh => ?_
    exact Ends.bind (Ends.log (commitChange_relays hh ref))
  | worktree => exact collect_relays (f := settings.fetching) t root hnil
  | paths kind names => exact (Avoids.ofExcept _).relaying hnil

/-- The patch of a review is shown with line feeds for its carriage returns, so that it is what git wrote exactly when
it has none. Nothing else keeps it from being shown but that it cannot be read, or that git does not do what it is called
for next. -/
theorem Scope.patch_shown (t : FileTree) (root : Path) (settings : Settings) (scope : Scope) (git : Git)
    {h : List Command} {c : Command} {patch : Text} {err : List UInt8}
    (hi : Issued ((scope.change t root settings).start git).2.calls h c) (hc : IsPatch settings.fetching c)
    (hout : git h c = .exited 0 (Text.encode patch) err) (hblank : patch.isBlankText = false) :
    (∀ change, ((scope.change t root settings).start git).1 = .ok change →
      change.Shows (Text.normalizeBreaks patch) ∧ (change.Shows patch ↔ '\r' ∉ patch)) ∧
    ∀ e, ((scope.change t root settings).start git).1 = .error e →
      Diff.parse (Text.normalizeBreaks patch) = .error e ∨ ∃ next,
        ((scope.change t root settings).start git).2.calls = h ++ [c] ++ [next] ∧ ¬git.Succeeds (h ++ [c]) next := by
  have hrelayed := change_relays t root settings scope git h c patch err hi hc hout hblank
  refine ⟨fun change hr => ?_, fun e hr => ?_⟩
  · rw [hr] at hrelayed
    refine ⟨hrelayed, fun hshows => ?_, fun hreturn => ?_⟩
    · exact Text.normalizeBreaks_eq_self_iff.mp (hrelayed.text.symm.trans hshows.text)
    · exact Text.normalizeBreaks_of_notMem hreturn ▸ hrelayed
  · rw [hr] at hrelayed
    exact hrelayed

/-- A clone with one staged file, whose patch is given. -/
def stagedGit (patch : Text) : Git := fun _ c =>
  .exited 0 (Text.encode (if c = Worktree.stagedPatch 200 then patch else "x\n".toList)) []

def stagedNames : Command := Worktree.diffCommand ++ ["--cached".toList, "--name-only".toList]

def stagedRun (patch : Text) : Except Failure Change × Trace :=
  (Scope.worktree.change (.dir []) .root {}).start (stagedGit patch)

def plainPatch : Text := "diff --git a/x b/x\n--- a/x\n+++ b/x\n@@ -1,1 +1,1 @@\n-a\n+b\n"

theorem Scope.patch_shown_sample : ∃ change, (stagedRun plainPatch).1 = .ok change ∧ change.Shows plainPatch := by
  have hcalls : (stagedRun plainPatch).2.calls = [stagedNames] ++ [Worktree.stagedPatch 200] := by decide +kernel
  have hi : Issued (stagedRun plainPatch).2.calls [stagedNames] (Worktree.stagedPatch 200) :=
    hcalls ▸ List.prefix_rfl
  have hsome : (stagedRun plainPatch).1.toOption.isSome = true := by decide +kernel
  obtain ⟨change, hchange⟩ : ∃ change, (stagedRun plainPatch).1 = .ok change :=
    ⟨_, eq_ok_of_isSome hsome ⟨[], [], .staged, none, none, []⟩⟩
  have hout : stagedGit plainPatch [stagedNames] (Worktree.stagedPatch 200) = .exited 0 (Text.encode plainPatch) [] := by
    rw [stagedGit, if_pos rfl]
  have hshown := (Scope.patch_shown (.dir []) .root {} .worktree (stagedGit plainPatch) hi (.inr rfl) hout
    (by decide +kernel)).1 change hchange
  exact ⟨change, hchange, hshown.2.mpr (by decide +kernel)⟩

/-- A file `x` gets a line with a carriage return, behind which a line that introduces a section could stand. -/
def crossedPatch : Text :=
  "diff --git a/x b/x\n--- a/x\n+++ b/x\n@@ -1,1 +1,1 @@\n-a\n+b\rdiff --git a/y b/y\n"

theorem not_shows_crossedPatch :
    (Diff.parse crossedPatch).toOption.map (fun d => (d.changedFiles, d.lines)) =
        some (["x".toList], ["-a".toList, "+b\rdiff --git a/y b/y".toList]) ∧
      (stagedRun crossedPatch).2.calls = [stagedNames, Worktree.stagedPatch 200] ∧
      stagedGit crossedPatch [stagedNames] (Worktree.stagedPatch 200) = .exited 0 (Text.encode crossedPatch) [] ∧
      ∃ change, (stagedRun crossedPatch).1 = .ok change ∧ change.text ≠ crossedPatch ∧
        change.files = ["x".toList, "y".toList] ∧ ¬change.Shows crossedPatch := by
  have hrun : (stagedRun crossedPatch).1.toOption.map (fun change => (change.text != crossedPatch, change.files)) =
      some (true, ["x".toList, "y".toList]) := by decide +kernel
  refine ⟨by decide +kernel, by decide +kernel, by rw [stagedGit, if_pos rfl], ?_⟩
  cases hr : (stagedRun crossedPatch).1 with
  | error e =>
    rw [hr] at hrun
    cases hrun
  | ok change =>
    rw [hr] at hrun
    obtain ⟨htext, hfiles⟩ := Prod.mk.inj (Option.some.inj hrun)
    have hne : change.text ≠ crossedPatch := bne_iff_ne.mp htext
    exact ⟨change, rfl, hne, hfiles, fun hshows => hne hshows.text⟩

end RuleReview
