import RuleReview.Proofs.Git.Commits

/-! # Commits fetched on demand

A clone may lack the commit that is reviewed, or its parent. Where the probes of git follow a set of commits that are
there, a commit is fetched only when it is one of the two and a probe has just reported it missing, and once at most; a
fetch that does not bring it ends the run; and trees are compared only after both commits were found. A run fails only
where the ref, git or the commit gives a reason.

Each call is judged by the calls before it. The invariant of a run (`Careful`) is kept by a call that is no fetch and by
a fetch with the probe after it; a run that fails stops at the first call that would break it.
-/
namespace RuleReview.History
open Session
variable {f : Fetching} {git : Git} {present : List Command → Text → Prop} {h h' calls : List Command} {c : Command}
  {x y ref sha parent : Text} {e : Failure} {r : Except Failure Change}

/-- The probes of git follow a set of commits that are there. Calls may add to the set, but take nothing from it. -/
structure Keeps (git : Git) (present : List Command → Text → Prop) : Prop where
  probed : ∀ {h x code out err}, git h (probe x) = .exited code out err → (code = 0 ↔ present h x)
  kept : ∀ {h x} (c : Command), present h x → present (h ++ [c]) x

/-- The last probe of a commit found it. -/
def LastFound (git : Git) (h : List Command) (x : Text) : Prop :=
  ∃ before after, h = before ++ probe x :: after ∧ probe x ∉ after ∧ git.Succeeds before (probe x)

/-- The last call is a probe that reported a commit missing. -/
def JustMissed (git : Git) (h : List Command) (x : Text) : Prop :=
  ∃ before, h = before ++ [probe x] ∧ git.Refuses before (probe x)

/-- Git has resolved the ref to `sha`. -/
def Resolved (git : Git) (h : List Command) (ref sha : Text) : Prop :=
  ∃ before, Issued h before (tip ref) ∧ git.Prints before (tip ref) sha

/-- The commit object of `sha` was read and names `parent` first. -/
def NamesParent (git : Git) (h : List Command) (sha parent : Text) : Prop :=
  ∃ before out err, Issued h before (object sha) ∧ git before (object sha) = .exited 0 out err ∧
    firstParent (decodeOutput out).boundedLines = .ok (some parent)

/-- The commits that a comparison needs: the one that the ref stands for, and its first parent once that is read. -/
inductive Needed (git : Git) (ref sha parent : Text) (h : List Command) : Text → Prop
  | named : Ref.isSha ref = true → sha = ref → Needed git ref sha parent h sha
  | resolved : Resolved git h ref sha → Needed git ref sha parent h sha
  | parent : Resolved git h ref sha → NamesParent git h sha parent → Needed git ref sha parent h parent

/-- A fetch is due when it gets one needed commit that was just reported missing, was not fetched before and was not
there from the start. -/
def Due (f : Fetching) (git : Git) (present : List Command → Text → Prop) (ref sha parent : Text) (h : List Command)
    (c : Command) : Prop :=
  ∃ x, c = fetchOne f x ∧ Needed git ref sha parent h x ∧ JustMissed git h x ∧ c ∉ h ∧ ¬present [] x

/-- A call compares the commit with its parent after both were found. -/
def Comparable (f : Fetching) (git : Git) (sha parent : Text) (h : List Command) (c : Command) : Prop :=
  (c = patchOf f parent sha ∨ c = namesOf parent sha) ∧ LastFound git h sha ∧ LastFound git h parent

/-- Every call to fetch is due, and every comparison is made with both commits at hand. -/
structure Warranted (f : Fetching) (git : Git) (present : List Command → Text → Prop) (ref sha parent : Text)
    (calls : List Command) : Prop where
  fetched : ∀ h c, Issued calls h c → IsFetch c → Due f git present ref sha parent h c
  compared : ∀ h c, Issued calls h c → IsTreeDiff c → Comparable f git sha parent h c

/-- Why a run fails that compares the commit `sha` with `parent`. -/
inductive Explained (f : Fetching) (git : Git) (ref sha parent : Text) (e : Failure) : List Command → Prop
  | invalid : Ref.validate ref = .error e → Explained f git ref sha parent e []
  | stopped {h : List Command} {c : Command} : Stops f git h c → Explained f git ref sha parent e (h ++ [c])
  | noParent {h : List Command} {out err : List UInt8} : git h (object sha) = .exited 0 out err →
      firstParent (decodeOutput out).boundedLines = .error e ∨
        firstParent (decodeOutput out).boundedLines = .ok none ∧ e = .rootCommit sha →
      Explained f git ref sha parent e (h ++ [object sha])
  | uncompared {h calls : List Command} : Uncompared f git h parent sha e calls →
      Explained f git ref sha parent e calls

/-- What a run owes that compares the commit `sha` with `parent`, by its result and its calls. -/
structure OnDemand (f : Fetching) (git : Git) (present : List Command → Text → Prop) (ref sha parent : Text)
    (r : Except Failure Change) (calls : List Command) : Prop
    extends Warranted f git present ref sha parent calls where
  /-- A fetch that git refuses is the last call. -/
  refused : ∀ h x, Issued calls h (fetchOne f x) → git.Refuses h (fetchOne f x) →
    calls = h ++ [fetchOne f x] ∧ ∃ detail, r = .error (.fetch x detail)
  /-- So is the probe after a fetch when it still reports the commit missing. -/
  missing : ∀ h x, Issued calls h (fetchOne f x) → git.Succeeds h (fetchOne f x) →
    git.Refuses (h ++ [fetchOne f x]) (probe x) →
    calls = h ++ [fetchOne f x] ++ [probe x] ∧ ∃ detail, r = .error (.fetch x detail)
  failed : ∀ e, r = .error e → Explained f git ref sha parent e calls
  returned : ∀ change, r = .ok change → change.base = some parent ∧ change.head = some sha ∧
    ∃ h, calls = h ++ [patchOf f parent sha] ++ [namesOf parent sha] ∧ Resolved git h ref sha ∧
      NamesParent git h sha parent

/-- Every fetch was carried out, and the probe after it found its commit. -/
def Settled (f : Fetching) (git : Git) (calls : List Command) : Prop :=
  ∀ h x, Issued calls h (fetchOne f x) → git.Succeeds h (fetchOne f x) ∧
    Issued calls (h ++ [fetchOne f x]) (probe x) ∧ git.Succeeds (h ++ [fetchOne f x]) (probe x)

/-- What holds of the calls of a run as long as it goes on. -/
structure Careful (f : Fetching) (git : Git) (present : List Command → Text → Prop) (ref sha parent : Text)
    (calls : List Command) : Prop extends Warranted f git present ref sha parent calls where
  settled : Settled f git calls

section Evidence

theorem Keeps.present_of_prefix (hgit : Keeps git present) (hx : present h x) (hp : h <+: h') : present h' x := by
  obtain ⟨more, rfl⟩ := hp
  induction more generalizing h with
  | nil => simpa using hx
  | cons c more ih => simpa using ih (hgit.kept c hx)

theorem Keeps.present_of_succeeds (hgit : Keeps git present) (hs : git.Succeeds h (probe x)) : present h x := by
  obtain ⟨out, err, h0⟩ := hs
  exact (hgit.probed h0).mp rfl

theorem Keeps.not_present (hgit : Keeps git present) (hr : git.Refuses h (probe x)) : ¬present h x := by
  obtain ⟨code, out, err, hc, hne⟩ := hr
  exact fun hx => hne ((hgit.probed hc).mpr hx)

theorem lastFound_probe (hs : git.Succeeds h (probe x)) : LastFound git (h ++ [probe x]) x :=
  ⟨h, [], rfl, List.not_mem_nil, hs⟩

theorem LastFound.concat (hx : LastFound git h x) (hc : c ≠ probe x) : LastFound git (h ++ [c]) x := by
  obtain ⟨before, after, rfl, hlast, hs⟩ := hx
  refine ⟨before, after ++ [c], by simp, ?_, hs⟩
  simp [hlast, hc.symm]

theorem Ensured.lastFound (hx : Ensured f git h x h') : LastFound git h' x := by
  cases hx with
  | there hs => exact lastFound_probe hs
  | fetched _ _ hs => exact lastFound_probe hs

theorem LastFound.ensured (hy : LastFound git h y) (hx : Ensured f git h x h') : LastFound git h' y := by
  by_cases hxy : x = y
  · exact hxy ▸ hx.lastFound
  have hprobe : probe x ≠ probe y := by simpa using hxy
  cases hx with
  | there => exact hy.concat hprobe
  | fetched => exact ((hy.concat hprobe).concat (ne_of_verb (by simp))).concat hprobe

theorem Ensured.isPrefix (hx : Ensured f git h x h') : h <+: h' := by
  obtain ⟨between, rfl, _⟩ := hx.prepared
  exact List.prefix_append h between

theorem Resolved.of_prefix (hs : Resolved git h ref sha) (hp : h <+: h') : Resolved git h' ref sha := by
  obtain ⟨before, hi, hprint⟩ := hs
  exact ⟨before, hi.trans hp, hprint⟩

theorem NamesParent.of_prefix (hs : NamesParent git h sha parent) (hp : h <+: h') : NamesParent git h' sha parent := by
  obtain ⟨before, out, err, hi, hprint⟩ := hs
  exact ⟨before, out, err, hi.trans hp, hprint⟩

theorem Needed.of_prefix (hx : Needed git ref sha parent h x) (hp : h <+: h') : Needed git ref sha parent h' x := by
  cases hx with
  | named hsha href => exact .named hsha href
  | resolved hs => exact .resolved (hs.of_prefix hp)
  | parent hs hn => exact .parent (hs.of_prefix hp) (hn.of_prefix hp)

end Evidence

section Invariant

theorem Warranted.concat (hw : Warranted f git present ref sha parent calls)
    (hf : IsFetch c → Due f git present ref sha parent calls c)
    (hd : IsTreeDiff c → Comparable f git sha parent calls c) : Warranted f git present ref sha parent (calls ++ [c]) :=
  ⟨forall_issued_concat.mpr ⟨hw.fetched, hf⟩, forall_issued_concat.mpr ⟨hw.compared, hd⟩⟩

theorem Warranted.probe (hw : Warranted f git present ref sha parent calls) :
    Warranted f git present ref sha parent (calls ++ [probe x]) :=
  hw.concat (by simp [IsFetch]) (by simp [IsTreeDiff])

theorem Warranted.fetch (hw : Warranted f git present ref sha parent calls)
    (hdue : Due f git present ref sha parent calls (fetchOne f x)) :
    Warranted f git present ref sha parent (calls ++ [fetchOne f x]) :=
  hw.concat (fun _ => hdue) (by simp [IsTreeDiff])

theorem Settled.concat (hs : Settled f git calls) (hc : ¬IsFetch c) : Settled f git (calls ++ [c]) := by
  intro h x hi
  have hne : fetchOne f x ≠ c := fun hcx => hc (hcx ▸ verb_fetchOne)
  obtain ⟨hdone, hprobe, hfound⟩ := hs h x (hi.of_concat hne)
  exact ⟨hdone, hprobe.append [c], hfound⟩

theorem issued_fetchOne (hi : Issued (h ++ [fetchOne f x]) h' (fetchOne f y)) :
    Issued h h' (fetchOne f y) ∨ h' = h ∧ y = x := by
  simpa [issued_concat] using hi

theorem Settled.fetch (hs : Settled f git h) (hdone : git.Succeeds h (fetchOne f x))
    (hfound : git.Succeeds (h ++ [fetchOne f x]) (probe x)) :
    Settled f git (h ++ [fetchOne f x] ++ [probe x]) := by
  intro h' y hi
  rcases issued_fetchOne (hi.of_concat (ne_of_verb (by simp))) with hi | ⟨rfl, rfl⟩
  · obtain ⟨hdone', hprobe, hfound'⟩ := hs h' y hi
    exact ⟨hdone', (hprobe.append _).append _, hfound'⟩
  · exact ⟨hdone, List.prefix_refl _, hfound⟩

theorem Settled.present_of_mem (hs : Settled f git h) (hgit : Keeps git present) (hx : fetchOne f x ∈ h) :
    present h x := by
  obtain ⟨before, hi⟩ := issued_of_mem hx
  obtain ⟨_, hprobe, hfound⟩ := hs before x hi
  exact hgit.present_of_prefix (hgit.present_of_succeeds hfound) hprobe.isPrefix

namespace Careful

theorem nil : Careful f git present ref sha parent [] where
  fetched _ _ hi := absurd hi not_issued_nil
  compared _ _ hi := absurd hi not_issued_nil
  settled _ _ hi := absurd hi not_issued_nil

theorem concat (hk : Careful f git present ref sha parent calls) (hc : ¬IsFetch c)
    (hd : IsTreeDiff c → Comparable f git sha parent calls c) : Careful f git present ref sha parent (calls ++ [c]) :=
  ⟨hk.toWarranted.concat (fun hf => absurd hf hc) hd, hk.settled.concat hc⟩

theorem probe (hk : Careful f git present ref sha parent calls) :
    Careful f git present ref sha parent (calls ++ [probe x]) :=
  ⟨hk.toWarranted.probe, hk.settled.concat (by simp [IsFetch])⟩

/-- A needed commit that a probe reports missing was never fetched, so that a fetch of it is due. -/
theorem due (hk : Careful f git present ref sha parent h) (hgit : Keeps git present)
    (hx : Needed git ref sha parent h x) (hr : git.Refuses h (History.probe x)) :
    Due f git present ref sha parent (h ++ [History.probe x]) (fetchOne f x) := by
  have habsent : ¬present h x := hgit.not_present hr
  refine ⟨x, rfl, hx.of_prefix (List.prefix_append _ _), ⟨h, rfl, hr⟩, ?_, fun hstart => ?_⟩
  · have hnew : fetchOne f x ∉ h := fun hmem => habsent (hk.settled.present_of_mem hgit hmem)
    simpa [fetchOne, History.probe] using hnew
  · exact habsent (hgit.present_of_prefix hstart List.nil_prefix)

theorem ensured (hk : Careful f git present ref sha parent h) (hgit : Keeps git present)
    (hx : Needed git ref sha parent h x) (hh : Ensured f git h x h') : Careful f git present ref sha parent h' := by
  cases hh with
  | there => exact hk.probe
  | fetched hr hdone hfound =>
    exact ⟨(hk.toWarranted.probe.fetch (hk.due hgit hx hr)).probe, hk.probe.settled.fetch hdone hfound⟩

/-- A run that ends where all fetches have brought their commits owes a reason or the two sides. -/
theorem onDemand (hk : Careful f git present ref sha parent calls)
    (hfailed : ∀ e, r = .error e → Explained f git ref sha parent e calls)
    (hreturned : ∀ change, r = .ok change → change.base = some parent ∧ change.head = some sha ∧
      ∃ h, calls = h ++ [patchOf f parent sha] ++ [namesOf parent sha] ∧ Resolved git h ref sha ∧
        NamesParent git h sha parent) : OnDemand f git present ref sha parent r calls where
  toWarranted := hk.toWarranted
  refused h x hi hr := absurd hr (hk.settled h x hi).1.not_refuses
  missing h x hi _ hr := absurd hr (hk.settled h x hi).2.2.not_refuses
  failed := hfailed
  returned := hreturned

theorem onDemand_error (hk : Careful f git present ref sha parent calls)
    (he : Explained f git ref sha parent e calls) : OnDemand f git present ref sha parent (.error e) calls :=
  hk.onDemand (fun _ hr => by cases hr; exact he) fun _ hr => by cases hr

/-- A run that cannot make sure of a needed commit ends with the call that tells, as it owes. -/
theorem onDemand_unensured (hk : Careful f git present ref sha parent h) (hgit : Keeps git present)
    (hx : Needed git ref sha parent h x) (hh : Unensured f git h x e h') :
    OnDemand f git present ref sha parent (.error e) h' := by
  have hexplained (e' : Failure) : Explained f git ref sha parent e' h' := by
    obtain ⟨p, c, rfl, hstops, _⟩ := hh.stops
    exact .stopped hstops
  have hsettled : Settled f git (h ++ [History.probe x]) := hk.probe.settled
  cases hh with
  | unprobed => exact hk.probe.onDemand_error (hexplained e)
  | unfetched hr hfailed he =>
    have hwarranted := hk.toWarranted.probe.fetch (hk.due hgit hx hr)
    refine ⟨hwarranted, ?_, ?_, fun e' _ => hexplained e', fun _ hr => by cases hr⟩
    · intro p y hi hrefused
      rcases issued_fetchOne hi with hi | ⟨rfl, rfl⟩
      · exact absurd hrefused (hsettled p y hi).1.not_refuses
      · exact ⟨rfl, (he hrefused.exits).imp fun _ he => congrArg _ he⟩
    · intro p y hi hdone hmissing
      rcases issued_fetchOne hi with hi | ⟨rfl, rfl⟩
      · exact absurd hmissing (hsettled p y hi).2.2.not_refuses
      · exact absurd hdone hfailed
  | unfound hr hdone hfailed he =>
    have hwarranted := (hk.toWarranted.probe.fetch (hk.due hgit hx hr)).probe (x := x)
    refine ⟨hwarranted, ?_, ?_, fun e' _ => hexplained e', fun _ hr => by cases hr⟩
    · intro p y hi hrefused
      rcases issued_fetchOne (hi.of_concat (ne_of_verb (by simp))) with hi | ⟨rfl, rfl⟩
      · exact absurd hrefused (hsettled p y hi).1.not_refuses
      · exact absurd hrefused hdone.not_refuses
    · intro p y hi _ hmissing
      rcases issued_fetchOne (hi.of_concat (ne_of_verb (by simp))) with hi | ⟨rfl, rfl⟩
      · exact absurd hmissing (hsettled p y hi).2.2.not_refuses
      · exact ⟨rfl, (he hmissing.exits).imp fun _ he => congrArg _ he⟩

end Careful

end Invariant

/-- What is known once the commit is at hand and its parent is read. -/
structure ParentRead (f : Fetching) (git : Git) (present : List Command → Text → Prop) (ref sha parent : Text)
    (calls : List Command) : Prop extends Careful f git present ref sha parent calls where
  resolved : Resolved git calls ref sha
  named : NamesParent git calls sha parent
  found : LastFound git calls sha

section Run
variable (hgit : Keeps git present)
include hgit

theorem Ready.careful (hsha : Ref.isSha ref = true → sha = ref) (hh : Ready f git [] ref h') :
    Careful f git present ref sha parent h' := by
  cases hh with
  | name => exact .nil
  | there => exact Careful.nil.probe
  | ensured hid _ hh =>
    obtain rfl := hsha hid
    exact Careful.nil.probe.ensured hgit (.named hid rfl) hh

theorem Unready.onDemand (hh : Unready f git [] ref e h') : OnDemand f git present ref ref parent (.error e) h' := by
  cases hh with
  | unprobed hid hnone => exact Careful.nil.onDemand_unensured hgit (.named hid rfl) (.unprobed e hnone)
  | unensured hid _ hh => exact Careful.nil.probe.onDemand_unensured hgit (.named hid rfl) hh

/-- A ref that is the full id of a commit is resolved to itself, so that what was fetched is the commit. -/
theorem ends_resolveCommit_careful
    (hfull : Ref.isSha ref = true → ∀ h sha, git.Prints h (tip ref) sha → sha = ref) :
    (resolveCommit f ref).Ends git []
      (fun sha calls => Resolved git calls ref sha ∧ ∀ parent, Careful f git present ref sha parent calls)
      (fun e calls => ∀ parent, OnDemand f git present ref ref parent (.error e) calls) := by
  have htip {sha parent : Text} (h : List Command) (hk : Careful f git present ref sha parent h) :
      Careful f git present ref sha parent (h ++ [tip ref]) := hk.concat (by simp [IsFetch]) (by simp [IsTreeDiff])
  refine ends_resolveCommit (fun e he parent => Careful.nil.onDemand_error (.invalid he))
    (fun e h' hh parent => hh.onDemand hgit) fun h' hh => ends_tipOf (fun sha hprint => ?_) fun e hnone parent => ?_
  · exact ⟨⟨h', List.prefix_refl _, hprint⟩,
      fun parent => htip h' (hh.careful hgit fun hid => hfull hid h' sha hprint)⟩
  · exact (htip h' (hh.careful hgit fun _ => rfl)).onDemand_error (.stopped (stops_of_verb hnone (by simp)))

theorem ends_parentOf_careful (hs : Resolved git h ref sha)
    (hk : ∀ parent, Careful f git present ref sha parent h) :
    (parentOf f sha).Ends git h (fun parent calls => ParentRead f git present ref sha parent calls)
      (fun e calls => ∃ parent, OnDemand f git present ref sha parent (.error e) calls) := by
  refine Ends.bind (ends_ensureCommit.mono (fun _ h' hh => ?_) fun e h' hh => ?_)
  swap
  · exact ⟨[], (hk []).onDemand_unensured hgit (.resolved hs) hh⟩
  have hs' : Resolved git (h' ++ [object sha]) ref sha := hs.of_prefix (hh.isPrefix.trans (List.prefix_append _ _))
  have hobject (x : Text) : object sha ≠ probe x := by simp [object, probe]
  have hfound : LastFound git (h' ++ [object sha]) sha := hh.lastFound.concat (hobject sha)
  have hk' (parent : Text) : Careful f git present ref sha parent (h' ++ [object sha]) :=
    ((hk parent).ensured hgit (.resolved hs) hh).concat (by simp [IsFetch]) (by simp [IsTreeDiff])
  refine Ends.bind (Ends.output (fun out err hout => ?_) fun e hnone => ?_)
  swap
  · exact ⟨[], (hk' []).onDemand_error (.stopped ⟨hnone, fun x hx => absurd hx (hobject x)⟩)⟩
  refine Ends.bind (Ends.ofExcept (fun parent? hparent => ?_) fun e he => ?_)
  swap
  · exact ⟨[], (hk' []).onDemand_error (.noParent hout (.inl he))⟩
  cases parent? with
  | none => exact Ends.throw ⟨[], (hk' []).onDemand_error (.noParent hout (.inr ⟨hparent, rfl⟩))⟩
  | some parent =>
    exact Ends.pure ⟨hk' parent, hs', ⟨h', out, err, List.prefix_refl _, hout, hparent⟩, hfound⟩

end Run

theorem ParentRead.careful_diffs (hp : ParentRead f git present ref sha parent h) (hfound : LastFound git h parent) :
    Careful f git present ref sha parent (h ++ [patchOf f parent sha]) ∧
      Careful f git present ref sha parent (h ++ [patchOf f parent sha] ++ [namesOf parent sha]) := by
  have hpatch (x : Text) : patchOf f parent sha ≠ probe x := ne_of_verb (by simp)
  have hk : Careful f git present ref sha parent (h ++ [patchOf f parent sha]) :=
    hp.toCareful.concat (by simp [IsFetch]) fun _ => ⟨.inl rfl, hp.found, hfound⟩
  refine ⟨hk, hk.concat (by simp [IsFetch]) fun _ => ⟨.inr rfl, ?_, ?_⟩⟩
  · exact hp.found.concat (hpatch sha)
  · exact hfound.concat (hpatch parent)

/-- In every run the commit and its parent are fetched on demand, and the change that is returned compares them. -/
theorem commitChange_onDemand (hgit : Keeps git present)
    (hfull : Ref.isSha ref = true → ∀ h sha, git.Prints h (tip ref) sha → sha = ref) (f : Fetching) :
    ∃ sha parent, OnDemand f git present ref sha parent
      ((commitChange f ref).start git).1 ((commitChange f ref).start git).2.calls := by
  refine Ends.start (Q := fun r calls => ∃ sha parent, OnDemand f git present ref sha parent r calls) ?_
  refine Ends.bind ((ends_resolveCommit_careful hgit hfull).mono (fun sha h₁ hres => ?_)
    fun e h₁ he => ⟨ref, [], he []⟩)
  refine Ends.bind ((ends_parentOf_careful hgit hres.1 hres.2).mono (fun parent h₂ hp => ?_)
    fun e h₂ he => ⟨sha, he⟩)
  have hneeded : Needed git ref sha parent h₂ parent := .parent hp.resolved hp.named
  refine Ends.bind (ends_ensureCommit.mono (fun _ h₃ hh => ?_)
    fun e h₃ hh => ⟨sha, parent, hp.onDemand_unensured hgit hneeded hh⟩)
  have hp' : ParentRead f git present ref sha parent h₃ := ⟨hp.toCareful.ensured hgit hneeded hh,
    hp.resolved.of_prefix hh.isPrefix, hp.named.of_prefix hh.isPrefix, hp.found.ensured hh⟩
  obtain ⟨hpatch, hnames⟩ := hp'.careful_diffs hh.lastFound
  refine (ends_compare f git h₃ .commit parent sha []).mono (fun change h₄ hc => ⟨sha, parent, ?_⟩)
    fun e h₄ hcalls => ⟨sha, parent, ?_⟩
  · obtain ⟨rfl, -, hbase, hhead, -⟩ := hc
    refine hnames.onDemand (fun _ hr => by cases hr) ?_
    rintro _ ⟨⟩
    exact ⟨hbase, hhead, h₃, rfl, hp'.resolved, hp'.named⟩
  · have hexplained : Explained f git ref sha parent e h₄ := .uncompared hcalls
    cases hcalls with
    | patch => exact hpatch.onDemand_error hexplained
    | names => exact hnames.onDemand_error hexplained
    | unreadable => exact hnames.onDemand_error hexplained

/-- A clone that has the commit `aaaa`, but gets its parent `bbbb` only from a fetch. -/
def shallowGit : Git := fun h c =>
  if c = probe "bbbb" then .exited (if fetchOne {} "bbbb" ∈ h then 0 else 1) [] []
  else if c = tip "aaaa" then .exited 0 (Text.encode "aaaa\n") []
  else if c = object "aaaa" then .exited 0 (Text.encode "tree cccc\nparent bbbb\n\nparent dddd\n") []
  else .exited 0 [] []

theorem keeps_shallowGit : Keeps shallowGit fun h x => x = "bbbb".toList → fetchOne {} "bbbb" ∈ h where
  probed {h x code out err} hc := by
    by_cases hx : x = "bbbb".toList
    · rw [hx, shallowGit, if_pos rfl] at hc
      cases hc
      simp only [ite_eq_left_iff, Int.one_ne_zero, imp_false, Classical.not_not, hx, forall_const]
    · rw [shallowGit, if_neg (by simpa using hx), if_neg (by simp [probe, tip]),
        if_neg (by simp [probe, object])] at hc
      cases hc
      exact iff_of_true rfl fun h => absurd h hx
  kept c hx h := List.mem_append_left _ (hx h)

theorem prints_shallowGit {sha : Text} (hprint : shallowGit.Prints h (tip "aaaa") sha) : sha = "aaaa".toList := by
  obtain ⟨out, err, hc, rfl⟩ := hprint
  rw [shallowGit, if_neg (by simp [probe, tip]), if_pos rfl] at hc
  cases hc
  decide +kernel

theorem commitChange_shallowGit :
    (∃ sha parent, OnDemand {} shallowGit (fun h x => x = "bbbb".toList → fetchOne {} "bbbb" ∈ h) "aaaa" sha parent
      ((commitChange {} "aaaa").start shallowGit).1 ((commitChange {} "aaaa").start shallowGit).2.calls) ∧
    ((commitChange {} "aaaa").start shallowGit).2.calls =
      [probe "aaaa", tip "aaaa", probe "aaaa", object "aaaa", probe "bbbb", fetchOne {} "bbbb", probe "bbbb",
        patchOf {} "bbbb" "aaaa", namesOf "bbbb" "aaaa"] ∧
    ((commitChange {} "aaaa").start shallowGit).1.toOption.map (fun c => (c.base, c.head)) =
      some (some "bbbb".toList, some "aaaa".toList) :=
  ⟨commitChange_onDemand keeps_shallowGit (fun _ _ _ hprint => prints_shallowGit hprint) {}, by decide +kernel,
    by decide +kernel⟩

end RuleReview.History
