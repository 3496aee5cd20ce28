import RuleReview.Proofs.Git.Commits

/-! # The sides of a branch

A head is compared with its merge base with a target branch, or with the tip of the branch when git reports that there
is none. Nothing else is ever compared: a run that returns a change, or that calls for a comparison at all, has fetched
the branch first, has resolved both sides and was told one of the two. In every other case it fails and compares
nothing; and it fails only where a ref is refused, git does not do what it is called for, or the patch cannot be read.
-/
namespace RuleReview.History
open Session
variable {f : Fetching} {git : Git} {h h' calls between : List Command} {c : Command} {shallow : Bool}
  {target head x tipSha sha base : Text} {e : Failure} {strategy : Strategy} {warnings : List Text}

/-- Asks whether the history of the clone is cut off. -/
def shallowQuery : Command := ["rev-parse", "--is-shallow-repository"]

/-- Fetches a branch to its tracking ref. -/
def branchFetch (f : Fetching) (target : Text) (shallow : Bool) : Command :=
  ["fetch".toList, "--no-tags".toList] ++ (if shallow then [Text.concat ["--depth=", Text.ofNat f.depth]] else []) ++
    [f.remote, Text.concat ["+refs/heads/", target, ":", trackingRef f target]]

def baseQuery (left right : Text) : Command := ["merge-base", left, right]

@[simp] theorem verb_shallowQuery : verb shallowQuery = some "rev-parse".toList := rfl
@[simp] theorem verb_branchFetch : verb (branchFetch f target shallow) = some "fetch".toList := rfl
@[simp] theorem verb_baseQuery {left right : Text} : verb (baseQuery left right) = some "merge-base".toList := rfl

/-- The calls that fetch the branch, before either side is resolved. -/
def opening (f : Fetching) (target : Text) (shallow : Bool) : List Command :=
  [shallowQuery] ++ [branchFetch f target shallow]

/-- The calls that resolve both sides. -/
def resolving (f : Fetching) (target head : Text) (shallow : Bool) (between : List Command) : List Command :=
  opening f target shallow ++ between ++ [tip head] ++ [tip (trackingRef f target)]

/-- The branch is fetched, to a limited depth exactly where git says that the clone is shallow. -/
structure Opened (f : Fetching) (git : Git) (target : Text) (shallow : Bool) : Prop where
  accepted : Ref.validate target = .ok target
  depth : shallow = true ↔ git.Prints [] shallowQuery "true".toList
  fetched : git.Succeeds [shallowQuery] (branchFetch f target shallow)

/-- After it both sides are resolved; a head that looks like an id may be probed and fetched before. -/
structure Located (f : Fetching) (git : Git) (target head : Text) (shallow : Bool) (between : List Command)
    (tipSha sha : Text) : Prop extends Opened f git target shallow where
  prepared : ∀ c ∈ between, c = probe head ∨ c = fetchOne f head
  headSide : git.Prints (opening f target shallow ++ between) (tip head) sha
  tipSide : git.Prints (opening f target shallow ++ between ++ [tip head]) (tip (trackingRef f target)) tipSha

/-- What is compared with the head, by what git replies when it is asked for the merge base: the merge base, or the tip
of the branch and a warning when git reports none. -/
inductive Chosen (f : Fetching) (target head tipSha : Text) : Reply → Strategy → Text → List Text → Prop
  | common {out err : List UInt8} : (decodeOutput out).trim ≠ [] →
      Chosen f target head tipSha (.exited 0 out err) .mergeBase (decodeOutput out).trim []
  | tip {code : Int} {out err : List UInt8} : code = 0 ∨ code = 1 → (decodeOutput out).trim = [] →
      Chosen f target head tipSha (.exited code out err) .twoPoint tipSha [noMergeBase f target head]

/-- By the calls `h` it is settled that `sha` is compared with `base`. -/
def Sided (f : Fetching) (git : Git) (target head : Text) (h : List Command) (strategy : Strategy) (base sha : Text)
    (warnings : List Text) : Prop :=
  ∃ shallow between tipSha, Located f git target head shallow between tipSha sha ∧
    h = resolving f target head shallow between ++ [baseQuery tipSha sha] ∧
    Chosen f target head tipSha (git (resolving f target head shallow between) (baseQuery tipSha sha))
      strategy base warnings

/-- Why a run fails that compares a head with a branch. A reply to the question for the merge base is a reason only if
it chooses nothing. -/
inductive Denied (f : Fetching) (git : Git) (target head : Text) (e : Failure) : List Command → Prop
  | target : Ref.validate target = .error e → Denied f git target head e []
  | head {shallow : Bool} : Opened f git target shallow → Ref.validate head = .error e →
      Denied f git target head e (opening f target shallow)
  | stopped {h : List Command} {c : Command} : Stops f git h c →
      (∀ tipSha sha, c = baseQuery tipSha sha → ∀ strategy base warnings,
        ¬Chosen f target head tipSha (git h c) strategy base warnings) →
      Denied f git target head e (h ++ [c])
  | uncompared {h calls : List Command} {strategy : Strategy} {base sha : Text} {warnings : List Text} :
      Sided f git target head h strategy base sha warnings → Uncompared f git h base sha e calls →
      Denied f git target head e calls

/-- What a run owes that compares a head with a branch, by its result and its calls. -/
structure Faithful (f : Fetching) (git : Git) (target head : Text) (r : Except Failure Change) (calls : List Command) :
    Prop where
  /-- Only the two sides are compared, once they are settled. -/
  compared : ∀ h c, Issued calls h c → IsTreeDiff c → ∃ p strategy base sha warnings,
    Sided f git target head p strategy base sha warnings ∧
    (h = p ∧ c = patchOf f base sha ∨ h = p ++ [patchOf f base sha] ∧ c = namesOf base sha)
  failed : ∀ e, r = .error e → Denied f git target head e calls
  /-- A change that is returned says what was compared and how that came. -/
  returned : ∀ change, r = .ok change → ∃ p base sha,
    Sided f git target head p change.strategy base sha change.warnings ∧ change.base = some base ∧
    change.head = some sha ∧ calls = p ++ [patchOf f base sha] ++ [namesOf base sha]

/-- None of the calls compares anything. -/
def Idle (calls : List Command) : Prop := ∀ c ∈ calls, ¬IsTreeDiff c

@[simp] theorem idle_nil : Idle [] := fun _ hc => absurd hc List.not_mem_nil

@[simp] theorem idle_cons : Idle (c :: calls) ↔ ¬IsTreeDiff c ∧ Idle calls := List.forall_mem_cons

theorem idle_append : Idle (calls ++ between) ↔ Idle calls ∧ Idle between := List.forall_mem_append

theorem idle_opening : Idle (opening f target shallow) := by simp [opening, IsTreeDiff]

theorem idle_of_prepared (hb : ∀ c ∈ between, c = probe x ∨ c = fetchOne f x) : Idle between := by
  intro c hc
  rcases hb c hc with rfl | rfl <;> simp [IsTreeDiff]

theorem idle_resolving (hb : ∀ c ∈ between, c = probe head ∨ c = fetchOne f head) :
    Idle (resolving f target head shallow between) := by
  simp [resolving, idle_append, idle_opening, idle_of_prepared hb, IsTreeDiff]

section Rules
variable {fail : Failure → List Command → Prop}

theorem ends_isShallow {ok : Bool → List Command → Prop}
    (hok : ∀ shallow, (shallow = true ↔ git.Prints h shallowQuery "true".toList) →
      ok shallow (h ++ [shallowQuery]))
    (hnone : ∀ e, ¬git.Exits h shallowQuery → fail e (h ++ [shallowQuery])) : isShallow.Ends git h ok fail := by
  refine Ends.bind (Ends.ask (fun code out err hc => Ends.pure (hok _ ?_)) hnone)
  change git h shallowQuery = _ at hc
  simp [Git.Prints, Outcome.ok, hc]

theorem validate_eq_ok {ref r : Text} (hr : Ref.validate ref = .ok r) : Ref.validate ref = .ok ref := by
  rw [Ref.validate] at hr ⊢
  cases hp : Ref.problem? ref with
  | none => rfl
  | some p => simp [hp] at hr

theorem Chosen.exits (hc : Chosen f target head tipSha (git h c) strategy base warnings) : git.Exits h c := by
  generalize hreply : git h c = reply at hc
  cases hc with
  | common => exact ⟨_, _, _, hreply⟩
  | tip => exact ⟨_, _, _, hreply⟩

theorem ends_mergeBase (f : Fetching) (target head : Text) {tipSha sha : Text} {ok : Option Text → List Command → Prop}
    (hcommon : ∀ base, Chosen f target head tipSha (git h (baseQuery tipSha sha)) .mergeBase base [] →
      ok (some base) (h ++ [baseQuery tipSha sha]))
    (hnone : Chosen f target head tipSha (git h (baseQuery tipSha sha)) .twoPoint tipSha [noMergeBase f target head] →
      ok none (h ++ [baseQuery tipSha sha]))
    (hfail : ∀ e, ¬git.Succeeds h (baseQuery tipSha sha) → (∀ strategy base warnings,
      ¬Chosen f target head tipSha (git h (baseQuery tipSha sha)) strategy base warnings) →
      fail e (h ++ [baseQuery tipSha sha])) : (mergeBase tipSha sha).Ends git h ok fail := by
  refine Ends.bind (Ends.ask (fun code out err hc => ?_) fun e hexit => ?_)
  swap
  · exact hfail e (fun hs => hexit hs.exits) fun _ _ _ hchosen => hexit hchosen.exits
  change git h (baseQuery tipSha sha) = _ at hc
  simp only [Outcome.ok, beq_iff_eq, List.isEmpty_iff, Bool.and_eq_true]
  by_cases hcode : code = 0
  · subst hcode
    rw [if_pos rfl]
    by_cases hfound : (decodeOutput out).trim = []
    · rw [if_pos hfound]
      exact Ends.pure (hnone (hc ▸ .tip (.inl rfl) hfound))
    · rw [if_neg hfound]
      exact Ends.pure (hcommon _ (hc ▸ .common hfound))
  rw [if_neg hcode]
  by_cases hone : code = 1 ∧ (decodeOutput out).trim = []
  · rw [if_pos hone]
    exact Ends.pure (hnone (hc ▸ .tip (.inr hone.1) hone.2))
  rw [if_neg hone]
  refine Ends.throw (hfail _ (fun hs => hs.not_refuses ⟨code, out, err, hc, hcode⟩) ?_)
  rw [hc]
  rintro strategy base warnings (_ | ⟨hzero | hcode', hblank⟩)
  · exact hcode rfl
  · exact hcode hzero
  · exact hone ⟨hcode', hblank⟩

end Rules

theorem Sided.idle (hs : Sided f git target head h strategy base sha warnings) : Idle h := by
  obtain ⟨shallow, between, tipSha, hlocated, rfl, -⟩ := hs
  simp [idle_append, idle_resolving hlocated.prepared, IsTreeDiff]

theorem Idle.faithful (hcalls : Idle calls) (he : Denied f git target head e calls) :
    Faithful f git target head (.error e) calls where
  compared _ c hi hc := absurd hc (hcalls c hi.mem)
  failed _ hr := by cases hr; exact he
  returned _ hr := by cases hr

theorem Idle.faithful_stopped (hh : Idle h) (hs : Stops f git h c) (hc : verb c ≠ some "diff-tree".toList)
    (hc' : verb c ≠ some "merge-base".toList) : Faithful f git target head (.error e) (h ++ [c]) := by
  refine (idle_append.mpr ⟨hh, by simpa [IsTreeDiff] using hc⟩).faithful (.stopped hs ?_)
  rintro tipSha sha rfl
  exact absurd rfl hc'

theorem Idle.faithful_unready (hidle : Idle h) (hh : Unready f git h head e h') :
    Faithful f git target head (.error e) h' := by
  obtain ⟨between, hcalls, hb⟩ := hh.prepared
  have hidle' : Idle h' := hcalls ▸ idle_append.mpr ⟨hidle, idle_of_prepared hb⟩
  obtain ⟨p, c, rfl, hstops, hc⟩ := hh.stops
  refine hidle'.faithful (.stopped hstops ?_)
  rintro tipSha sha rfl
  rcases hc with hc | hc <;> exact absurd (congrArg verb hc) (by simp)

theorem ends_ensureBranch : (ensureBranch f target).Ends git []
    (fun tracking calls => ∃ shallow, Opened f git target shallow ∧ calls = opening f target shallow ∧
      tracking = trackingRef f target) (fun e => Faithful f git target head (.error e)) := by
  have hquery : Idle [shallowQuery] := by simp [IsTreeDiff]
  refine Ends.bind (Ends.ofExcept (fun _ hvalid => ?_) fun _ he => idle_nil.faithful (.target he))
  refine Ends.bind (ends_isShallow (fun shallow hshallow => ?_) fun _ hexit => ?_)
  swap
  · exact idle_nil.faithful_stopped (stops_of_verb (fun hs => hexit hs.exits) (by simp)) (by simp) (by simp)
  have hstopped (e : Failure) (hs : ¬git.Succeeds [shallowQuery] (branchFetch f target shallow)) :
      Faithful f git target head (.error e) (opening f target shallow) :=
    hquery.faithful_stopped (stops_of_verb hs (by simp)) (by simp) (by simp)
  refine Ends.bind (Ends.log (Ends.bind (Ends.ask_cases (fun hs r hr => ?_) (fun hn r hr => ?_) fun e hexit => ?_)))
  · rw [hr]
    exact Ends.pure ⟨shallow, ⟨validate_eq_ok hvalid, hshallow, hs⟩, rfl, rfl⟩
  · rw [hr]
    exact Ends.throw (hstopped _ fun hs => hs.not_refuses hn)
  · exact hstopped e fun hs => hexit hs.exits

theorem Sided.compared (hs : Sided f git target head h strategy base sha warnings) :
    ∀ h' c, Issued (h ++ [patchOf f base sha] ++ [namesOf base sha]) h' c → IsTreeDiff c →
      ∃ p strategy base sha warnings, Sided f git target head p strategy base sha warnings ∧
        (h' = p ∧ c = patchOf f base sha ∨ h' = p ++ [patchOf f base sha] ∧ c = namesOf base sha) := by
  simp only [forall_issued_concat]
  refine ⟨⟨fun _ c hi hc => absurd hc (hs.idle c hi.mem), fun _ => ?_⟩, fun _ => ?_⟩
  · exact ⟨h, strategy, base, sha, warnings, hs, .inl ⟨rfl, rfl⟩⟩
  · exact ⟨h, strategy, base, sha, warnings, hs, .inr ⟨rfl, rfl⟩⟩

theorem Sided.ends_compare (hs : Sided f git target head h strategy base sha warnings) :
    (do
      let (text, names) ← compare f base sha
      Session.ofExcept (Change.build text names strategy base sha warnings) : Session Change).Ends git h
      (fun change => Faithful f git target head (.ok change)) (fun e => Faithful f git target head (.error e)) := by
  refine (History.ends_compare f git h strategy base sha warnings).mono (fun change calls hc => ?_)
    fun e calls hcalls => ?_
  · obtain ⟨rfl, rfl, hbase, hhead, rfl⟩ := hc
    refine ⟨hs.compared, fun _ hr => (by cases hr), ?_⟩
    rintro _ ⟨⟩
    exact ⟨h, base, sha, hs, hbase, hhead, rfl⟩
  · refine ⟨fun h' c hi => hs.compared h' c ?_, fun _ hr => ?_, fun _ hr => (by cases hr)⟩
    · cases hcalls with
      | patch => exact hi.append [namesOf base sha]
      | names => exact hi
      | unreadable => exact hi
    · cases hr
      exact .uncompared hs hcalls

/-- Whatever git replies, a comparison with a branch is never replaced by another one. -/
theorem branchChange_faithful (f : Fetching) (git : Git) (target head : Text) :
    Faithful f git target head ((branchChange f target head).start git).1
      ((branchChange f target head).start git).2.calls := by
  refine Ends.start (Q := Faithful f git target head) ?_
  refine Ends.bind (ends_ensureBranch.mono (fun tracking h₁ ho => ?_) fun e h₁ he => he)
  obtain ⟨shallow, hopened, rfl, rfl⟩ := ho
  have hopening : Idle (opening f target shallow) := idle_opening
  refine Ends.bind (ends_resolveCommit (fun e he => hopening.faithful (.head hopened he)) (fun e h₂ hh => ?_)
    fun h₂ hh => ?_)
  · exact hopening.faithful_unready hh
  obtain ⟨between, rfl, hb⟩ := hh.prepared
  have hready : Idle (opening f target shallow ++ between) := idle_append.mpr ⟨hopening, idle_of_prepared hb⟩
  refine ends_tipOf (fun sha hsha => ?_) fun e hnone => ?_
  swap
  · exact hready.faithful_stopped (stops_of_verb hnone (by simp)) (by simp) (by simp)
  have hhead : Idle (opening f target shallow ++ between ++ [tip head]) :=
    idle_append.mpr ⟨hready, by simp [IsTreeDiff]⟩
  refine Ends.bind (ends_tipOf (fun tipSha htip => ?_) fun e hnone => ?_)
  swap
  · exact hhead.faithful_stopped (stops_of_verb hnone (by simp)) (by simp) (by simp)
  have hlocated : Located f git target head shallow between tipSha sha := ⟨hopened, hb, hsha, htip⟩
  refine Ends.bind (ends_mergeBase f target head (fun base hbase => ?_) (fun hnone => ?_) fun e hs hnone => ?_)
  · exact Sided.ends_compare ⟨shallow, between, tipSha, hlocated, rfl, hbase⟩
  · exact Ends.bind (Ends.log (Sided.ends_compare ⟨shallow, between, tipSha, hlocated, rfl, hnone⟩))
  · have hidle : Idle (resolving f target head shallow between ++ [baseQuery tipSha sha]) :=
      idle_append.mpr ⟨idle_resolving hb, by simp [IsTreeDiff]⟩
    refine hidle.faithful (.stopped (stops_of_verb hs (by simp)) fun tipSha' sha' heq => ?_)
    obtain ⟨rfl, rfl⟩ : tipSha = tipSha' ∧ sha = sha' := by simpa [baseQuery] using heq
    exact hnone

/-- A clone in which the head and the branch have no commit in common. -/
def unrelatedGit : Git := fun _ c =>
  if c = tip "HEAD" then .exited 0 (Text.encode "aaaa\n") []
  else if c = tip "refs/remotes/origin/main" then .exited 0 (Text.encode "bbbb\n") []
  else if c = baseQuery "bbbb" "aaaa" then .exited 1 [] []
  else .exited 0 [] []

example : ((branchChange {} "main" "HEAD").start unrelatedGit).1.toOption.map
      (fun c => (c.strategy, c.base, c.head, c.warnings)) =
    some (.twoPoint, some "bbbb".toList, some "aaaa".toList, [noMergeBase {} "main" "HEAD"]) := by
  decide +kernel

end RuleReview.History
