import RuleReview.Git.History
import RuleReview.Proofs.Git.Calls
import RuleReview.Proofs.Success

/-! # Commits at hand

The commands by which a session asks for commits, and all that it can do to make sure that one is there: probe it, fetch
it when the probe reports it missing, and probe it again.
-/
namespace RuleReview.History
open Session
variable {f : Fetching} {git : Git} {h h' : List Command} {c : Command} {x ref : Text} {e : Failure}

def probe (x : Text) : Command := ["cat-file", "-e", commitOf x]

def fetchOne (f : Fetching) (x : Text) : Command := ["fetch", "--no-tags", "--depth=1", f.remote, x]

def tip (ref : Text) : Command := ["rev-parse", "--verify", commitOf ref]

def object (x : Text) : Command := ["cat-file", "-p", x]

def patchOf (f : Fetching) (base head : Text) : Command :=
  treeDiff ++ ["-p".toList, Text.concat ["-U", Text.ofNat f.contextLines], base, head]

def namesOf (base head : Text) : Command := treeDiff ++ ["--name-only".toList, base, head]

/-- What git is called for. -/
def verb (c : Command) : Option Text := c.head?

@[simp] theorem verb_probe : verb (probe x) = some "cat-file".toList := rfl
@[simp] theorem verb_fetchOne : verb (fetchOne f x) = some "fetch".toList := rfl
@[simp] theorem verb_tip : verb (tip ref) = some "rev-parse".toList := rfl
@[simp] theorem verb_object : verb (object x) = some "cat-file".toList := rfl
@[simp] theorem verb_patchOf {base head : Text} : verb (patchOf f base head) = some "diff-tree".toList := rfl
@[simp] theorem verb_namesOf {base head : Text} : verb (namesOf base head) = some "diff-tree".toList := rfl

theorem ne_of_verb {c d : Command} (hne : verb c ≠ verb d) : c ≠ d := fun hcd => hne (congrArg verb hcd)

/-- A call that brings in what the clone lacks. -/
def IsFetch (c : Command) : Prop := verb c = some "fetch".toList

/-- A call that compares two trees. -/
def IsTreeDiff (c : Command) : Prop := verb c = some "diff-tree".toList

theorem commitOf_inj {y : Text} : commitOf x = commitOf y ↔ x = y := by simp [commitOf, Text.concat]

@[simp] theorem probe_inj {y : Text} : probe x = probe y ↔ x = y := by simp [probe, commitOf_inj]

@[simp] theorem fetchOne_inj {y : Text} : fetchOne f x = fetchOne f y ↔ x = y := by simp [fetchOne]

/-- What has been called when a commit is there: a probe that found it, or a fetch of it after a probe that did not and
before one that did. -/
inductive Ensured (f : Fetching) (git : Git) (h : List Command) (x : Text) : List Command → Prop
  | there : git.Succeeds h (probe x) → Ensured f git h x (h ++ [probe x])
  | fetched : git.Refuses h (probe x) → git.Succeeds (h ++ [probe x]) (fetchOne f x) →
      git.Succeeds (h ++ [probe x] ++ [fetchOne f x]) (probe x) →
      Ensured f git h x (h ++ [probe x] ++ [fetchOne f x] ++ [probe x])

/-- How it fails that a commit is there. -/
inductive Unensured (f : Fetching) (git : Git) (h : List Command) (x : Text) : Failure → List Command → Prop
  | unprobed (e : Failure) : ¬git.Exits h (probe x) → Unensured f git h x e (h ++ [probe x])
  | unfetched (e : Failure) : git.Refuses h (probe x) → ¬git.Succeeds (h ++ [probe x]) (fetchOne f x) →
      (git.Exits (h ++ [probe x]) (fetchOne f x) → ∃ detail, e = .fetch x detail) →
      Unensured f git h x e (h ++ [probe x] ++ [fetchOne f x])
  | unfound (e : Failure) : git.Refuses h (probe x) → git.Succeeds (h ++ [probe x]) (fetchOne f x) →
      ¬git.Succeeds (h ++ [probe x] ++ [fetchOne f x]) (probe x) →
      (git.Exits (h ++ [probe x] ++ [fetchOne f x]) (probe x) → ∃ detail, e = .fetch x detail) →
      Unensured f git h x e (h ++ [probe x] ++ [fetchOne f x] ++ [probe x])

theorem ends_hasCommit {ok : Bool → List Command → Prop} {fail : Failure → List Command → Prop}
    (hfound : git.Succeeds h (probe x) → ok true (h ++ [probe x]))
    (hmissed : git.Refuses h (probe x) → ok false (h ++ [probe x]))
    (hnone : ∀ e, ¬git.Exits h (probe x) → fail e (h ++ [probe x])) : (hasCommit x).Ends git h ok fail := by
  refine Ends.bind (Ends.ask_cases (fun hs r hr => ?_) (fun hn r hr => ?_) hnone)
  · exact Ends.pure (hr ▸ hfound hs)
  · exact Ends.pure (hr ▸ hmissed hn)

theorem ends_ensureCommit : (ensureCommit f x).Ends git h (fun _ => Ensured f git h x) (Unensured f git h x) := by
  refine Ends.bind (ends_hasCommit (fun hs => ?_) (fun hn => ?_) fun e hnone => .unprobed e hnone)
  · exact Ends.pure (.there hs)
  refine Ends.bind (Ends.log (Ends.bind (Ends.ask_cases (fun hs' r hr => ?_) (fun hn' r hr => ?_) fun e hnone => ?_)))
  · rw [hr]
    refine Ends.bind (ends_hasCommit (fun hs'' => ?_) (fun hn'' => ?_) fun e hnone => ?_)
    · exact Ends.pure (.fetched hn hs' hs'')
    · exact Ends.throw (.unfound _ hn hs' (fun h0 => h0.not_refuses hn'') fun _ => ⟨_, rfl⟩)
    · exact .unfound e hn hs' (fun h0 => hnone h0.exits) fun h0 => absurd h0 hnone
  · rw [hr]
    exact Ends.throw (.unfetched _ hn (fun h0 => h0.not_refuses hn') fun _ => ⟨_, rfl⟩)
  · exact .unfetched e hn (fun h0 => hnone h0.exits) fun h0 => absurd h0 hnone

/-- What has been called before a ref is resolved: nothing, or what makes sure of a ref that looks like an id. -/
inductive Ready (f : Fetching) (git : Git) (h : List Command) (ref : Text) : List Command → Prop
  | name : Ref.isSha ref = false → Ready f git h ref h
  | there : Ref.isSha ref = true → git.Succeeds h (probe ref) → Ready f git h ref (h ++ [probe ref])
  | ensured {h' : List Command} : Ref.isSha ref = true → git.Refuses h (probe ref) →
      Ensured f git (h ++ [probe ref]) ref h' → Ready f git h ref h'

/-- How it fails that a ref can be resolved. -/
inductive Unready (f : Fetching) (git : Git) (h : List Command) (ref : Text) : Failure → List Command → Prop
  | unprobed (e : Failure) : Ref.isSha ref = true → ¬git.Exits h (probe ref) → Unready f git h ref e (h ++ [probe ref])
  | unensured {e : Failure} {h' : List Command} : Ref.isSha ref = true → git.Refuses h (probe ref) →
      Unensured f git (h ++ [probe ref]) ref e h' → Unready f git h ref e h'

/-- The call `c` ends a run: git does not carry it out, and it is no probe after which a fetch can be tried. -/
def Stops (f : Fetching) (git : Git) (h : List Command) (c : Command) : Prop :=
  ¬git.Succeeds h c ∧ ∀ x, c = probe x → git.Exits h c → fetchOne f x ∈ h

theorem stops_of_verb (hs : ¬git.Succeeds h c) (hc : verb c ≠ some "cat-file".toList) : Stops f git h c :=
  ⟨hs, fun _ hprobe => absurd (congrArg verb hprobe) hc⟩

theorem Unensured.stops (hh : Unensured f git h x e h') :
    ∃ p c, h' = p ++ [c] ∧ Stops f git p c ∧ (c = probe x ∨ c = fetchOne f x) := by
  cases hh with
  | unprobed hnone =>
    exact ⟨h, probe x, rfl, ⟨fun hs => hnone hs.exits, fun _ _ hexit => absurd hexit hnone⟩, .inl rfl⟩
  | unfetched _ hs => exact ⟨h ++ [probe x], fetchOne f x, rfl, stops_of_verb hs (by simp), .inr rfl⟩
  | unfound _ _ hs =>
    refine ⟨h ++ [probe x] ++ [fetchOne f x], probe x, rfl, ⟨hs, fun y hy _ => ?_⟩, .inl rfl⟩
    rw [probe_inj.mp hy]
    exact List.mem_append_right _ List.mem_cons_self

theorem Unready.stops (hh : Unready f git h ref e h') :
    ∃ p c, h' = p ++ [c] ∧ Stops f git p c ∧ (c = probe ref ∨ c = fetchOne f ref) := by
  cases hh with
  | unprobed _ hnone =>
    exact ⟨h, probe ref, rfl, ⟨fun hs => hnone hs.exits, fun _ _ hexit => absurd hexit hnone⟩, .inl rfl⟩
  | unensured _ _ hh => exact hh.stops

/-- From the calls `h` to the calls `h'` there are only probes and fetches of one commit. -/
def Prepares (f : Fetching) (x : Text) (h h' : List Command) : Prop :=
  ∃ between, h' = h ++ between ∧ ∀ c ∈ between, c = probe x ∨ c = fetchOne f x

theorem Prepares.probe_first (hh : Prepares f x (h ++ [probe x]) h') : Prepares f x h h' := by
  obtain ⟨between, rfl, hb⟩ := hh
  exact ⟨probe x :: between, by simp, by simpa using hb⟩

theorem Ensured.prepared (hh : Ensured f git h x h') : Prepares f x h h' := by
  cases hh with
  | there => exact ⟨[probe x], rfl, by simp⟩
  | fetched => exact ⟨[probe x, fetchOne f x, probe x], by simp, by simp⟩

theorem Unensured.prepared (hh : Unensured f git h x e h') : Prepares f x h h' := by
  cases hh with
  | unprobed => exact ⟨[probe x], rfl, by simp⟩
  | unfetched => exact ⟨[probe x, fetchOne f x], by simp, by simp⟩
  | unfound => exact ⟨[probe x, fetchOne f x, probe x], by simp, by simp⟩

theorem Ready.prepared (hh : Ready f git h x h') : Prepares f x h h' := by
  cases hh with
  | name => exact ⟨[], by simp, by simp⟩
  | there => exact ⟨[probe x], rfl, by simp⟩
  | ensured _ _ hh => exact hh.prepared.probe_first

theorem Unready.prepared (hh : Unready f git h x e h') : Prepares f x h h' := by
  cases hh with
  | unprobed => exact ⟨[probe x], rfl, by simp⟩
  | unensured _ _ hh => exact hh.prepared.probe_first

theorem ends_tipOf {ok : Text → List Command → Prop} {fail : Failure → List Command → Prop}
    (hprint : ∀ sha, git.Prints h (tip ref) sha → ok sha (h ++ [tip ref]))
    (hfail : ∀ e, ¬git.Succeeds h (tip ref) → fail e (h ++ [tip ref])) : (tipOf ref).Ends git h ok fail :=
  Ends.bind (Ends.output (fun out err hc => Ends.pure (hprint _ ⟨out, err, hc, rfl⟩)) hfail)

theorem ends_resolveCommit {ok : Text → List Command → Prop} {fail : Failure → List Command → Prop}
    (hinvalid : ∀ e, Ref.validate ref = .error e → fail e h) (hunready : ∀ e h', Unready f git h ref e h' → fail e h')
    (hready : ∀ h', Ready f git h ref h' → (tipOf ref).Ends git h' ok fail) :
    (resolveCommit f ref).Ends git h ok fail := by
  refine Ends.bind (Ends.ofExcept (fun _ _ => ?_) hinvalid)
  cases hsha : Ref.isSha ref with
  | false => exact hready h (.name hsha)
  | true =>
    refine Ends.bind (ends_hasCommit (fun hs => ?_) (fun hn => ?_) fun e hnone => hunready e _ (.unprobed e hsha hnone))
    · exact hready _ (.there hsha hs)
    · refine Ends.bind (ends_ensureCommit.mono (fun _ h' hh => ?_) fun e h' hh => ?_)
      · exact hready h' (.ensured hsha hn hh)
      · exact hunready e h' (.unensured hsha hn hh)

theorem sides_of_build {text : Text} {names warnings : List Text} {strategy : Strategy} {base head : Option Text}
    {change : Change} (hc : Change.build text names strategy base head warnings = .ok change) :
    change.strategy = strategy ∧ change.base = base ∧ change.head = head ∧ change.warnings = warnings := by
  rw [Change.build] at hc
  split at hc
  · cases hc
    exact ⟨rfl, rfl, rfl, rfl⟩
  · obtain ⟨d, _, rfl⟩ := map_eq_ok.mp hc
    exact ⟨rfl, rfl, rfl, rfl⟩

theorem parse_of_build_eq_error {text : Text} {names warnings : List Text} {strategy : Strategy}
    {base head : Option Text} (he : Change.build text names strategy base head warnings = .error e) :
    Diff.parse text = .error e := by
  rw [Change.build] at he
  split at he
  · cases he
  · cases hp : Diff.parse text with
    | ok d => rw [hp] at he; cases he
    | error e' => rw [hp] at he; cases he; rfl

/-- How a comparison fails: git does not carry it out, or its patch cannot be read. -/
inductive Uncompared (f : Fetching) (git : Git) (h : List Command) (base head : Text) : Failure → List Command → Prop
  | patch (e : Failure) : ¬git.Succeeds h (patchOf f base head) →
      Uncompared f git h base head e (h ++ [patchOf f base head])
  | names (e : Failure) : ¬git.Succeeds (h ++ [patchOf f base head]) (namesOf base head) →
      Uncompared f git h base head e (h ++ [patchOf f base head] ++ [namesOf base head])
  | unreadable {e : Failure} {out err : List UInt8} : git h (patchOf f base head) = .exited 0 out err →
      Diff.parse (decodeOutput out) = .error e →
      Uncompared f git h base head e (h ++ [patchOf f base head] ++ [namesOf base head])

/-- A comparison calls for the patch and, after it, for the names; what it returns has the two sides. -/
theorem ends_compare (f : Fetching) (git : Git) (h : List Command) (strategy : Strategy) (base head : Text)
    (warnings : List Text) :
    (do
      let (text, names) ← compare f base head
      Session.ofExcept (Change.build text names strategy base head warnings) : Session Change).Ends git h
      (fun change calls => calls = h ++ [patchOf f base head] ++ [namesOf base head] ∧ change.strategy = strategy ∧
        change.base = some base ∧ change.head = some head ∧ change.warnings = warnings)
      (Uncompared f git h base head) := by
  refine Ends.bind (Ends.bind (Ends.output (fun out err hout => ?_) .patch))
  refine Ends.bind (Ends.lines (fun names => Ends.pure ?_) .names)
  exact Ends.ofExcept (fun _ hc => ⟨rfl, sides_of_build hc⟩)
    fun _ he => .unreadable hout (parse_of_build_eq_error he)

end RuleReview.History
