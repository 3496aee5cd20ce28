import RuleReview.Change.Source
import RuleReview.Decimal.Loose
import RuleReview.Proofs.Git.Branches

/-! # Options from outside

Git reads an argument that begins with a hyphen as an option, so what comes from outside, from the scope of a review or
from the settings, must not begin with one when it reaches a call. Each argument of each call is told apart by where it
comes from. Refs from outside are refused before the first call when they begin with a hyphen; the name of the remote is
not looked at, and every fetch hands it on.
-/
namespace RuleReview

open Session History

/-- Git reads the argument as an option. -/
def IsOption (s : Text) : Prop := s.startsWith "-" = true

instance (s : Text) : Decidable (IsOption s) := inferInstanceAs (Decidable (_ = true))

/-- An argument by where it comes from: it is a word of the program, it is the scope's or the settings' or made from
such, or it is what git printed or made from that. -/
inductive Argument where
  | own (s : Text)
  | outside (s : Text)
  | printed (s : Text)

def Argument.text : Argument → Text
  | .own s | .outside s | .printed s => s

@[simp] theorem Argument.text_own (s : Text) : (Argument.own s).text = s := rfl
@[simp] theorem Argument.text_outside (s : Text) : (Argument.outside s).text = s := rfl
@[simp] theorem Argument.text_printed (s : Text) : (Argument.printed s).text = s := rfl

theorem Argument.map_text_own (ws : List Text) : (ws.map Argument.own).map Argument.text = ws := by
  rw [List.map_map]
  exact List.map_id ws

/-- By the calls `h` git has printed `s`, as all that it printed or as a word in a line of it. -/
def Told (git : Git) (h : List Command) (s : Text) : Prop :=
  ∃ p c code out err, Issued h p c ∧ git p c = .exited code out err ∧
    (s = (decodeOutput out).trim ∨ ∃ l ∈ (decodeOutput out).boundedLines, s ∈ l.words)

/-- The commits that a review asks for, by where their names come from. -/
inductive Named (f : Fetching) (told : Text → Prop) : Scope → (Text → Argument) → Text → Prop
  | ref {ref : Text} : Named f told (.commit ref) .outside ref
  | tracking {source target : Text} {number title : Option Text} :
      Named f told (.pullRequest source target number title) .outside (trackingRef f target)
  | head {source target : Text} {number title : Option Text} :
      Named f told (.pullRequest source target number title) .own "HEAD"
  | printed {scope : Scope} {x : Text} : told x → Named f told scope .printed x

namespace Worktree

/-- All calls for uncommitted changes. -/
def commands (contextLines : Nat) : List Command :=
  [diffCommand ++ ["--cached".toList, "--name-only".toList],
   diffCommand ++ ["--cached".toList, Text.concat ["-U", Text.ofNat contextLines]],
   diffCommand ++ ["--name-only".toList],
   ["ls-files", "--others", "--exclude-standard", "-z"],
   diffCommand ++ [Text.concat ["-U", Text.ofNat contextLines]]]

end Worktree

/-- The arguments that limit a fetch to some depth, if it is limited. -/
def depthArguments (f : Fetching) (shallow : Bool) : List Argument :=
  if shallow then [.own (.concat ["--depth=", Text.ofNat f.depth])] else []

/-- All calls of a review, with the origin of each argument. -/
inductive Planned (f : Fetching) (told : Text → Prop) : Scope → List Argument → Prop
  | probe {scope : Scope} {mark : Text → Argument} {x : Text} : Named f told scope mark x →
      Planned f told scope [.own "cat-file", .own "-e", mark (commitOf x)]
  | fetch {scope : Scope} {mark : Text → Argument} {x : Text} : Named f told scope mark x →
      Planned f told scope [.own "fetch", .own "--no-tags", .own "--depth=1", .outside f.remote, mark x]
  | tip {scope : Scope} {mark : Text → Argument} {x : Text} : Named f told scope mark x →
      Planned f told scope [.own "rev-parse", .own "--verify", mark (commitOf x)]
  | object {scope : Scope} {x : Text} : told x → Planned f told scope [.own "cat-file", .own "-p", .printed x]
  | shallow {source target : Text} {number title : Option Text} :
      Planned f told (.pullRequest source target number title) [.own "rev-parse", .own "--is-shallow-repository"]
  | branch {source target : Text} {number title : Option Text} (shallow : Bool) :
      Planned f told (.pullRequest source target number title)
        ([.own "fetch", .own "--no-tags"] ++ depthArguments f shallow ++
          [.outside f.remote, .outside (.concat ["+refs/heads/", target, ":", trackingRef f target])])
  | base {scope : Scope} {x y : Text} : told x → told y →
      Planned f told scope [.own "merge-base", .printed x, .printed y]
  | patch {scope : Scope} {x y : Text} : told x → told y →
      Planned f told scope (treeDiff.map .own ++
        [.own "-p", .own (.concat ["-U", Text.ofNat f.contextLines]), .printed x, .printed y])
  | names {scope : Scope} {x y : Text} : told x → told y →
      Planned f told scope (treeDiff.map .own ++ [.own "--name-only", .printed x, .printed y])
  | worktree {c : Command} : c ∈ Worktree.commands f.contextLines → Planned f told .worktree (c.map .own)

/-- The arguments of a call as they should be told apart. An argument from outside is no option, but for the remote in
a fetch, which is in every fetch whatever it is. -/
structure Guarded (f : Fetching) (told : Text → Prop) (scope : Scope) (c : Command) (as : List Argument) : Prop where
  planned : Planned f told scope as
  text : as.map Argument.text = c
  guarded : ∀ s, .outside s ∈ as → IsOption s → s = f.remote ∧ IsFetch c
  exposed : IsFetch c → .outside f.remote ∈ as

/-- The refs that come from outside were accepted. -/
def Scope.Accepted : Scope → Prop
  | .pullRequest _ target _ _ => Ref.problem? target = none
  | .commit ref => Ref.problem? ref = none
  | _ => True

/-- Every call is one of the planned ones. -/
def Follows (f : Fetching) (git : Git) (scope : Scope) (calls : List Command) : Prop :=
  ∀ h c, Issued calls h c → ∃ as, Planned f (Told git h) scope as ∧ as.map Argument.text = c

variable {f : Fetching} {git : Git} {scope : Scope} {h h' calls between : List Command} {c : Command} {s x y : Text}
  {e : Failure} {mark : Text → Argument} {told : Text → Prop}

theorem not_isOption_of_accepted (hp : Ref.problem? s = none) : ¬IsOption s := by
  intro ho
  rw [IsOption] at ho
  rw [Ref.problem?, ho, if_pos rfl] at hp
  split at hp <;> cases hp

theorem head?_eq_of_isOption (ho : IsOption s) : s.head? = some '-' := by
  obtain ⟨r, rfl⟩ := List.isPrefixOf_iff_prefix.mp ho
  rfl

theorem isOption_commitOf (ho : IsOption (commitOf s)) : IsOption s := by
  have hhead := head?_eq_of_isOption ho
  cases s with
  | nil => cases hhead
  | cons k s =>
    obtain rfl : k = '-' := Option.some.inj hhead
    rfl

theorem not_isOption_cons {k : Char} (hk : k ≠ '-') : ¬IsOption (k :: s) := by
  intro ho
  exact hk (Option.some.inj (head?_eq_of_isOption ho))

/-- What stands for a commit and comes from outside is an accepted ref or begins with a letter of the program. -/
theorem Named.not_isOption (hn : Named f told scope mark x) (ha : scope.Accepted) (hs : mark y = .outside s)
    (hy : IsOption y → IsOption x) : ¬IsOption s := by
  cases hn with
  | ref =>
    obtain rfl := Argument.outside.inj hs
    exact fun ho => not_isOption_of_accepted ha (hy ho)
  | tracking =>
    obtain rfl := Argument.outside.inj hs
    exact fun ho => not_isOption_cons (by decide) (hy ho)
  | head => cases hs
  | printed => cases hs

theorem outside_notMem_own {ws : List Text} : Argument.outside s ∉ ws.map .own := by
  intro hs
  obtain ⟨w, -, hw⟩ := List.mem_map.mp hs
  cases hw

theorem outside_mem_depthArguments {as : List Argument} {shallow : Bool} :
    Argument.outside s ∈ depthArguments f shallow ++ as ↔ Argument.outside s ∈ as := by
  cases shallow <;> simp [depthArguments]

theorem not_isFetch_commands {n : Nat} (hc : c ∈ Worktree.commands n) : ¬IsFetch c := by
  have hverb : ∀ c ∈ Worktree.commands n, verb c = some "diff".toList ∨ verb c = some "ls-files".toList := by
    simp [Worktree.commands, Worktree.diffCommand, verb]
  intro hf
  rcases hverb c hc with hv | hv
  all_goals
    rw [IsFetch, hv] at hf
    exact absurd (Option.some.inj hf) (by decide)

theorem Planned.guarded {as : List Argument} (hp : Planned f told scope as) (ha : scope.Accepted) :
    Guarded f told scope (as.map Argument.text) as := by
  refine ⟨hp, rfl, fun s hs ho => ?_, fun hf => ?_⟩
  · cases hp with
    | probe hn | tip hn =>
      have hlast := (by simpa using hs : Argument.outside s = _).symm
      exact absurd ho (hn.not_isOption ha hlast isOption_commitOf)
    | @fetch _ mark x hn =>
      have harg : s = f.remote ∨ Argument.outside s = mark x := by simpa using hs
      rcases harg with hremote | hlast
      · exact ⟨hremote, rfl⟩
      · exact absurd ho (hn.not_isOption ha hlast.symm id)
    | branch shallow =>
      rw [List.append_assoc] at hs
      have harg := outside_mem_depthArguments.mp ((List.mem_append.mp hs).resolve_left (by simp))
      rcases List.mem_pair.mp harg with hremote | hrefs
      · exact ⟨Argument.outside.inj hremote, rfl⟩
      · obtain rfl := Argument.outside.inj hrefs
        exact absurd ho (not_isOption_cons (by decide))
    | patch | names =>
      have hown := (List.mem_append.mp hs).resolve_left outside_notMem_own
      simp at hown
    | worktree => exact absurd hs outside_notMem_own
    | object | shallow | base => simp at hs
  · cases hp with
    | fetch => simp
    | branch shallow => simp
    | worktree hc =>
      rw [Argument.map_text_own] at hf
      exact absurd hf (not_isFetch_commands hc)
    | probe | tip | object | shallow | base | patch | names => cases hf

section Runs

theorem follows_concat : Follows f git scope (h ++ [c]) ↔
    Follows f git scope h ∧ ∃ as, Planned f (Told git h) scope as ∧ as.map Argument.text = c := forall_issued_concat

theorem Told.later (hs : Told git h s) (hp : h <+: h') : Told git h' s := by
  obtain ⟨p, c, code, out, err, hi, hout, hs⟩ := hs
  exact ⟨p, c, code, out, err, hi.trans hp, hout, hs⟩

theorem told_of_prints (hs : git.Prints h c s) : Told git (h ++ [c]) s := by
  obtain ⟨out, err, hout, rfl⟩ := hs
  exact ⟨h, c, 0, out, err, List.prefix_rfl, hout, .inl rfl⟩

theorem Named.later (hn : Named f (Told git h) scope mark x) (hp : h <+: h') :
    Named f (Told git h') scope mark x := by
  cases hn with
  | ref => exact .ref
  | tracking => exact .tracking
  | head => exact .head
  | printed hx => exact .printed (hx.later hp)

theorem Named.text_mark (hn : Named f told scope mark x) (y : Text) : (mark y).text = y := by
  cases hn <;> rfl

/-- Making sure of a commit follows the plan, for it is only probed and fetched. -/
theorem Follows.prepares (hf : Follows f git scope h) (hn : Named f (Told git h) scope mark x)
    (hp : Prepares f x h h') : Follows f git scope h' := by
  obtain ⟨between, rfl, hb⟩ := hp
  induction between using List.reverseRecOn with
  | nil => rwa [List.append_nil]
  | append_singleton between c ih =>
    obtain ⟨hb, hc⟩ := List.forall_mem_append.mp hb
    rw [← List.append_assoc]
    have hn' : Named f (Told git (h ++ between)) scope mark x := hn.later (List.prefix_append h between)
    refine follows_concat.mpr ⟨ih hb, ?_⟩
    rcases hc c List.mem_cons_self with rfl | rfl
    · exact ⟨_, .probe hn', by simp [hn'.text_mark, probe]⟩
    · exact ⟨_, .fetch hn', by simp [hn'.text_mark, fetchOne]⟩

theorem Follows.call {as : List Argument} (hf : Follows f git scope h) (hp : Planned f (Told git h) scope as)
    (hc : as.map Argument.text = c) : Follows f git scope (h ++ [c]) := follows_concat.mpr ⟨hf, as, hp, hc⟩

/-- From the calls `h` on the plan was followed, and by the calls `h'` git has printed `s`. -/
structure Learns (f : Fetching) (git : Git) (scope : Scope) (h : List Command) (s : Text) (h' : List Command) :
    Prop where
  follows : Follows f git scope h'
  longer : h <+: h'
  told : Told git h' s

theorem Follows.tip (hf : Follows f git scope h) (hn : Named f (Told git h) scope mark x) :
    Follows f git scope (h ++ [History.tip x]) := hf.call (.tip hn) (by simp [hn.text_mark, History.tip])

theorem ends_tipOf_follows (hf : Follows f git scope h) (hn : Named f (Told git h) scope mark x) :
    (tipOf x).Ends git h (Learns f git scope h) (fun _ => Follows f git scope) :=
  ends_tipOf (fun _ hsha => ⟨hf.tip hn, List.prefix_append _ _, told_of_prints hsha⟩) fun _ _ => hf.tip hn

theorem ends_resolveCommit_follows (hf : Follows f git scope h) (hn : Named f (Told git h) scope mark x) :
    (resolveCommit f x).Ends git h (Learns f git scope h) (fun _ => Follows f git scope) := by
  refine ends_resolveCommit (fun _ _ => hf) (fun _ _ hh => hf.prepares hn hh.prepared) fun h₁ hh => ?_
  obtain ⟨between, rfl, -⟩ := id hh.prepared
  have hp : h <+: h ++ between := List.prefix_append h between
  refine (ends_tipOf_follows (hf.prepares hn hh.prepared) (hn.later hp)).mono (fun sha h₂ hl => ?_) fun _ _ he => he
  exact ⟨hl.follows, hp.trans hl.longer, hl.told⟩

theorem ends_ensureCommit_follows (hf : Follows f git scope h) (hn : Named f (Told git h) scope mark x) :
    (ensureCommit f x).Ends git h (fun _ h' => Follows f git scope h' ∧ h <+: h') (fun _ => Follows f git scope) := by
  refine ends_ensureCommit.mono (fun _ h₁ hh => ⟨hf.prepares hn hh.prepared, ?_⟩) fun _ _ hh => ?_
  · obtain ⟨between, rfl, -⟩ := hh.prepared
    exact List.prefix_append h between
  · exact hf.prepares hn hh.prepared

theorem mem_words_of_firstParent {ls : List Text} (hp : firstParent ls = .ok (some s)) : ∃ l ∈ ls, s ∈ l.words := by
  induction ls with
  | nil => cases hp
  | cons l ls ih =>
    rw [firstParent] at hp
    split at hp
    · cases hp
    split at hp
    · split at hp
      · next hwords =>
        cases hp
        exact ⟨l, List.mem_cons_self, by simp [hwords]⟩
      · cases hp
    · obtain ⟨k, hk, hs⟩ := ih hp
      exact ⟨k, List.mem_cons_of_mem l hk, hs⟩

theorem ends_parentOf_follows (hf : Follows f git scope h) (hx : Told git h x) :
    (parentOf f x).Ends git h (Learns f git scope h) (fun _ => Follows f git scope) := by
  refine Ends.bind ((ends_ensureCommit_follows hf (.printed hx)).mono (fun _ h₁ hh => ?_) fun _ _ he => he)
  have hobject : Follows f git scope (h₁ ++ [object x]) := hh.1.call (.object (hx.later hh.2)) rfl
  refine Ends.bind (Ends.output (fun out err hout => ?_) fun _ _ => hobject)
  refine Ends.bind (Ends.ofExcept (fun parent? hparent => ?_) fun _ _ => hobject)
  cases parent? with
  | none => exact Ends.throw hobject
  | some parent =>
    have htold : Told git (h₁ ++ [object x]) parent :=
      ⟨h₁, object x, 0, out, err, List.prefix_rfl, hout, .inr (mem_words_of_firstParent hparent)⟩
    exact Ends.pure ⟨hobject, hh.2.trans (List.prefix_append _ _), htold⟩

theorem ends_compare_follows (hf : Follows f git scope h) (hx : Told git h x) (hy : Told git h y) (strategy : Strategy)
    (warnings : List Text) :
    (do
      let (text, names) ← compare f x y
      Session.ofExcept (Change.build text names strategy x y warnings) : Session Change).Ends git h
      (fun _ => Follows f git scope) (fun _ => Follows f git scope) := by
  have hpatch : Follows f git scope (h ++ [patchOf f x y]) := hf.call (.patch hx hy) rfl
  have hnames : Follows f git scope (h ++ [patchOf f x y] ++ [namesOf x y]) := by
    have hp : h <+: h ++ [patchOf f x y] := List.prefix_append _ _
    exact hpatch.call (.names (hx.later hp) (hy.later hp)) rfl
  refine (ends_compare f git h strategy x y warnings).mono (fun _ _ hc => hc.1 ▸ hnames) fun _ _ hc => ?_
  cases hc with
  | patch => exact hpatch
  | names => exact hnames
  | unreadable => exact hnames

theorem ends_commitChange_follows (hf : Follows f git (.commit x) h) :
    (commitChange f x).Ends git h (fun _ => Follows f git (.commit x)) (fun _ => Follows f git (.commit x)) := by
  refine Ends.bind ((ends_resolveCommit_follows hf .ref).mono (fun sha h₁ hsha => ?_) fun _ _ he => he)
  refine Ends.bind ((ends_parentOf_follows hsha.follows hsha.told).mono (fun parent h₂ hp => ?_) fun _ _ he => he)
  refine Ends.bind ((ends_ensureCommit_follows hp.follows (.printed hp.told)).mono (fun _ h₃ hh => ?_) fun _ _ he => he)
  exact ends_compare_follows hh.1 (hp.told.later hh.2) ((hsha.told.later hp.longer).later hh.2) .commit []

variable {source target : Text} {number title : Option Text}

theorem ends_ensureBranch_follows (hf : Follows f git (.pullRequest source target number title) h) :
    (ensureBranch f target).Ends git h
      (fun tracking h' => Follows f git (.pullRequest source target number title) h' ∧ tracking = trackingRef f target)
      (fun _ => Follows f git (.pullRequest source target number title)) := by
  have hquery := hf.call (c := shallowQuery) .shallow rfl
  refine Ends.bind (Ends.ofExcept (fun _ _ => ?_) fun _ _ => hf)
  refine Ends.bind (ends_isShallow (fun shallow _ => ?_) fun _ _ => hquery)
  have hfetch : Follows f git (.pullRequest source target number title)
      (h ++ [shallowQuery] ++ [branchFetch f target shallow]) :=
    hquery.call (.branch shallow) (by cases shallow <;> rfl)
  refine Ends.bind (Ends.log (Ends.bind (Ends.ask_cases (fun _ r hr => ?_) (fun _ r hr => ?_) fun _ _ => hfetch)))
  · rw [hr]
    exact Ends.pure ⟨hfetch, rfl⟩
  · rw [hr]
    exact Ends.throw hfetch

theorem told_of_chosen {tipSha base : Text}
    (hc : Chosen f target s tipSha (git h c) .mergeBase base []) : Told git (h ++ [c]) base := by
  generalize hreply : git h c = reply at hc
  cases hc with
  | common => exact ⟨h, c, 0, _, _, List.prefix_rfl, hreply, .inl rfl⟩

theorem ends_branchChange_follows (hf : Follows f git (.pullRequest source target number title) h) :
    (branchChange f target "HEAD").Ends git h (fun _ => Follows f git (.pullRequest source target number title))
      (fun _ => Follows f git (.pullRequest source target number title)) := by
  refine Ends.bind (ends_ensureBranch_follows hf |>.mono (fun tracking h₁ hb => ?_) fun _ _ he => he)
  obtain ⟨hf₁, rfl⟩ := hb
  refine Ends.bind ((ends_resolveCommit_follows hf₁ .head).mono (fun sha h₂ hsha => ?_) fun _ _ he => he)
  refine Ends.bind ((ends_tipOf_follows hsha.follows .tracking).mono (fun tipSha h₃ htip => ?_) fun _ _ he => he)
  have hsha₃ : Told git h₃ sha := hsha.told.later htip.longer
  have hbase : Follows f git (.pullRequest source target number title) (h₃ ++ [baseQuery tipSha sha]) :=
    htip.follows.call (.base htip.told hsha₃) rfl
  have hp : h₃ <+: h₃ ++ [baseQuery tipSha sha] := List.prefix_append _ _
  refine Ends.bind (ends_mergeBase f target "HEAD" (fun base hchosen => ?_) (fun _ => ?_) fun _ _ _ => hbase)
  · exact ends_compare_follows hbase (told_of_chosen hchosen) (hsha₃.later hp) .mergeBase []
  · exact Ends.bind (Ends.log (ends_compare_follows hbase (htip.told.later hp) (hsha₃.later hp) .twoPoint _))

/-- For uncommitted changes every call is among a few that hold words of the program only. -/
theorem avoids_collect (t : FileTree) (root : Path) (n : Nat) :
    Avoids (fun c => c ∉ Worktree.commands n) (Worktree.collect t root n) := by
  have hcalls : ∀ c ∈ Worktree.commands n, ¬c ∉ Worktree.commands n := fun _ hc hn => hn hc
  simp only [Worktree.commands, List.forall_mem_cons] at hcalls
  obtain ⟨hstaged, hpatch, hunstaged, huntracked, hedits, -⟩ := hcalls
  refine (Avoids.lines hstaged).bind fun staged => ?_
  cases staged with
  | cons name names =>
    exact (Avoids.log _ _).bind fun _ => (Avoids.output hpatch).bind fun _ => Avoids.ofExcept _
  | nil =>
    rw [if_neg (by decide)]
    refine (Avoids.lines hunstaged).bind fun unstaged => ?_
    refine ((Avoids.output huntracked).bind fun _ => Avoids.pure _).bind fun untracked => avoids_unless ?_ _ _
    refine (Avoids.log _ _).bind fun _ => ?_
    dsimp only
    split
    · exact (Avoids.pure _).bind fun _ => (Avoids.ofExcept _).bind fun _ => Avoids.ofExcept _
    · exact (Avoids.output hedits).bind fun _ => (Avoids.ofExcept _).bind fun _ => Avoids.ofExcept _

theorem follows_of_free (hh : Free (fun c => c ∉ Worktree.commands f.contextLines) h) : Follows f git .worktree h :=
  fun _ c hi => ⟨c.map .own, .worktree (Classical.not_not.mp (hh c hi.mem)), Argument.map_text_own c⟩

theorem accepted_of_acceptRef {ref r : Text} (hr : Scope.acceptRef ref = .ok r) :
    r = ref ∧ Ref.problem? ref = none := by
  rw [Scope.acceptRef] at hr
  split at hr
  · cases hr
  · next hp =>
    cases hr
    exact ⟨rfl, hp⟩

/-- A review follows the plan, and makes no call at all unless it accepts the refs from outside. -/
theorem change_follows (t : FileTree) (root : Path) (settings : Settings) (scope : Scope) (git : Git) :
    Follows settings.fetching git scope ((scope.change t root settings).start git).2.calls ∧
      (((scope.change t root settings).start git).2.calls ≠ [] → scope.Accepted) := by
  have hnil (scope : Scope) : Follows settings.fetching git scope [] := fun _ _ hi => absurd hi not_issued_nil
  refine Ends.start (Q := fun _ calls => Follows settings.fetching git scope calls ∧ (calls ≠ [] → scope.Accepted)) ?_
  cases scope with
  | pullRequest source target number title =>
    refine Ends.bind (Ends.ofExcept (fun ref hr => ?_) fun _ _ => ⟨hnil _, fun hne => absurd rfl hne⟩)
    obtain ⟨rfl, ha⟩ := accepted_of_acceptRef hr
    exact Ends.bind (Ends.log ((ends_branchChange_follows (hnil _)).mono (fun _ _ hf => ⟨hf, fun _ => ha⟩)
      fun _ _ hf => ⟨hf, fun _ => ha⟩))
  | commit ref =>
    refine Ends.bind (Ends.ofExcept (fun ref hr => ?_) fun _ _ => ⟨hnil _, fun hne => absurd rfl hne⟩)
    obtain ⟨rfl, ha⟩ := accepted_of_acceptRef hr
    exact Ends.bind (Ends.log ((ends_commitChange_follows (hnil _)).mono (fun _ _ hf => ⟨hf, fun _ => ha⟩)
      fun _ _ hf => ⟨hf, fun _ => ha⟩))
  | worktree =>
    have hfree : Free (fun c => c ∉ Worktree.commands settings.fetching.contextLines) [] :=
      fun _ hc => absurd hc List.not_mem_nil
    exact (avoids_collect t root settings.gitWindow git [] hfree).mono
      (fun _ _ hh => ⟨follows_of_free hh, fun _ => trivial⟩) fun _ _ hh => ⟨follows_of_free hh, fun _ => trivial⟩
  | paths kind names =>
    exact Ends.ofExcept (fun _ _ => ⟨hnil _, fun _ => trivial⟩) fun _ _ => ⟨hnil _, fun _ => trivial⟩

end Runs

/-- In every call of a review, an argument that comes from the scope or from the settings is no option, but for the name
of the remote: that is an argument of every fetch, and nothing keeps it from beginning with a hyphen. -/
theorem Scope.change_guarded (t : FileTree) (root : Path) (settings : Settings) (scope : Scope) (git : Git)
    (hi : Issued ((scope.change t root settings).start git).2.calls h c) :
    ∃ as, Guarded settings.fetching (Told git h) scope c as := by
  obtain ⟨hfollows, haccepted⟩ := change_follows t root settings scope git
  obtain ⟨as, hplanned, rfl⟩ := hfollows h c hi
  exact ⟨as, hplanned.guarded (haccepted (List.ne_nil_of_mem hi.mem))⟩

/-- Settings whose remote is an option for git, as a settings file can give them. -/
def optionSettings : Settings := { remote := .ofText "--upload-pack=./x" }

/-- A clone that lacks every commit and can fetch none. -/
def emptyGit : Git := fun _ c => .exited (if c.head? = some "rev-parse".toList then 0 else 1) [] []

def optionRun : Except Failure Change × Trace :=
  ((Scope.commit "abcd1234").change (.dir []) .root optionSettings).start emptyGit

theorem Scope.change_guarded_optionRun : ∃ as,
    Guarded optionSettings.fetching (Told emptyGit [probe "abcd1234", probe "abcd1234"]) (.commit "abcd1234")
      (fetchOne optionSettings.fetching "abcd1234") as := by
  have hcalls : optionRun.2.calls =
      [probe "abcd1234", probe "abcd1234"] ++ [fetchOne optionSettings.fetching "abcd1234"] := by decide +kernel
  have hi : Issued optionRun.2.calls [probe "abcd1234", probe "abcd1234"]
      (fetchOne optionSettings.fetching "abcd1234") := hcalls ▸ List.prefix_rfl
  exact Scope.change_guarded (.dir []) .root optionSettings (.commit "abcd1234") emptyGit hi

/-- Settings are accepted by which the name of the remote reaches git as an option. -/
theorem isOption_optionRun :
    (Settings.check Loose.coercion [("remote".toList, .str "--upload-pack=./x")]).toExcept.toOption.map
        Settings.remote = some optionSettings.remote ∧
      ∃ h c as, Issued optionRun.2.calls h c ∧
        Planned optionSettings.fetching (Told emptyGit h) (.commit "abcd1234") as ∧ as.map Argument.text = c ∧
        .outside optionSettings.fetching.remote ∈ as ∧ IsOption optionSettings.fetching.remote := by
  have hcalls : optionRun.2.calls =
      [probe "abcd1234", probe "abcd1234"] ++ [fetchOne optionSettings.fetching "abcd1234"] := by decide +kernel
  refine ⟨by decide +kernel, [probe "abcd1234", probe "abcd1234"], _, _, hcalls ▸ List.prefix_rfl, .fetch .ref, rfl,
    ?_, ?_⟩
  · simp
  · decide

end RuleReview
