import RuleReview.CommandLine.Check
import RuleReview.Proofs.Success

/-! # What a check shows

Most steps of a command leave its output alone. Where the output is data, a check that comes to a report has written the
report as its only output, and nothing before.
-/
namespace RuleReview.CommandLine
variable {α β : Type} {m : Run α} {k : α → Run β} {p q : Progress} {a : α} {b : β} {w : World} {o : CheckOptions}
  {r : Reviewed} {e : Failure}

section Steps

theorem run_bind (m : Run α) (k : α → Run β) (p : Progress) : (m >>= k).run p = match m.run p with
    | (.ok a, p') => (k a).run p'
    | (.error e, p') => (.error e, p') := by
  change (match m.run p with
    | (r, p') => ExceptT.bindCont k r p') = _
  rcases m.run p with ⟨_ | _, _⟩ <;> rfl

theorem run_bind_of_ok (h : m.run p = (.ok a, q)) (k : α → Run β) : (m >>= k).run p = (k a).run q := by
  rw [run_bind, h]

theorem run_bind_ok (h : (m >>= k).run p = (.ok b, q)) : ∃ a p', m.run p = (.ok a, p') ∧ (k a).run p' = (.ok b, q) := by
  rw [run_bind] at h
  rcases hm : m.run p with ⟨_ | a, p'⟩
  · rw [hm] at h
    cases h
  · rw [hm] at h
    exact ⟨a, p', rfl, h⟩

theorem run_ofExcept_ok {x : Except Failure α} (h : (Run.ofExcept x).run p = (.ok a, q)) : x = .ok a ∧ p = q :=
  Prod.mk.inj h

variable {f : Progress → Text}

/-- A command that leaves a part of the progress as it is, also when it fails. -/
def Keeps (f : Progress → Text) (m : Run α) : Prop := ∀ p, f (m.run p).2 = f p

/-- A part of the progress that log lines, calls to git and requests have nothing to do with. -/
structure IsApart (f : Progress → Text) : Prop where
  err : ∀ p err, f { p with err } = f p
  calls : ∀ p calls, f { p with calls } = f p
  posts : ∀ p posts, f { p with posts } = f p

theorem isApart_out : IsApart Progress.out := ⟨fun _ _ => rfl, fun _ _ => rfl, fun _ _ => rfl⟩

theorem isApart_stage : IsApart Progress.stage := ⟨fun _ _ => rfl, fun _ _ => rfl, fun _ _ => rfl⟩

theorem Keeps.pure (a : α) : Keeps f (Pure.pure a : Run α) := fun _ => rfl

theorem Keeps.throw (e : Failure) : Keeps f (MonadExcept.throw e : Run α) := fun _ => rfl

theorem Keeps.ofExcept (x : Except Failure α) : Keeps f (Run.ofExcept x) := fun _ => rfl

theorem Keeps.modify {g : Progress → Progress} (hg : ∀ p, f (g p) = f p) : Keeps f (modify g : Run Unit) := hg

theorem Keeps.bind (hm : Keeps f m) (hk : ∀ a, Keeps f (k a)) : Keeps f (m >>= k) := by
  intro p
  have hfirst := hm p
  rw [run_bind]
  split
  · next a p' hrun =>
    rw [hrun] at hfirst
    exact (hk a p').trans hfirst
  · next e p' hrun =>
    rw [hrun] at hfirst
    exact hfirst

theorem Keeps.eq {x : Except Failure α} (hm : Keeps f m) (h : m.run p = (x, q)) : f q = f p := by
  have hp := hm p
  rwa [h] at hp

theorem Keeps.report (hf : IsApart f) (w : World) (debug : Bool) (logs : List LogLine) :
    Keeps f (Run.report w debug logs) := fun p => hf.err p _

theorem Keeps.mention (hf : IsApart f) (w : World) (markup : Text) : Keeps f (Run.mention w markup) := by
  refine (Keeps.ofExcept _).bind fun shown => ?_
  exact Keeps.modify fun p => hf.err p _

theorem Keeps.sayIf (hf : ∀ p out, f { p with out } = f p) (w : World) (isText : Bool) (markup : Text) :
    Keeps f (Run.sayIf w isText markup) := by
  refine (Keeps.ofExcept _).bind fun shown => ?_
  dsimp only
  split
  · exact (Keeps.throw _).bind fun _ => Keeps.modify fun p => hf p _
  · exact Keeps.modify fun p => hf p _

theorem Keeps.ask (hf : IsApart f) (w : World) (debug : Bool) (s : Session α) : Keeps f (Run.ask w debug s) := by
  have hget : Keeps f (get : Run Progress) := fun _ => rfl
  refine hget.bind fun now => ?_
  refine Keeps.bind (Keeps.modify fun p => hf.calls p _) fun _ => ?_
  exact (Keeps.report hf _ _ _).bind fun _ => Keeps.ofExcept _

/-- A command that leaves the output alone. -/
abbrev Quiet (m : Run α) : Prop := Keeps Progress.out m

theorem quiet_enter (stage : Text) : Quiet (Run.enter stage) := fun _ => rfl

end Steps

section Examining

theorem quiet_readEnvironment (w : World) (root : Path) : Quiet (readEnvironment w root) := by
  refine Keeps.bind (Keeps.modify fun _ => rfl) fun _ => ?_
  exact Keeps.ofExcept _

theorem quiet_evaluate (w : World) (o : CheckOptions) (s : Settings) (root : Path) (rules : List Rule) (c : Change) :
    Quiet (evaluate w o s root rules c) := by
  rw [evaluate]
  split
  · refine Keeps.bind (Keeps.modify fun _ => rfl) fun _ => ?_
    exact (Keeps.report isApart_out _ _ _).bind fun _ => Keeps.pure _
  · refine Keeps.bind (Keeps.modify fun _ => rfl) fun _ => ?_
    exact (Keeps.report isApart_out _ _ _).bind fun _ => Keeps.throw _

theorem quiet_sayScope (hjson : o.json = true) (scope : Scope) (rules : List Rule) (s : Settings) :
    Quiet (sayScope w o scope rules s) := by
  rw [sayScope, if_pos hjson]
  exact Keeps.pure _

theorem quiet_sayFiles (hjson : o.json = true) (c : Change) : Quiet (sayFiles w o c) := by
  rw [sayFiles, if_pos hjson]
  exact Keeps.pure _

/-- What a terminal shows of a report as data. -/
def Reviewed.shown (r : Reviewed) (t : Terminal) : Text := t.data (reportJson r.report r.scope r.change)

/-- What a check that comes to a report has found out and shown. -/
structure Examined (w : World) (o : CheckOptions) (r : Reviewed) (before after : Text) : Prop where
  credentials : r.settings.online = r.credentials?.isSome
  out : o.json = true → after = before ++ r.shown w.tools.terminal

/-- A command that ends without a report, or with one that it alone shows when the output is data. -/
def Reports (w : World) (o : CheckOptions) (m : Run (Option Reviewed)) : Prop :=
  ∀ p r q, m.run p = (.ok (some r), q) → Examined w o r p.out q.out

variable {k' : α → Run (Option Reviewed)} {x : Except Failure α}

theorem Reports.after (hm : o.json = true → Quiet m) (hk : ∀ a, Reports w o (k' a)) : Reports w o (m >>= k') := by
  intro p r q h
  obtain ⟨a, p', hfirst, hrest⟩ := run_bind_ok h
  obtain ⟨hcredentials, hout⟩ := hk a p' r q hrest
  refine ⟨hcredentials, fun hjson => ?_⟩
  rw [hout hjson, (hm hjson).eq hfirst]

theorem Reports.ofExcept (hk : ∀ a, x = .ok a → Reports w o (k' a)) : Reports w o (Run.ofExcept x >>= k') := by
  intro p r q h
  obtain ⟨a, p', hfirst, hrest⟩ := run_bind_ok h
  obtain ⟨hx, rfl⟩ := run_ofExcept_ok hfirst
  exact hk a hx p r q hrest

theorem Reports.unless {next : Run (Option Reviewed)} (hnext : Reports w o next) (wrong : Bool) :
    Reports w o (if wrong = true then (MonadExcept.throw e : Run α) >>= k' else next) := by
  cases wrong with
  | true =>
    intro p r q h
    obtain ⟨a, p', hthrow, _⟩ := run_bind_ok h
    cases hthrow
  | false => exact hnext

theorem online_credentialsFor {s : Settings} {env : Environment} {c? : Option Credentials}
    (h : credentialsFor s env = .ok c?) : s.online = c?.isSome := by
  rw [credentialsFor] at h
  split at h
  · next hon =>
    obtain ⟨c, -, rfl⟩ := map_eq_ok.mp h
    exact hon
  · next hoff =>
    cases h
    exact Bool.eq_false_iff.mpr hoff

theorem shown_showReport {report : Report} {scope : Scope} {c : Change} (hjson : o.json = true)
    (h : (showReport w o report scope c).run p = (.ok (), q)) :
    q.out = p.out ++ w.tools.terminal.data (reportJson report scope c) := by
  have hdata : ¬(!o.json) = true := by simp [hjson]
  rw [showReport, if_neg hdata] at h
  split at h
  · cases h
  · cases h
    rfl

theorem reports_examine (w : World) (o : CheckOptions) : Reports w o (examine w o) := by
  rw [examine]
  by_cases hmany : o.scopes > 1
  · rw [if_pos hmany]
    intro p r q h
    obtain ⟨_, p', _, h⟩ := run_bind_ok h
    cases h
  rw [if_neg hmany]
  refine Reports.ofExcept fun start _ => ?_
  refine Reports.after (fun _ => quiet_enter _) fun _ => ?_
  refine Reports.after (fun _ => Keeps.ask isApart_out _ _ _) fun top => ?_
  refine Reports.unless ?_ _
  refine Reports.after (fun _ => quiet_readEnvironment _ _) fun env => ?_
  refine Reports.after (fun _ => quiet_enter _) fun _ => ?_
  refine Reports.ofExcept fun loaded _ => ?_
  refine Reports.ofExcept fun settings _ => ?_
  refine Reports.ofExcept fun credentials? hcredentials => ?_
  refine Reports.after (fun _ => quiet_enter _) fun _ => ?_
  refine Reports.after (fun _ => Keeps.report isApart_out _ _ _) fun _ => ?_
  refine Reports.ofExcept fun rules _ => ?_
  refine Reports.after (fun _ => quiet_enter _) fun _ => ?_
  refine Reports.ofExcept fun scope _ => ?_
  refine Reports.after (fun hjson => quiet_sayScope hjson _ _ _) fun _ => ?_
  refine Reports.after (fun _ => quiet_enter _) fun _ => ?_
  refine Reports.after (fun _ => Keeps.ask isApart_out _ _ _) fun change => ?_
  refine Reports.unless ?_ _
  refine Reports.after (fun hjson => quiet_sayFiles hjson _) fun _ => ?_
  refine Reports.after (fun _ => quiet_enter _) fun _ => ?_
  refine Reports.after (fun _ => quiet_evaluate _ _ _ _ _ _) fun report => ?_
  intro p r q h
  obtain ⟨_, p', hshow, h⟩ := run_bind_ok h
  cases h
  refine ⟨online_credentialsFor hcredentials, fun hjson => ?_⟩
  exact shown_showReport hjson hshow

end Examining

end RuleReview.CommandLine
