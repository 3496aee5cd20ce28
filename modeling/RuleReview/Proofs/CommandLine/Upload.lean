import RuleReview.CommandLine.Tools
import RuleReview.Proofs.CommandLine.Outputs
import RuleReview.Proofs.Git.Inquiry
import RuleReview.Proofs.Markup.Rendering

/-! # A report stands, whatever comes of its upload

A check that has shown its report uploads it. Git may refuse every command, the service may not be reached, time out,
refuse the upload or answer with what is no JSON: the exit code is then that of the report, and an output that is data
is the report and nothing else. It is otherwise where git cannot be run at all or the request is none, and where the
service answers with a JSON value that is no object, that is nested too deep, or that names a check which cannot be
shown. Of the terminal nothing is used but that it shows notices.
-/
namespace RuleReview.CommandLine
open Markup (notice)
variable {w : World} {o : CheckOptions} {r : Reviewed} {credentials : Credentials} {p q : Progress} {e : Failure}
  {t : Terminal} {markup seconds shown : Text} {url : Glyphs} {calls : List Command} {facts : Git.Facts}
  {reply : Publish.Reply} {f : Progress → Text}

section Saying

theorem exists_render_cancelled (ht : t.ShowsNotices) :
    ∃ shown, shown ≠ [] ∧ t.render "\n[yellow]⚠️  Check cancelled by user[/yellow]" = .ok shown := by
  have hnotice : "\n[yellow]⚠️  Check cancelled by user[/yellow]".toList =
      notice "\n" "yellow" "⚠️  Check cancelled by user" ([] ++ t.escape []) := by
    rw [ht.escape_nil]
    decide +kernel
  rw [hnotice]
  exact ht.exists_render (by decide +kernel) (by decide +kernel) (by decide +kernel) (by decide +kernel) []

/-- The markup that tells why a report was not uploaded. -/
def warning (t : Terminal) (problem : SyncProblem) : Text :=
  .concat ["[yellow]⚠️  Could not sync results:[/yellow] ", t.escape problem.message]

theorem exists_render_warning (ht : t.ShowsNotices) (problem : SyncProblem) :
    ∃ shown, shown ≠ [] ∧ t.render (warning t problem) = .ok shown := by
  have hnotice : "[yellow]⚠️  Could not sync results:[/yellow] ".toList =
      notice [] "yellow" "⚠️  Could not sync results:" " " := by decide +kernel
  rw [warning, Text.concat, List.flatten_cons, List.flatten_cons, List.flatten_nil, List.append_nil, hnotice,
    Markup.notice_append]
  exact ht.exists_render (by decide +kernel) (by decide +kernel) (by decide +kernel) (by decide +kernel) _

def uploading : Text := "syncing results"

theorem exists_render_failed (ht : t.ShowsNotices) (s : Text) : ∃ shown, shown ≠ [] ∧
    t.render (.concat ["\n[bold red]❌ Error while ", uploading, ":[/bold red] ", t.escape s]) = .ok shown := by
  have hnotice : Text.concat ["\n[bold red]❌ Error while ", uploading, ":[/bold red] "] =
      notice "\n" "bold red" "❌ Error while syncing results:" " " := by decide +kernel
  have hconcat : Text.concat ["\n[bold red]❌ Error while ", uploading, ":[/bold red] ", t.escape s] =
      Text.concat ["\n[bold red]❌ Error while ", uploading, ":[/bold red] "] ++ t.escape s := by
    simp [Text.concat]
  rw [hconcat, hnotice, Markup.notice_append]
  exact ht.exists_render (by decide +kernel) (by decide +kernel) (by decide +kernel) (by decide +kernel) s

theorem run_say (h : w.tools.terminal.render markup = .ok shown) (p : Progress) :
    (Run.say w markup).run p = (.ok (), { p with out := p.out ++ shown }) := by
  rw [Run.say, Run.sayIf, Run.render, h]
  rfl

/-- Nothing that was shown is taken back. -/
def Extends {α : Type} (m : Run α) : Prop := ∀ p, p.out <+: (m.run p).2.out

theorem extends_say (w : World) (markup : Text) : Extends (Run.say w markup) := by
  intro p
  cases h : w.tools.terminal.render markup with
  | ok shown =>
    rw [run_say h]
    exact List.prefix_append _ _
  | error e =>
    rw [Run.say, Run.sayIf, Run.render, h]
    exact List.prefix_refl _

theorem say_then_out {k : Unit → Run Unit} (hshown : shown ≠ []) (h : w.tools.terminal.render markup = .ok shown)
    (hk : Extends (k ())) (p : Progress) :
    ∃ more, more ≠ [] ∧ ((Run.say w markup >>= k).run p).2.out = p.out ++ more := by
  obtain ⟨rest, hrest⟩ := hk { p with out := p.out ++ shown }
  refine ⟨shown ++ rest, List.append_ne_nil_of_left_ne_nil hshown rest, ?_⟩
  rw [run_bind_of_ok (run_say h p), ← hrest, List.append_assoc]

theorem sayFailure_out (ht : w.tools.terminal.ShowsNotices) (he : e ≠ .unwritable) (p : Progress) :
    ∃ more, more ≠ [] ∧ ((sayFailure w uploading e).run p).2.out = p.out ++ more := by
  rw [sayFailure.eq_def]
  split
  · exact absurd rfl he
  · obtain ⟨shown, hsome, hshown⟩ := exists_render_cancelled ht
    exact ⟨shown, hsome, congrArg (·.2.out) (run_say hshown p)⟩
  · obtain ⟨shown, hsome, hshown⟩ :=
      exists_render_failed ht (if e.isOwn then e.message else .concat [e.label, ": ", e.message])
    dsimp only
    refine say_then_out hsome hshown ?_ p
    split
    · exact extends_say w _
    · exact fun p => List.prefix_refl _

/-- Markup about an upload ends a check where the terminal refuses it, or where the output is to hold what is no text. -/
theorem run_tellUpload (w : World) (o : CheckOptions) (isText : Bool) (markup : Text) (p : Progress) :
    ((tellUpload w o isText markup).run p).1 = ((w.tools.terminal.render markup).mapError .foreign).bind fun _ =>
      if o.json || isText then .ok () else .error .unwritable := by
  rw [tellUpload, Run.mention, Run.sayIf, Run.render]
  cases w.tools.terminal.render markup <;> cases o.json <;> cases isText <;> rfl

end Saying

section Replies

/-- The markup that tells of an upload. -/
def confirmation (check : Json) : Text := .concat ["[dim]Results synced (check ", check.shown.escaped, ")[/dim]"]

/-- The service has taken a report and names its check. -/
inductive Confirms : Publish.Reply → Json → Prop
  | intro {status body v members check} (accepted : Publish.isRefusal status = false) (read : Json.parse body = .ok v)
      (object : v.members? = some members) (named : (members.lookup "checkId".toList).getD .null = check)
      (given : Publish.isYes check = true) : Confirms (.answered status body) check

/-- The replies that are told with the address of the service. -/
inductive NamesUrl : Publish.Reply → Prop
  | failed {what} : NamesUrl (.failed what)
  | unread {status body problem} (accepted : Publish.isRefusal status = false)
      (read : Json.parse body = .error problem) (shallow : ∀ container, problem.fault ≠ .tooDeep container) :
      NamesUrl (.answered status body)

/-- The replies of the service at an address that end a check early, and the failure with which they do. -/
inductive Upsets (w : World) (o : CheckOptions) (url : Glyphs) : Publish.Reply → Failure → Prop
  | raised {error} : Upsets w o url (.raised error) (.foreign error)
  | tooDeep {status body problem container} (accepted : Publish.isRefusal status = false)
      (read : Json.parse body = .error problem) (deep : problem.fault = .tooDeep container) :
      Upsets w o url (.answered status body) (.limit problem)
  | noObject {status body v} (accepted : Publish.isRefusal status = false) (read : Json.parse body = .ok v)
      (other : v.members? = none) : Upsets w o url (.answered status body) .wrongShape
  | refused {reply : Publish.Reply} {check error} (confirmed : Confirms reply check)
      (refused : w.tools.terminal.render (confirmation check) = .error error) : Upsets w o url reply (.foreign error)
  | brokenCheck {reply : Publish.Reply} {check} {shown : Text} (confirmed : Confirms reply check)
      (text : o.json = false) (rendered : w.tools.terminal.render (confirmation check) = .ok shown)
      (broken : check.shown.text? = none) : Upsets w o url reply .unwritable
  | brokenUrl {reply : Publish.Reply} (named : NamesUrl reply) (text : o.json = false) (broken : url.text? = none) :
      Upsets w o url reply .unwritable

theorem unless_eq_error {b c : Bool} :
    (if b || c then Except.ok () else .error Failure.unwritable) = .error e ↔
      b = false ∧ c = false ∧ e = .unwritable := by
  cases b <;> cases c <;> simp [eq_comm]

/-- Why a reply is no receipt is told, and the check goes on, unless the address cannot be written. -/
theorem sayReceipt_sync (ht : w.tools.terminal.ShowsNotices) (o : CheckOptions) (problem : SyncProblem) (p : Progress) :
    ((sayReceipt w o (.error (.sync problem))).run p).1 = .error e ↔
      o.json = false ∧ problem.isPlain = false ∧ e = .unwritable := by
  obtain ⟨shown, -, hshown⟩ := exists_render_warning ht problem
  have hrun := run_tellUpload w o problem.isPlain (warning w.tools.terminal problem) p
  rw [hshown] at hrun
  exact (congrArg (· = Except.error e) hrun).to_iff.trans unless_eq_error

variable {receipt : Publish.Receipt}

theorem sayReceipt_unnamed (hno : Publish.isYes receipt.check = false) (w : World) (o : CheckOptions) (p : Progress) :
    ((sayReceipt w o (.ok receipt)).run p).1 = .ok () := by
  rw [sayReceipt, hno]
  rfl

theorem sayReceipt_named (hyes : Publish.isYes receipt.check = true) (w : World) (o : CheckOptions) (p : Progress) :
    ((sayReceipt w o (.ok receipt)).run p).1 = .error e ↔
      (∃ error, w.tools.terminal.render (confirmation receipt.check) = .error error ∧ e = .foreign error) ∨
      ∃ shown, w.tools.terminal.render (confirmation receipt.check) = .ok shown ∧ o.json = false ∧
        receipt.check.shown.text? = none ∧ e = .unwritable := by
  have hrun : ((sayReceipt w o (.ok receipt)).run p).1 =
      ((w.tools.terminal.render (confirmation receipt.check)).mapError .foreign).bind fun _ =>
        if o.json || receipt.check.shown.text?.isSome then .ok () else .error .unwritable := by
    rw [sayReceipt, if_pos hyes]
    exact run_tellUpload w o _ _ p
  rw [hrun]
  cases w.tools.terminal.render (confirmation receipt.check) with
  | error error =>
    constructor
    · rintro ⟨⟩
      exact .inl ⟨error, rfl, rfl⟩
    · rintro (⟨_, ⟨⟩, rfl⟩ | ⟨_, ⟨⟩, -⟩)
      rfl
  | ok shown => exact unless_eq_error.trans (by simp)

theorem confirms_answered {status : Nat} {body : Text} {v : Json} {members : List (Text × Json)}
    (accepted : Publish.isRefusal status = false) (read : Json.parse body = .ok v) (object : v.members? = some members)
    (check : Json) : Confirms (.answered status body) check ↔
      (members.lookup "checkId".toList).getD .null = check ∧ Publish.isYes check = true := by
  constructor
  · rintro ⟨-, read', object', named, given⟩
    cases read.symm.trans read'
    cases object.symm.trans object'
    exact ⟨named, given⟩
  · rintro ⟨named, given⟩
    exact ⟨accepted, read, object, named, given⟩

variable {status : Nat} {body : Text} {v : Json}

theorem not_upsets_refusal (hrefusal : Publish.isRefusal status = true) :
    ¬Upsets w o url (.answered status body) e := by
  have haccepted : ¬Publish.isRefusal status = false := by simp [hrefusal]
  rintro (_ | accepted | accepted | ⟨⟨accepted⟩, -⟩ | ⟨⟨accepted⟩, -⟩ | ⟨_ | ⟨accepted⟩, -⟩)
  all_goals exact haccepted accepted

/-- A body that is no JSON ends a check only when it is nested too deep or it cannot be told. -/
theorem Upsets.of_error {problem : Json.Problem} (hread : Json.parse body = .error problem)
    (h : Upsets w o url (.answered status body) e) :
    (∃ container, problem.fault = .tooDeep container) ∧ e = .limit problem ∨
      (∀ container, problem.fault ≠ .tooDeep container) ∧ o.json = false ∧ url.text? = none ∧ e = .unwritable := by
  cases h with
  | tooDeep _ hread' hdeep =>
    cases hread.symm.trans hread'
    exact .inl ⟨⟨_, hdeep⟩, rfl⟩
  | noObject _ hread' => cases hread.symm.trans hread'
  | refused confirmed | brokenCheck confirmed =>
    obtain ⟨-, hread', -, -, -⟩ := confirmed
    cases hread.symm.trans hread'
  | brokenUrl named htext hbroken =>
    obtain _ | ⟨-, hread', hshallow⟩ := named
    cases hread.symm.trans hread'
    exact .inr ⟨hshallow, htext, hbroken, rfl⟩

/-- A body that is JSON ends a check only when it is no object or the check that it names cannot be told. -/
theorem Upsets.of_ok (hread : Json.parse body = .ok v) (h : Upsets w o url (.answered status body) e) :
    v.members? = none ∧ e = .wrongShape ∨ ∃ check, Confirms (.answered status body) check ∧
      ((∃ error, w.tools.terminal.render (confirmation check) = .error error ∧ e = .foreign error) ∨
        ∃ shown, w.tools.terminal.render (confirmation check) = .ok shown ∧ o.json = false ∧
          check.shown.text? = none ∧ e = .unwritable) := by
  cases h with
  | tooDeep _ hread' => cases hread.symm.trans hread'
  | noObject _ hread' hother =>
    cases hread.symm.trans hread'
    exact .inl ⟨hother, rfl⟩
  | refused confirmed refused => exact .inr ⟨_, confirmed, .inl ⟨_, refused, rfl⟩⟩
  | brokenCheck confirmed text rendered broken => exact .inr ⟨_, confirmed, .inr ⟨_, rendered, text, broken, rfl⟩⟩
  | brokenUrl named =>
    obtain _ | ⟨-, hread', -⟩ := named
    cases hread.symm.trans hread'

/-- A body that is no JSON is told, and one that is nested too deep ends the check. -/
theorem receive_unread {problem : Json.Problem} (ht : w.tools.terminal.ShowsNotices)
    (haccepted : Publish.isRefusal status = false) (hread : Json.parse body = .error problem) (p : Progress) :
    ((sayReceipt w o (Publish.receive url seconds (.answered status body))).run p).1 = .error e ↔
      Upsets w o url (.answered status body) e := by
  rw [Publish.receive, haccepted, if_neg Bool.false_ne_true, hread]
  dsimp only
  split
  · next container hdeep =>
    constructor
    · rintro ⟨⟩
      exact .tooDeep haccepted hread hdeep
    · intro h
      obtain ⟨-, rfl⟩ | ⟨hshallow, -⟩ := h.of_error hread
      · rfl
      · exact absurd hdeep (hshallow container)
  · next hshallow =>
    rw [sayReceipt_sync ht]
    constructor
    · rintro ⟨htext, hbroken, rfl⟩
      exact .brokenUrl (.unread haccepted hread hshallow) htext (by simpa [SyncProblem.isPlain] using hbroken)
    · intro h
      obtain ⟨⟨container, hdeep⟩, -⟩ | ⟨-, htext, hbroken, rfl⟩ := h.of_error hread
      · exact absurd hdeep (hshallow container)
      · exact ⟨htext, by simp [SyncProblem.isPlain, hbroken], rfl⟩

theorem receive_other (haccepted : Publish.isRefusal status = false) (hread : Json.parse body = .ok v)
    (hother : v.members? = none) (p : Progress) :
    ((sayReceipt w o (Publish.receive url seconds (.answered status body))).run p).1 = .error e ↔
      Upsets w o url (.answered status body) e := by
  rw [Publish.receive, haccepted, if_neg Bool.false_ne_true, hread]
  dsimp only
  rw [hother]
  constructor
  · rintro ⟨⟩
    exact .noObject haccepted hread hother
  · intro h
    obtain ⟨-, rfl⟩ | ⟨check, ⟨-, hread', hobject, -, -⟩, -⟩ := h.of_ok hread
    · rfl
    · cases hread.symm.trans hread'
      cases hother.symm.trans hobject

theorem receive_object {members : List (Text × Json)} (haccepted : Publish.isRefusal status = false)
    (hread : Json.parse body = .ok v) (hobject : v.members? = some members) (p : Progress) :
    ((sayReceipt w o (Publish.receive url seconds (.answered status body))).run p).1 = .error e ↔
      Upsets w o url (.answered status body) e := by
  have hconfirms := confirms_answered haccepted hread hobject
  have hreceive : ∃ success, Publish.receive url seconds (.answered status body) =
      .ok ⟨success, (members.lookup "checkId".toList).getD .null⟩ := by
    refine ⟨(members.lookup "success".toList).elim true Publish.isYes, ?_⟩
    rw [Publish.receive, haccepted, if_neg Bool.false_ne_true, hread]
    dsimp only
    rw [hobject]
  obtain ⟨success, hreceive⟩ := hreceive
  rw [hreceive]
  generalize (members.lookup "checkId".toList).getD .null = check at hconfirms
  constructor
  · intro h
    cases hyes : Publish.isYes check with
    | false =>
      rw [sayReceipt_unnamed hyes] at h
      cases h
    | true =>
      have hconfirmed := (hconfirms check).mpr ⟨rfl, hyes⟩
      obtain ⟨error, hrefused, rfl⟩ | ⟨shown, hrendered, htext, hbroken, rfl⟩ := (sayReceipt_named hyes w o p).mp h
      · exact .refused hconfirmed hrefused
      · exact .brokenCheck hconfirmed htext hrendered hbroken
  · intro h
    obtain ⟨hother, -⟩ | ⟨named, hconfirmed, hcause⟩ := h.of_ok hread
    · cases hobject.symm.trans hother
    · obtain ⟨rfl, hyes⟩ := (hconfirms named).mp hconfirmed
      exact (sayReceipt_named hyes w o p).mpr hcause

theorem sayReceipt_receive (ht : w.tools.terminal.ShowsNotices) (o : CheckOptions) (url : Glyphs) (seconds : Text)
    (reply : Publish.Reply) (p : Progress) :
    ((sayReceipt w o (Publish.receive url seconds reply)).run p).1 = .error e ↔ Upsets w o url reply e := by
  cases reply with
  | timedOut =>
    rw [Publish.receive, sayReceipt_sync ht]
    constructor
    · rintro ⟨-, ⟨⟩, -⟩
    · rintro (_ | _ | _ | ⟨⟨⟩, -⟩ | ⟨⟨⟩, -⟩ | ⟨⟨⟩, -⟩)
  | failed what =>
    rw [Publish.receive, sayReceipt_sync ht]
    constructor
    · rintro ⟨htext, hbroken, rfl⟩
      exact .brokenUrl .failed htext (by simpa [SyncProblem.isPlain] using hbroken)
    · rintro (_ | _ | _ | ⟨⟨⟩, -⟩ | ⟨⟨⟩, -⟩ | ⟨-, htext, hbroken⟩)
      exact ⟨htext, by simp [SyncProblem.isPlain, hbroken], rfl⟩
  | raised error =>
    constructor
    · rintro ⟨⟩
      exact .raised
    · rintro (_ | _ | _ | ⟨⟨⟩, -⟩ | ⟨⟨⟩, -⟩ | ⟨⟨⟩, -⟩)
      rfl
  | answered status body =>
    cases haccepted : Publish.isRefusal status with
    | true =>
      rw [Publish.receive, if_pos haccepted, sayReceipt_sync ht]
      refine ⟨?_, fun h => absurd h (not_upsets_refusal haccepted)⟩
      rintro ⟨-, ⟨⟩, -⟩
    | false =>
      cases hread : Json.parse body with
      | error problem => exact receive_unread ht haccepted hread p
      | ok v =>
        cases hobject : v.members? with
        | none => exact receive_other haccepted hread hobject p
        | some members => exact receive_object haccepted hread hobject p

end Replies

section Uploading

namespace Reviewed

def questions (r : Reviewed) : List Command :=
  Git.questions r.settings.fetching.remote (r.pipeline.branch r.environment) (factsRef r.scope)

def post (r : Reviewed) (credentials : Credentials) (facts : Git.Facts) : Publish.Post :=
  ⟨Publish.urlOf r.settings.apiUrl, (r.parcel credentials facts).toJson⟩

end Reviewed

/-- What ends a check during the upload, after some calls to git: that git does not answer a command, or a reply of the
service. -/
inductive Upset (w : World) (o : CheckOptions) (r : Reviewed) (credentials : Credentials) (calls : List Command) :
    Failure → Prop
  | git {e : Failure} (unanswered : Git.unanswered? w.git calls r.questions = some e) : Upset w o r credentials calls e
  | service {facts : Git.Facts} {e : Failure} (told : (r.facts.resume w.git { calls }).1 = .ok facts)
      (upsets : Upsets w o (r.post credentials facts).url (w.service (r.post credentials facts)) e) :
      Upset w o r credentials calls e

theorem resultCount_parcel (parcel : Publish.Parcel) :
    Publish.resultCount parcel.toJson = .ok parcel.report.findings.length := by
  have hmembers : ∃ rest, parcel.toJson.members? =
      some (("threadlines".toList, .arr (parcel.rules.map Publish.ruleJson)) ::
        ("diff".toList, .str parcel.change.text) :: ("files".toList, .texts parcel.change.files) ::
        ("results".toList, .arr (parcel.report.findings.map Publish.findingJson)) :: rest) := ⟨_, rfl⟩
  obtain ⟨rest, hmembers⟩ := hmembers
  have hrules : ("results".toList == "threadlines".toList) = false := by decide
  have hdiff : ("results".toList == "diff".toList) = false := by decide
  have hfiles : ("results".toList == "files".toList) = false := by decide
  rw [Publish.resultCount, hmembers]
  simp only [List.lookup_cons, hrules, hdiff, hfiles, beq_self_eq_true, Publish.size?, List.length_map, Option.elim]

theorem exists_post (r : Reviewed) (credentials : Credentials) (facts : Git.Facts) : ∃ log,
    Publish.post r.settings.apiUrl (r.parcel credentials facts).toJson = .ok (r.post credentials facts, log) := by
  rw [Publish.post, resultCount_parcel]
  exact ⟨_, rfl⟩

theorem upload_answered {facts : Git.Facts} (ht : w.tools.terminal.ShowsNotices)
    (htold : (r.facts.resume w.git { calls := p.calls }).1 = .ok facts) :
    ((upload w o r credentials).run p).1 = .error e ↔
      Upsets w o (r.post credentials facts).url (w.service (r.post credentials facts)) e := by
  have hask : ((Run.ask w o.debug r.facts).run p).1 = .ok facts := htold
  obtain ⟨log, hpost⟩ := exists_post r credentials facts
  rw [upload, run_bind]
  generalize (Run.ask w o.debug r.facts).run p = asked at hask ⊢
  obtain ⟨_, p'⟩ := asked
  cases hask
  dsimp only
  rw [hpost]
  exact sayReceipt_receive ht o _ _ _ _

theorem upload_unanswered (htold : (r.facts.resume w.git { calls := p.calls }).1 = .error e) :
    ((upload w o r credentials).run p).1 = .error e := by
  have hask : ((Run.ask w o.debug r.facts).run p).1 = .error e := htold
  rw [upload, run_bind]
  generalize (Run.ask w o.debug r.facts).run p = asked at hask ⊢
  obtain ⟨_, p'⟩ := asked
  cases hask
  rfl

theorem facts_cases (w : World) (r : Reviewed) (calls : List Command) :
    (∃ facts, (r.facts.resume w.git { calls }).1 = .ok facts ∧ Git.unanswered? w.git calls r.questions = none) ∨
      ∃ e, (r.facts.resume w.git { calls }).1 = .error e ∧ Git.unanswered? w.git calls r.questions = some e := by
  have hends :=
    Git.asks_facts r.settings.fetching.remote (r.pipeline.branch r.environment) (factsRef r.scope) w.git calls []
  dsimp only [Session.Ends] at hends
  split at hends
  · next facts t htold => exact .inl ⟨facts, congrArg Prod.fst htold, hends.2⟩
  · next e t htold => exact .inr ⟨e, congrArg Prod.fst htold, hends⟩

theorem upload_error_iff (ht : w.tools.terminal.ShowsNotices) (o : CheckOptions) (r : Reviewed)
    (credentials : Credentials) (p : Progress) (e : Failure) :
    ((upload w o r credentials).run p).1 = .error e ↔ Upset w o r credentials p.calls e := by
  rcases facts_cases w r p.calls with ⟨facts, htold, hnone⟩ | ⟨e', htold, hsome⟩
  · rw [upload_answered ht htold]
    constructor
    · exact fun h => .service htold h
    · intro h
      cases h with
      | git unanswered => cases hnone.symm.trans unanswered
      | service told upsets =>
        cases htold.symm.trans told
        exact upsets
  · rw [upload_unanswered htold]
    constructor
    · rintro ⟨⟩
      exact .git hsome
    · intro h
      cases h with
      | git unanswered =>
        cases hsome.symm.trans unanswered
        rfl
      | service told => cases htold.symm.trans told

theorem keeps_tellUpload (hf : IsApart f) (hout : o.json = true ∨ ∀ p out, f { p with out } = f p) (w : World)
    (isText : Bool) (markup : Text) : Keeps f (tellUpload w o isText markup) := by
  rw [tellUpload]
  split
  · exact Keeps.mention hf w markup
  · next htext => exact Keeps.sayIf (hout.resolve_left htext) w isText markup

theorem keeps_sayReceipt (hf : IsApart f) (hout : o.json = true ∨ ∀ p out, f { p with out } = f p) (w : World)
    (x : Except Failure Publish.Receipt) : Keeps f (sayReceipt w o x) := by
  rw [sayReceipt.eq_def]
  split
  · exact keeps_tellUpload hf hout w _ _
  · exact Keeps.throw _
  · split
    · exact keeps_tellUpload hf hout w _ _
    · exact Keeps.pure _

theorem keeps_upload (hf : IsApart f) (hout : o.json = true ∨ ∀ p out, f { p with out } = f p) (w : World)
    (r : Reviewed) (credentials : Credentials) : Keeps f (upload w o r credentials) := by
  refine (Keeps.ask hf _ _ _).bind fun facts => (Keeps.ofExcept _).bind fun sent => ?_
  refine Keeps.bind (Keeps.modify fun p => hf.posts p _) fun _ => (Keeps.report hf _ _ _).bind fun _ => ?_
  exact keeps_sayReceipt hf hout w _

theorem runCheck_upload (hexamine : (examine w o).run w.start = (.ok (some r), p))
    (hcredentials : r.credentials? = some credentials) : runCheck w o =
      match (upload w o r credentials).run { p with stage := uploading } with
      | (.ok _, q) => (r.code, q)
      | (.error e, q) => (failureCode e, ((sayFailure w q.stage e).run q).2) := by
  have hconclude : (conclude w o (some r)).run p =
      (do upload w o r credentials; return r.code : Run Nat).run { p with stage := uploading } := by
    rw [conclude, hcredentials]
    rfl
  rw [runCheck, check, run_bind, hexamine]
  dsimp only
  rw [hconclude, run_bind]
  rcases (upload w o r credentials).run { p with stage := uploading } with ⟨_ | _, q⟩ <;> rfl

theorem upsets_ne_unwritable (hjson : o.json = true) (h : Upsets w o url reply e) : e ≠ .unwritable := by
  have hdata : ¬o.json = false := by simp [hjson]
  rintro rfl
  cases h with
  | brokenCheck confirmed text => exact hdata text
  | brokenUrl named text => exact hdata text

theorem upset_ne_unwritable (hjson : o.json = true) (h : Upset w o r credentials calls e) : e ≠ .unwritable := by
  cases h with
  | git unanswered =>
    rintro rfl
    exact Git.unanswered?_ne_unwritable unanswered
  | service told upsets => exact upsets_ne_unwritable hjson upsets

end Uploading

section Standing

namespace Reviewed

/-- Some result asks for attention or could not be had. -/
def Fails (r : Reviewed) : Prop := ∃ x ∈ r.report.findings, x.status = .attention ∨ x.status = .error

theorem hasFailures_iff (r : Reviewed) : r.report.hasFailures = true ↔ r.Fails := by
  simp [Report.hasFailures, Finding.isFailure, Fails]

end Reviewed

/-- A check ends as its report says: with exit code 1 when some result is a failure, and with 0 when none is; and output
that is data is the report. -/
structure Stands (w : World) (o : CheckOptions) (r : Reviewed) (done : Nat × Progress) : Prop where
  code : done.1 = 1 ∧ r.Fails ∨ done.1 = 0 ∧ ¬r.Fails
  out : o.json = true → done.2.out = r.shown w.tools.terminal

theorem code_iff (r : Reviewed) : r.code = 1 ∧ r.Fails ∨ r.code = 0 ∧ ¬r.Fails := by
  rw [← r.hasFailures_iff, Reviewed.code]
  cases r.report.hasFailures <;> simp

/-- A repository with one rule and one file, outside of git, a model that is content with everything, and a service that
answers every upload with a body. -/
def plainWorld (body : Text) : World where
  tools := .standard
  tree := .dir
    [("threadlines".toList, .dir [("t.md".toList, .file (Text.encode
        "---\nid: t\nversion: 1.0.0\npatterns: [\"x\"]\n---\nRule.\n"))]),
      ("x".toList, .file (Text.encode "a\n"))]
  here := Path.root
  environment := [("THREADLINE_API_KEY".toList, "k".toList), ("THREADLINE_ACCOUNT".toList, "a".toList)]
  git _ _ := .exited 128 [] []
  model _ := { events := [.said "\x7b\"status\": \"compliant\"\x7d", .closed false none []] }
  service _ := .answered 200 body
  timing _ := ⟨[], [], 0⟩
  milliseconds := 0

def plainCheck : CheckOptions := { file := some "x".toList, json := true }

/-- A check that is online has come to a report without a failure. -/
def passes (done : Except Failure (Option Reviewed) × Progress) : Bool :=
  match done.1 with
  | .ok (some r) => r.settings.online && !r.report.hasFailures
  | _ => false

theorem exists_of_passes {done : Except Failure (Option Reviewed) × Progress} (h : passes done = true) :
    ∃ r p, done = (.ok (some r), p) ∧ r.settings.online = true ∧ ¬r.Fails := by
  obtain ⟨result, p⟩ := done
  rw [passes] at h
  split at h
  · next r hresult =>
    rw [Bool.and_eq_true, Bool.not_eq_true'] at h
    refine ⟨r, p, congrArg (·, p) hresult, h.1, ?_⟩
    rw [← r.hasFailures_iff, h.2]
    exact Bool.false_ne_true
  · cases h

/-- What the check comes to before the upload, and what it returns when the service answers with an object or a list. -/
theorem runs_plainWorld : passes ((examine (plainWorld []) plainCheck).run (plainWorld []).start) = true ∧
    (runCheck (plainWorld "\x7b\x7d") plainCheck).1 = 0 ∧ (runCheck (plainWorld "[]") plainCheck).1 = 1 := by
  decide +kernel

theorem examine_service (w : World) (service : Publish.Post → Publish.Reply) (o : CheckOptions) :
    examine { w with service } o = examine w o := rfl

theorem exists_examine (body : Text) : ∃ r p, (examine (plainWorld body) plainCheck).run (plainWorld body).start =
    (.ok (some r), p) ∧ r.settings.online = true ∧ ¬r.Fails := by
  have hsame : examine (plainWorld body) plainCheck = examine (plainWorld []) plainCheck :=
    examine_service (plainWorld []) (fun _ => .answered 200 body) plainCheck
  have hstart : (plainWorld body).start = (plainWorld []).start := rfl
  rw [hsame, hstart]
  exact exists_of_passes runs_plainWorld.1

end Standing

end RuleReview.CommandLine
