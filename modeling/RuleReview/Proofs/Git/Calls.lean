import Mathlib.Data.List.Infix
import RuleReview.Git.Session
import RuleReview.Proofs.Text.Breaks
import RuleReview.Proofs.Text.Utf8

/-! # What a session calls

Every reply of git may depend on all calls before, so what is said about a session is said about its calls in their
order: which call is issued after which others, how git answers it there, and with which result and which calls a
session ends. The last is put together from the steps of the session.
-/
namespace RuleReview

/-- The call `c` is issued right after the calls `h`. -/
def Issued (calls h : List Command) (c : Command) : Prop := h ++ [c] <+: calls

section Issued
variable {calls more h : List Command} {c d : Command}

theorem not_issued_nil : ¬Issued [] h c := by simp [Issued]

theorem issued_concat : Issued (calls ++ [d]) h c ↔ Issued calls h c ∨ h = calls ∧ c = d := by
  simp [Issued, List.prefix_concat_iff, or_comm]

theorem Issued.append (hc : Issued calls h c) (more : List Command) : Issued (calls ++ more) h c :=
  hc.trans (List.prefix_append calls more)

theorem Issued.of_concat (hc : Issued (calls ++ [d]) h c) (hne : c ≠ d) : Issued calls h c :=
  (issued_concat.mp hc).resolve_right fun hlast => hne hlast.2

theorem Issued.isPrefix (hc : Issued calls h c) : h <+: calls := (List.prefix_append h [c]).trans hc

theorem Issued.mem (hc : Issued calls h c) : c ∈ calls := hc.subset (by simp)

theorem issued_of_mem (hc : c ∈ calls) : ∃ h, Issued calls h c := by
  obtain ⟨h, rest, rfl⟩ := List.append_of_mem hc
  exact ⟨h, rest, by simp⟩

theorem forall_issued_concat {P : List Command → Command → Prop} :
    (∀ h c, Issued (calls ++ [d]) h c → P h c) ↔ (∀ h c, Issued calls h c → P h c) ∧ P calls d := by
  simp only [issued_concat]
  constructor
  · exact fun hP => ⟨fun h c hc => hP h c (.inl hc), hP calls d (.inr ⟨rfl, rfl⟩)⟩
  · rintro ⟨hP, hd⟩ h c (hc | ⟨rfl, rfl⟩)
    · exact hP h c hc
    · exact hd

variable {P : Command → Prop}

/-- None of the calls has the property. -/
def Free (P : Command → Prop) (h : List Command) : Prop := ∀ c ∈ h, ¬P c

theorem free_concat : Free P (h ++ [c]) ↔ Free P h ∧ ¬P c := by simp [Free, or_imp, forall_and]

/-- Between calls without the property there is only one place where the one call that has it is issued. -/
theorem Issued.eq_of_free {h' : List Command} {c' : Command} (hh : Free P h) (hmore : Free P more)
    (hi : Issued (h ++ [c] ++ more) h' c') (hc : P c') : h' = h ∧ c' = c := by
  induction more using List.reverseRecOn with
  | nil =>
    rw [List.append_nil] at hi
    exact (issued_concat.mp hi).resolve_left fun hi => hh c' hi.mem hc
  | append_singleton more d ih =>
    rw [← List.append_assoc] at hi
    obtain ⟨hmore, hd⟩ := free_concat.mp hmore
    exact ih hmore (hi.of_concat fun hcd => hd (hcd ▸ hc))

end Issued

/-- After the calls `h` git answers `c` at all. -/
def Git.Exits (git : Git) (h : List Command) (c : Command) : Prop := ∃ code out err, git h c = .exited code out err

def Git.Succeeds (git : Git) (h : List Command) (c : Command) : Prop := ∃ out err, git h c = .exited 0 out err

def Git.Refuses (git : Git) (h : List Command) (c : Command) : Prop :=
  ∃ code out err, git h c = .exited code out err ∧ code ≠ 0

/-- After the calls `h` git carries out `c` and prints `s`, up to blanks around it. -/
def Git.Prints (git : Git) (h : List Command) (c : Command) (s : Text) : Prop :=
  ∃ out err, git h c = .exited 0 out err ∧ (Session.decodeOutput out).trim = s

section Replies
variable {git : Git} {h : List Command} {c : Command}

theorem Git.Succeeds.not_refuses (hs : git.Succeeds h c) : ¬git.Refuses h c := by
  rintro ⟨code, out', err', hcode, hne⟩
  obtain ⟨out, err, h0⟩ := hs
  rw [h0] at hcode
  cases hcode
  exact hne rfl

theorem Git.Refuses.exits (hr : git.Refuses h c) : git.Exits h c :=
  let ⟨code, out, err, hcode, _⟩ := hr
  ⟨code, out, err, hcode⟩

theorem Git.Succeeds.exits (hs : git.Succeeds h c) : git.Exits h c :=
  let ⟨out, err, h0⟩ := hs
  ⟨0, out, err, h0⟩

end Replies

namespace Session
variable {α β : Type} {s : Session α} {k : α → Session β} {git : Git} {h : List Command} {c : Command}
  {ok ok' : α → List Command → Prop} {fail fail' : Failure → List Command → Prop}

theorem decodeOutput_encode (s : Text) : decodeOutput (Text.encode s) = Text.normalizeBreaks s := by
  rw [decodeOutput, Text.decodeLossy_encode]

theorem decodeOutput_encode_of_notMem {s : Text} (h : '\r' ∉ s) : decodeOutput (Text.encode s) = s := by
  rw [decodeOutput_encode, Text.normalizeBreaks_of_notMem h]

/-- After the calls `h`, whatever was logged, the session ends with a value and calls as in `ok`, or with a failure and
calls as in `fail`. -/
def Ends (s : Session α) (git : Git) (h : List Command) (ok : α → List Command → Prop)
    (fail : Failure → List Command → Prop) : Prop :=
  ∀ logs, match s.resume git ⟨h, logs⟩ with
    | (.ok a, t) => ok a t.calls
    | (.error e, t) => fail e t.calls

theorem Ends.start {Q : Except Failure α → List Command → Prop}
    (hs : s.Ends git [] (fun a => Q (.ok a)) (fun e => Q (.error e))) :
    Q (s.start git).1 (s.start git).2.calls := by
  change Q (s.resume git ⟨[], []⟩).1 (s.resume git ⟨[], []⟩).2.calls
  match s.resume git ⟨[], []⟩, hs [] with
  | (.ok a, t), hok => exact hok
  | (.error e, t), hfail => exact hfail

theorem Ends.mono (hs : s.Ends git h ok fail) (hok : ∀ a h', ok a h' → ok' a h')
    (hfail : ∀ e h', fail e h' → fail' e h') : s.Ends git h ok' fail' := by
  intro logs
  match s.resume git ⟨h, logs⟩, hs logs with
  | (.ok a, t), ha => exact hok a t.calls ha
  | (.error e, t), he => exact hfail e t.calls he

theorem Ends.pure {a : α} (ha : ok a h) : (Pure.pure a : Session α).Ends git h ok fail := fun _ => ha

theorem Ends.throw {e : Failure} (he : fail e h) : (MonadExcept.throw e : Session α).Ends git h ok fail :=
  fun _ => he

theorem Ends.log {level : Level} {message : Text} {ok : Unit → List Command → Prop} (hok : ok () h) :
    (Session.log level message).Ends git h ok fail := fun _ => hok

theorem Ends.ofExcept {r : Except Failure α} (hok : ∀ a, r = .ok a → ok a h) (hfail : ∀ e, r = .error e → fail e h) :
    (Session.ofExcept r).Ends git h ok fail := by
  cases r with
  | error e => exact Ends.throw (hfail e rfl)
  | ok a => exact Ends.pure (hok a rfl)

theorem resume_bind (s : Session α) (k : α → Session β) (git : Git) (t : Trace) :
    (s >>= k).resume git t = match s.resume git t with
      | (.ok a, t') => (k a).resume git t'
      | (.error e, t') => (.error e, t') := by
  change (match s.resume git t with
    | (r, t') => ExceptT.bindCont (fun a => k a git) r t') = _
  rcases s.resume git t with ⟨_ | _, _⟩ <;> rfl

/-- A session goes on where its first part ends well, and fails where that fails. -/
theorem Ends.bind {ok : β → List Command → Prop}
    (hs : s.Ends git h (fun a h' => (k a).Ends git h' ok fail) fail) : (s >>= k).Ends git h ok fail := by
  intro logs
  rw [resume_bind]
  match s.resume git ⟨h, logs⟩, hs logs with
  | (.ok a, t), ha => exact ha t.logs
  | (.error e, t), he => exact he

theorem resume_ask (git : Git) (t : Trace) (c : Command) :
    (ask c).resume git t = (match git t.calls c with
      | .missing => .error (.repository (.gitMissing (Text.joinWith " " (fixedArguments ++ c))))
      | .interrupted => .error .interrupted
      | .raised e => .error (.foreign e)
      | .exited code out err => .ok ⟨fixedArguments ++ c, code, decodeOutput out, decodeOutput err⟩,
      { t with calls := t.calls ++ [c] }) := by
  have hread : (read : Session Git).resume git t = (.ok git, t) := rfl
  have hget : (get : Session Trace).resume git t = (.ok t, t) := rfl
  have hset (t' : Trace) : (set t' : Session PUnit).resume git t = (.ok ⟨⟩, t') := rfl
  simp only [ask, resume_bind, hread, hget, hset]
  cases git t.calls c <;> rfl

theorem Ends.ask {ok : Outcome → List Command → Prop}
    (hexit : ∀ code out err, git h c = .exited code out err →
      ok ⟨fixedArguments ++ c, code, decodeOutput out, decodeOutput err⟩ (h ++ [c]))
    (hnone : ∀ e, ¬git.Exits h c → fail e (h ++ [c])) : (Session.ask c).Ends git h ok fail := by
  intro logs
  rw [resume_ask]
  cases hc : git h c with
  | missing => exact hnone _ (by simp [Git.Exits, hc])
  | interrupted => exact hnone _ (by simp [Git.Exits, hc])
  | raised => exact hnone _ (by simp [Git.Exits, hc])
  | exited code out err => exact hexit code out err hc

theorem Ends.ask_cases {ok : Outcome → List Command → Prop}
    (hdone : git.Succeeds h c → ∀ r : Outcome, r.ok = true → ok r (h ++ [c]))
    (hrefused : git.Refuses h c → ∀ r : Outcome, r.ok = false → ok r (h ++ [c]))
    (hnone : ∀ e, ¬git.Exits h c → fail e (h ++ [c])) : (Session.ask c).Ends git h ok fail := by
  refine Ends.ask (fun code out err hc => ?_) hnone
  by_cases hcode : code = 0
  · subst hcode
    exact hdone ⟨out, err, hc⟩ _ rfl
  · exact hrefused ⟨code, out, err, hc, hcode⟩ _ (by simp [Outcome.ok, hcode])

theorem Ends.output {ok : Text → List Command → Prop}
    (hprint : ∀ out err, git h c = .exited 0 out err → ok (decodeOutput out) (h ++ [c]))
    (hfail : ∀ e, ¬git.Succeeds h c → fail e (h ++ [c])) : (Session.output c).Ends git h ok fail := by
  refine Ends.bind (Ends.bind (Ends.ask (fun code out err hc => ?_) fun e hnone => ?_))
  · by_cases hcode : code = 0
    · subst hcode
      exact Ends.pure (Ends.pure (hprint out err hc))
    · have hfailed : (Outcome.ok ⟨fixedArguments ++ c, code, decodeOutput out, decodeOutput err⟩) = false := by
        simp [Outcome.ok, hcode]
      rw [hfailed]
      exact Ends.throw (hfail _ fun hs => hs.not_refuses ⟨code, out, err, hc, hcode⟩)
  · exact hfail e fun hs => hnone hs.exits

theorem Ends.output_of_eq {out err : List UInt8} {ok : Text → List Command → Prop} (hout : git h c = .exited 0 out err)
    (hok : ok (decodeOutput out) (h ++ [c])) : (Session.output c).Ends git h ok fail := by
  refine Ends.output (fun out' err' hout' => ?_) fun _ hnone => absurd ⟨out, err, hout⟩ hnone
  cases hout.symm.trans hout'
  exact hok

theorem Ends.lines {ok : List Text → List Command → Prop} (hprint : ∀ ls, ok ls (h ++ [c]))
    (hfail : ∀ e, ¬git.Succeeds h c → fail e (h ++ [c])) : (Session.lines c).Ends git h ok fail :=
  Ends.bind (Ends.output (fun _ _ _ => Ends.pure (hprint _)) hfail)

section Avoids
variable {P : Command → Prop}

/-- Whatever git replies, the session calls for nothing with the property. -/
def Avoids (P : Command → Prop) (s : Session α) : Prop :=
  ∀ git h, Free P h → s.Ends git h (fun _ => Free P) (fun _ => Free P)

theorem Avoids.pure (a : α) : Avoids P (Pure.pure a : Session α) := fun _ _ hh => Ends.pure hh

theorem Avoids.throw (e : Failure) : Avoids P (MonadExcept.throw e : Session α) := fun _ _ hh => Ends.throw hh

theorem Avoids.log (level : Level) (message : Text) : Avoids P (Session.log level message) :=
  fun _ _ hh => Ends.log hh

theorem Avoids.ofExcept (r : Except Failure α) : Avoids P (Session.ofExcept r) :=
  fun _ _ hh => Ends.ofExcept (fun _ _ => hh) fun _ _ => hh

theorem Avoids.bind (hs : Avoids P s) (hk : ∀ a, Avoids P (k a)) : Avoids P (s >>= k) :=
  fun git h hh => Ends.bind ((hs git h hh).mono (fun a h' hh' => hk a git h' hh') fun _ _ hh' => hh')

theorem Avoids.ask (hc : ¬P c) : Avoids P (Session.ask c) :=
  fun _ _ hh => Ends.ask (fun _ _ _ _ => free_concat.mpr ⟨hh, hc⟩) fun _ _ => free_concat.mpr ⟨hh, hc⟩

theorem Avoids.run (hc : ¬P c) : Avoids P (Session.run c) := by
  refine (Avoids.ask hc).bind fun r => ?_
  split
  · exact Avoids.pure r
  · exact Avoids.throw _

theorem Avoids.output (hc : ¬P c) : Avoids P (Session.output c) := (Avoids.run hc).bind fun r => Avoids.pure r.out

theorem Avoids.lines (hc : ¬P c) : Avoids P (Session.lines c) := (Avoids.output hc).bind fun _ => Avoids.pure _

theorem avoids_unless (hs : Avoids P s) (b : Bool) (e : Failure) :
    Avoids P (do
      if b then MonadExcept.throw e
      s) := by
  cases b with
  | true => exact (Avoids.throw e).bind fun (_ : PUnit) => hs
  | false => exact hs

theorem Avoids.ends_bind {ok : β → List Command → Prop} (hs : Avoids P s) (hh : Free P h)
    (hk : ∀ a h', Free P h' → (k a).Ends git h' ok fail)
    (hfail : ∀ e h', Free P h' → fail e h') : (s >>= k).Ends git h ok fail :=
  Ends.bind ((hs git h hh).mono (fun a h' hh' => hk a h' hh') hfail)

end Avoids

end Session

end RuleReview
