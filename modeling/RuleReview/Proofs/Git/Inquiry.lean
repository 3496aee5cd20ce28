import RuleReview.Git.Facts
import RuleReview.Proofs.Git.Calls

/-! # What git is asked for the facts about a repository

The same commands are run whatever git replies, unless it does not reply at all: an exit code or output of any kind
makes a fact absent and no more, and the session fails with the first command that git leaves unanswered.
-/
namespace RuleReview.Git
open Session

def authorQuestions (ref : Text) : List Command :=
  let name : Command := ["log", "-1", "--format=%an", ref]
  let address : Command := ["log", "-1", "--format=%ae", ref]
  [name, address]

def branchQuestions (known : Option Text) : List Command :=
  if (known.filter (!·.isEmpty)).isSome then [] else [["rev-parse", "--abbrev-ref", "HEAD"]]

def questions (remote : Text) (known : Option Text) (ref : Text) : List Command :=
  let url : Command := ["remote", "get-url", remote]
  let commit : Command := ["rev-parse", ref]
  let message : Command := ["log", "-1", "--format=%B", ref]
  authorQuestions ref ++ url :: (branchQuestions known ++ [commit, message])

/-- The failure of the first command that git does not answer, when it is asked one after another. -/
def unanswered? (git : RuleReview.Git) (h : List Command) : List Command → Option Failure
  | [] => none
  | c :: cs =>
    match git h c with
    | .missing => some (.repository (.gitMissing (Text.joinWith " " (fixedArguments ++ c))))
    | .interrupted => some .interrupted
    | .raised e => some (.foreign e)
    | .exited .. => unanswered? git (h ++ [c]) cs

/-- Whatever git replies, the session asks it these commands, and fails only where one is not answered. -/
def Asks (cs : List Command) {α : Type} (s : Session α) : Prop :=
  ∀ git h, s.Ends git h (fun _ h' => h' = h ++ cs ∧ unanswered? git h cs = none)
    fun e _ => unanswered? git h cs = some e

section Asks
variable {α β : Type} {s : Session α} {k : α → Session β} {cs ds : List Command}

theorem unanswered?_append (git : RuleReview.Git) (h cs ds : List Command) : unanswered? git h (cs ++ ds) =
    (unanswered? git h cs).or (unanswered? git (h ++ cs) ds) := by
  induction cs generalizing h with
  | nil => rw [List.append_nil]; rfl
  | cons c cs ih =>
    rw [List.cons_append, unanswered?, unanswered?]
    cases git h c with
    | missing => rfl
    | interrupted => rfl
    | raised => rfl
    | exited => rw [ih, List.append_assoc]; rfl

theorem unanswered?_ne_unwritable {git : RuleReview.Git} {h cs : List Command} :
    unanswered? git h cs ≠ some .unwritable := by
  induction cs generalizing h with
  | nil => nofun
  | cons c cs ih =>
    rw [unanswered?]
    split
    · nofun
    · nofun
    · nofun
    · exact ih

theorem Asks.pure (a : α) : Asks [] (Pure.pure a : Session α) := fun _ _ => Ends.pure ⟨(List.append_nil _).symm, rfl⟩

theorem Asks.bind (hs : Asks cs s) (hk : ∀ a, Asks ds (k a)) : Asks (cs ++ ds) (s >>= k) := by
  intro git h
  refine Ends.bind ((hs git h).mono ?_ ?_)
  · rintro a h' ⟨rfl, hnone⟩
    refine (hk a git (h ++ cs)).mono ?_ ?_
    · rintro b h' ⟨rfl, hnone'⟩
      exact ⟨List.append_assoc .., by rw [unanswered?_append, hnone, hnone']; rfl⟩
    · rintro e h' hfail
      rw [unanswered?_append, hnone, hfail]
      rfl
  · rintro e h' hfail
    rw [unanswered?_append, hfail]
    rfl

theorem Asks.ask (c : Command) : Asks [c] (Session.ask c) := by
  intro git h logs
  rw [resume_ask]
  cases hc : git h c with
  | missing => simp [unanswered?, hc]
  | interrupted => simp [unanswered?, hc]
  | raised => simp [unanswered?, hc]
  | exited => simp [unanswered?, hc]

theorem Asks.trimmed (c : Command) : Asks [c] (Session.trimmed? c) := by
  refine (Asks.ask c).bind fun r => ?_
  split
  · exact Asks.pure _
  · exact Asks.pure _

theorem asks_author (ref : Text) : Asks (authorQuestions ref) (author ref) :=
  (Asks.trimmed _).bind fun _ => (Asks.trimmed _).bind fun _ => Asks.pure _

theorem asks_facts (remote : Text) (known : Option Text) (ref : Text) :
    Asks (questions remote known ref) (facts remote known ref) := by
  refine (asks_author ref).bind fun names => (Asks.trimmed _).bind fun url => ?_
  rw [branchQuestions]
  cases known.filter (!·.isEmpty) with
  | some name =>
    exact (Asks.pure _).bind fun _ => (Asks.trimmed _).bind fun _ => (Asks.trimmed _).bind fun _ => Asks.pure _
  | none =>
    refine ((Asks.trimmed _).bind fun _ => Asks.pure _).bind fun _ => ?_
    exact (Asks.trimmed _).bind fun _ => (Asks.trimmed _).bind fun _ => Asks.pure _

end Asks

end RuleReview.Git
