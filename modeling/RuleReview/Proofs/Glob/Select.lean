import RuleReview.Glob
import RuleReview.Proofs.Success

/-! # Paths that patterns cover

When all patterns stand for something, a path is selected exactly when some pattern accepts it. The order of the
patterns and the paths before it say nothing about a path.
-/
namespace RuleReview.Glob
variable {patterns : List Text}

/-- Every pattern stands for something to match with. -/
def Compile (patterns : List Text) : Prop := ∀ p ∈ patterns, ∃ k, compile p = .ok k

/-- Whether some pattern accepts a path. -/
def covers (patterns : List Text) (path : Text) : Bool :=
  patterns.any fun p => (compile p).toOption.any (·.accepts path)

theorem covers_iff {path : Text} :
    covers patterns path = true ↔ ∃ p ∈ patterns, ∃ k, compile p = .ok k ∧ k.accepts path = true := by
  rw [covers, List.any_eq_true]
  refine exists_congr fun p => and_congr_right fun _ => ?_
  cases hk : compile p with
  | ok k => simp [Except.toOption]
  | error f => simp [Except.toOption]

theorem matchesAny_eq (h : Compile patterns) (path : Text) :
    matchesAny path patterns = .ok (covers patterns path) := by
  induction patterns with
  | nil => rfl
  | cons p ps ih =>
    obtain ⟨⟨k, hk⟩, hps⟩ := List.forall_mem_cons.mp h
    have hrest := ih hps
    rw [covers] at hrest
    simp only [matchesAny, matchesPath, hk, Except.map, covers, List.any_cons, Except.toOption, Option.any_some,
      bind, Except.bind, hrest]
    cases k.accepts path <;> rfl

theorem select_eq (h : Compile patterns) (paths : List Text) :
    select paths patterns = .ok (paths.filter (covers patterns)) :=
  filterM_eq_ok fun path _ => matchesAny_eq h path

end RuleReview.Glob
