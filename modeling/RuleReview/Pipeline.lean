import RuleReview.Environment
import RuleReview.Scope
import RuleReview.Text.Digit

/-! # Pipelines

A build server tells by environment variables what it builds. The first kind of pipeline whose variables are
there applies; without one the review is local.
-/
namespace RuleReview

inductive Pipeline where
  | vercel
  | github
  | gitlab
  | bitbucket
  | workstation
  deriving DecidableEq, Repr

namespace Pipeline

def all : List Pipeline := [.vercel, .github, .gitlab, .bitbucket, .workstation]

def name : Pipeline → Text
  | .vercel => "Vercel"
  | .github => "GitHub Actions"
  | .gitlab => "GitLab CI"
  | .bitbucket => "Bitbucket Pipelines"
  | .workstation => "Local"

def label : Pipeline → Text
  | .vercel => "vercel"
  | .github => "github"
  | .gitlab => "gitlab"
  | .bitbucket => "bitbucket"
  | .workstation => "local"

def applies (env : Environment) : Pipeline → Bool
  | .vercel => (env.get? "VERCEL").isSome
  | .github => env.get? "GITHUB_ACTIONS" == some "true".toList
  | .gitlab => (env.get? "GITLAB_CI").isSome || ((env.get? "CI").isSome && (env.get? "CI_COMMIT_SHA").isSome)
  | .bitbucket => (env.get? "BITBUCKET_BUILD_NUMBER").isSome || (env.get? "BITBUCKET_COMMIT").isSome
  | .workstation => true

def detect (env : Environment) : Pipeline := (all.find? (applies env)).getD .workstation

def title (env : Environment) : Pipeline → Option Text
  | .github => env.get? "PR_TITLE"
  | .gitlab => env.get? "CI_MERGE_REQUEST_TITLE"
  | _ => none

def branch (env : Environment) : Pipeline → Option Text
  | .vercel => env.get? "VERCEL_GIT_COMMIT_REF"
  | .github => (env.get? "GITHUB_HEAD_REF").orElse fun _ => env.get? "GITHUB_REF_NAME"
  | .gitlab =>
    (env.get? "CI_MERGE_REQUEST_SOURCE_BRANCH_NAME").orElse fun _ => env.get? "CI_COMMIT_REF_NAME"
  | .bitbucket => env.get? "BITBUCKET_BRANCH"
  | .workstation => none

def require (env : Environment) (p : Pipeline) (var : Text) : Except Failure Text :=
  match env.get? var with
  | some v => .ok v
  | none => .error (.configuration (.missingVariable p.name var))

def pullNumber? (ref : Text) : Option Text := do
  let s ← ref.after? "refs/pull/"
  let digits := s.takeWhile Text.isDigit
  if !digits.isEmpty && (s.drop digits.length).head? = some '/' then some digits else none

def pullRequestEvents : List Text := ["pull_request", "pull_request_target"]

/-- The number of the pull request that is built; the outer option tells whether one is built. -/
def pullRequest? (env : Environment) : Pipeline → Option (Option Text)
  | .github =>
    match env.get? "GITHUB_EVENT_NAME" with
    | some event =>
      if pullRequestEvents.contains event then some ((env.get? "GITHUB_REF").bind pullNumber?) else none
    | none => none
  | .gitlab => (env.get? "CI_MERGE_REQUEST_IID").map some
  | .bitbucket => (env.get? "BITBUCKET_PR_ID").map some
  | _ => none

def branchVariables : Pipeline → Text × Text
  | .gitlab => ("CI_MERGE_REQUEST_SOURCE_BRANCH_NAME", "CI_MERGE_REQUEST_TARGET_BRANCH_NAME")
  | .bitbucket => ("BITBUCKET_BRANCH", "BITBUCKET_PR_DESTINATION_BRANCH")
  | _ => ("GITHUB_HEAD_REF", "GITHUB_BASE_REF")

def commitVariable : Pipeline → Text
  | .vercel => "VERCEL_GIT_COMMIT_SHA"
  | .gitlab => "CI_COMMIT_SHA"
  | .bitbucket => "BITBUCKET_COMMIT"
  | _ => "GITHUB_SHA"

/-- What a pipeline reviews: the pull request that it builds, else the commit. -/
def scope (env : Environment) (p : Pipeline) : Except Failure Scope :=
  match p with
  | .workstation => .ok .worktree
  | p =>
    match pullRequest? env p with
    | some number => do
      let source ← p.require env p.branchVariables.1
      let target ← p.require env p.branchVariables.2
      return .pullRequest source target number (title env p)
    | none => do return .commit (← p.require env p.commitVariable)

end Pipeline

end RuleReview
