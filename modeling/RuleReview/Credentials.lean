import RuleReview.Environment
import RuleReview.Failure

/-! # Credentials for the upload

A value that still starts with `$` is a variable that nobody expanded and counts as unset.
-/
namespace RuleReview

structure Credentials where
  key : Text
  account : Text

namespace Credentials

def keyName : Text := "THREADLINE_API_KEY"

def accountName : Text := "THREADLINE_ACCOUNT"

def value? (env : Environment) (name : Text) : Option Text := (env.get? name).filter fun v => !v.startsWith "$"

def ofEnvironment (env : Environment) : Except Failure Credentials :=
  match value? env keyName, value? env accountName with
  | some key, some account => .ok ⟨key, account⟩
  | _, _ =>
    .error (.configuration (.missingCredentials
      ([keyName, accountName].filter fun n => (value? env n).isNone)))

end Credentials

end RuleReview
