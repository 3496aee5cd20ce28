import RuleReview.Text.Blank
import RuleReview.Text.Word

/-! # Remote addresses

A remote address is shown as `https://host/path`, without user, password, `.git` and trailing slashes.
-/
namespace RuleReview.Remote

def isHostChar (c : Char) : Bool := Text.isWord c || c = '.' || c = '-'

def hostAndPath? (s : Text) : Option (Text × Text) :=
  let host? (s : Text) : Option (Text × Text) :=
    match s.takeWhile isHostChar, s.dropWhile isHostChar with
    | [], _ => none
    | host, ':' :: c :: path => if c = '/' || path.contains '\n' then none else some (host, c :: path)
    | _, _ => none
  match s.takeWhile isHostChar, s.dropWhile isHostChar with
  | _ :: _, '@' :: r => host? r
  | _, _ => host? s

/-- The text after a user part: characters that are neither `@` nor `/`, and an `@`. -/
def afterUser? (s : Text) : Option Text :=
  let isUser (c : Char) : Bool := c != '@' && c != '/'
  match s.takeWhile isUser, s.dropWhile isUser with
  | _ :: _, '@' :: r => some r
  | _, _ => none

def secure : Text := "https://"

def ofShort (s : Text) : Text :=
  match hostAndPath? s with
  | some (host, path) => if Text.holds "://" s then s else .concat [secure, host, "/", path]
  | none => s

def ofGitScheme (s : Text) : Text :=
  match (s.after? "ssh://").or (s.after? "git://") with
  | some r => secure ++ (afterUser? r).getD r
  | none => s

def withoutUser (s : Text) : Text :=
  match s.after? secure, s.after? "http://" with
  | some r, _ => secure ++ (afterUser? r).getD r
  | none, some r => "http://".toList ++ (afterUser? r).getD r
  | none, none => s

def dropSuffix (p s : Text) : Text := if s.endsWith p then s.take (s.length - p.length) else s

def normalize (url : Text) : Option Text :=
  if url.isEmpty then none
  else
    some ((dropSuffix ".git" (withoutUser (ofGitScheme (ofShort url.trim)))) |> Text.dropTrailing (· == '/'))

end RuleReview.Remote
