import RuleReview.Expression.Problem
import RuleReview.Issue
import RuleReview.Json.Reader
import RuleReview.Seconds
import RuleReview.Text.Blank
import RuleReview.Text.Utf8
import RuleReview.Yaml.Problem

/-! # Why an operation fails

Each cause is a constructor with what it is about; the wording is `Failure.message`. A cause given in words,
by a caller or by another program, is `stated`. `Failure.kind` sorts failures into the kinds that callers
tell apart.
-/
namespace RuleReview

inductive DiffProblem where
  | strayHunk
  | badHunkHeader (header : Text)
  | stated (what : Text)

def DiffProblem.message : DiffProblem → Text
  | .strayHunk => "hunk header before any file section"
  | .badHunkHeader header => .concat ["malformed hunk header: ", header.quoted]
  | .stated what => what

inductive RefProblem where
  | empty
  | optionLike
  | range
  | badCharacters
  | malformed
  deriving DecidableEq, Repr

def RefProblem.message (ref : Text) : RefProblem → Text
  | .empty => "Git ref cannot be empty"
  | .optionLike => .concat ["Invalid git ref: ", ref.quoted, " (option-style refs are not allowed)"]
  | .range => .concat ["Invalid git ref: ", ref.quoted, " (ranges are not allowed here)"]
  | .badCharacters => .concat ["Invalid git ref: ", ref.quoted, " (contains invalid characters)"]
  | .malformed => .concat ["Invalid git ref: ", ref.quoted, " (malformed ref name)"]

inductive FileProblem where
  | absent
  | notDirectory
  | isDirectory
  | tooManyLinks
  | nameTooLong
  | exists
  /-- A path with a zero byte, which is no path at all. -/
  | zeroByte
  deriving DecidableEq, Repr

def FileProblem.message (path : Text) (p : FileProblem) : Text :=
  let about (what : Text) : Text := .concat [what, ": ", path.quoted]
  match p with
  | .absent => about "[Errno 2] No such file or directory"
  | .exists => about "[Errno 17] File exists"
  | .notDirectory => about "[Errno 20] Not a directory"
  | .isDirectory => about "[Errno 21] Is a directory"
  | .nameTooLong => about "[Errno 36] File name too long"
  | .tooManyLinks => about "[Errno 40] Too many levels of symbolic links"
  | .zeroByte => "embedded null byte"

def FileProblem.label : FileProblem → Text
  | .absent => "FileNotFoundError"
  | .exists => "FileExistsError"
  | .notDirectory => "NotADirectoryError"
  | .isDirectory => "IsADirectoryError"
  | .nameTooLong | .tooManyLinks => "OSError"
  | .zeroByte => "ValueError"

inductive RepositoryProblem where
  | badRef (ref : Text) (problem : RefProblem)
  | gitMissing (command : Text)
  | outside (start : Text)
  | noPaths (kind : Text)
  | fileMissing (path : Text)
  | notFile (path : Text)
  | folderMissing (path : Text)
  | notFolder (path : Text)
  | folderEmpty (path : Text)
  | unreadable (shown path : Text) (problem : FileProblem)
  | stated (what : Text)

def RepositoryProblem.message : RepositoryProblem → Text
  | .badRef ref p => p.message ref
  | .gitMissing command => .concat ["git executable not found while running `", command, "`"]
  | .outside start => .concat [start, " is not inside a git repository"]
  | .noPaths kind => .concat ["No paths given for ", kind, " review"]
  | .fileMissing path => .concat ["File '", path, "' not found"]
  | .notFile path => .concat ["Path '", path, "' is not a file"]
  | .folderMissing path => .concat ["Folder '", path, "' not found"]
  | .notFolder path => .concat ["Path '", path, "' is not a folder"]
  | .folderEmpty path => .concat ["No files found in folder '", path, "'"]
  | .unreadable shown path p => .concat ["Cannot read '", shown, "': ", p.message path]
  | .stated what => what

inductive NothingProblem where
  | cleanTree
  | noFiles
  | stated (what : Text)

def NothingProblem.message : NothingProblem → Text
  | .cleanTree => "No changes detected. Stage files with \"git add\" or modify files to run threadlines."
  | .noFiles => "No changed files found to review"
  | .stated what => what

inductive ConfigurationProblem where
  | unreadable (path : Text) (problem : FileProblem)
  | badJson (path : Text) (problem : Json.Problem)
  | notObject (path : Text)
  | invalid (source : Text) (issues : List Issue)
  | missingCredentials (names : List Text)
  | missingVariable (environment name : Text)
  | noRuleFolder
  | noRuleFiles
  | noValidRules
  | stated (what : Text)

def ConfigurationProblem.message : ConfigurationProblem → Text
  | .unreadable path p => .concat ["Cannot read ", path, ": ", p.message path]
  | .badJson path p => .concat [path, " is not valid JSON: ", p.message]
  | .notObject path => .concat [path, " must contain a JSON object"]
  | .invalid source _ => .concat ["Invalid ", source]
  | .missingCredentials names =>
    .concat ["Missing required environment variables: ", Text.joinWith ", " names,
      ". Set them in your shell, CI secrets, or .env.local, or run in offline mode."]
  | .missingVariable environment name =>
    .concat [environment, " environment detected but ", name, " is not set"]
  | .noRuleFolder => "No /threadlines folder found. Run `threadlines init` to create your first threadline."
  | .noRuleFiles => "No threadline files found in threadlines/. Run `threadlines init` to create an example."
  | .noValidRules => "No valid threadlines found in threadlines/"
  | .stated what => what

inductive RuleProblem where
  | unreadable
  | noHeader
  | badHeader
  | notMapping
  | invalid (issues : List Issue)
  | emptyBody
  | contextMissing (name : Text)
  | stated (what : Text)

def Issue.located (whole : Text) (i : Issue) : Text :=
  let place := if i.place.isEmpty then whole else Text.joinWith "." (i.place.map Step.toText)
  .concat [place, ": ", i.kind.message]

def RuleProblem.message : RuleProblem → Text
  | .unreadable => "cannot read file"
  | .noHeader => "missing YAML frontmatter (--- ... ---)"
  | .badHeader => "invalid YAML frontmatter"
  | .notMapping => "frontmatter must be a mapping"
  | .invalid issues => Text.joinWith "; " (issues.map (Issue.located "frontmatter"))
  | .emptyBody => "threadline body is empty"
  | .contextMissing name => .concat ["context file not found: ", name]
  | .stated what => what

inductive MarkupProblem where
  | unmatched (tag : Text) (position : Nat)
  | nothingOpen (position : Nat)
  /-- A tag that names a handler has an argument, which is given as a part of all that it says, and which is
  wrong. -/
  | badArgument (argument given what : Text)

def MarkupProblem.message : MarkupProblem → Text
  | .unmatched tag position =>
    .concat ["closing tag '", tag, "' at position ", Text.ofNat position, " doesn't match any open tag"]
  | .nothingOpen position =>
    .concat ["closing tag '[/]' at position ", Text.ofNat position, " has nothing to close"]
  | .badArgument argument given what =>
    .concat ["error parsing ", argument.quoted, " in ", given.quoted, "; ", what]

inductive VariableProblem where
  | zeroByte
  | badName
  deriving DecidableEq, Repr

def VariableProblem.message : VariableProblem → Text
  | .zeroByte => "embedded null byte"
  | .badName => "illegal environment variable name"

/-- An error of another program, known by the name of its class and its words; it may be of a kind of its own. -/
structure ForeignError where
  name : Text
  words : Text
  kind : Option Text := none

def ForeignError.message (e : ForeignError) : Text := .concat [e.name, ": ", e.words]

inductive ProviderProblem where
  | noObject
  | badJson (problem : Json.Problem)
  | notObject
  | invalid (issues : List Issue)
  | requestFailed (what : Text)
  | foreign (error : ForeignError)
  | emptyResponse (rule : Text)
  | stated (what : Text)

def ProviderProblem.message : ProviderProblem → Text
  | .noObject => "Model response did not contain a JSON object"
  | .badJson p => .concat ["Model response is not valid JSON: ", p.message]
  | .notObject => "Model response JSON must be an object"
  | .invalid _ => "Model response failed validation"
  | .requestFailed what => .concat ["Model request failed: ", what]
  | .foreign e => e.message
  | .emptyResponse rule => .concat ["Empty model response for ", rule]
  | .stated what => what

inductive TimeoutProblem where
  | exceeded (rule : Text) (seconds : Seconds)
  | stated (what : Text)

inductive SyncProblem where
  | timeout (seconds : Text)
  | request (url : Glyphs) (what : Text)
  | status (code : Nat) (body : Text)
  | badJson (url : Glyphs) (problem : Json.Problem)

namespace SyncProblem

def message : SyncProblem → Text
  | .timeout seconds => .concat ["Request timeout after ", seconds, "s"]
  | .request url what => .concat ["Request to ", url.escaped, " failed: ", what]
  | .status code body => .concat ["HTTP ", Text.ofNat code, ": ", body]
  | .badJson url p => .concat ["Invalid JSON from ", url.escaped, ": ", p.message]

def isPlain : SyncProblem → Bool
  | .request url _ | .badJson url _ => url.text?.isSome
  | _ => true

end SyncProblem

inductive Failure where
  | general (what : Text)
  | diff (line : Option Nat) (problem : DiffProblem)
  | configuration (problem : ConfigurationProblem)
  | rule (path : Text) (problem : RuleProblem)
  | repository (problem : RepositoryProblem)
  | nothing (problem : NothingProblem)
  | rootCommit (sha : Text)
  | fetch (target detail : Text)
  | command (argv : List Text) (code : Int) (stderr : Text)
  | provider (problem : ProviderProblem)
  | timeout (problem : TimeoutProblem)
  | sync (problem : SyncProblem)
  | ref (ref : Text) (problem : RefProblem)
  | byteRange
  | window (n : Int)
  | unknownName (name type : Text)
  | scalar (problem : Yaml.Problem)
  | numeral (problem : Numeral.Problem)
  | limit (problem : Json.Problem)
  | values (issues : List Issue)
  | wrongType
  | outOfRange
  | wrongShape
  | noFile (path : Text) (problem : FileProblem)
  | linkLoop (path : Text)
  | notText (bad : Text.BadBytes)
  | pattern (problem : Expression.Problem)
  | markup (problem : MarkupProblem)
  | badVariable (problem : VariableProblem)
  | foreign (error : ForeignError)
  /-- A text that cannot be shown, so that nothing more is. -/
  | unwritable
  | interrupted

inductive Failure.Kind where
  | general | diff | configuration | rule | repository | nothing | rootCommit | fetch | command | provider
  | timeout | sync | value | values | type | index | key | shape | overflow | recursion | file | loop | encoding
  | pattern | markup | foreign | unwritable | interrupted
  deriving DecidableEq, Repr

namespace Failure

def kind : Failure → Kind
  | .general _ => .general
  | .diff .. => .diff
  | .configuration _ => .configuration
  | .rule .. => .rule
  | .repository _ => .repository
  | .nothing _ => .nothing
  | .rootCommit _ => .rootCommit
  | .fetch .. => .fetch
  | .command .. => .command
  | .provider _ => .provider
  | .timeout _ => .timeout
  | .sync _ => .sync
  | .ref .. | .byteRange | .window _ | .unknownName .. | .numeral _ | .badVariable _ => .value
  | .scalar p =>
    match p with
    | .emptyNumber => .index
    | .noTruth _ => .key
    | .noTimestamp => .shape
    | .noTimestampText => .type
    | .codePointSize | .tooGreat => .overflow
    | .tooDeep => .recursion
    | _ => .value
  | .limit p =>
    match p.fault with
    | .tooDeep _ => .recursion
    | _ => .value
  | .values _ => .values
  | .wrongType => .type
  | .outOfRange => .index
  | .wrongShape => .shape
  | .noFile _ .zeroByte => .value
  | .noFile .. => .file
  | .linkLoop _ => .loop
  | .notText _ => .encoding
  | .pattern p =>
    match p with
    | .fault .. | .looseLook => .pattern
    | .tooManyTimes => .overflow
    | .numeral _ => .value
  | .markup _ => .markup
  | .foreign _ => .foreign
  | .unwritable => .unwritable
  | .interrupted => .interrupted

def Kind.label : Kind → Text
  | .general => "ThreadlineError"
  | .diff => "ParseError"
  | .configuration => "ConfigurationError"
  | .rule => "InvalidThreadlineError"
  | .repository => "RepositoryStateError"
  | .nothing => "NothingToReviewError"
  | .rootCommit => "RootCommitError"
  | .fetch => "FetchError"
  | .command => "GitCommandError"
  | .provider => "ProviderError"
  | .timeout => "EvaluationTimeoutError"
  | .sync => "SyncError"
  | .value => "ValueError"
  | .values => "ValidationError"
  | .type => "TypeError"
  | .index => "IndexError"
  | .key => "KeyError"
  | .overflow => "OverflowError"
  | .recursion => "RecursionError"
  | .shape => "AttributeError"
  | .file => "FileNotFoundError"
  | .loop => "RuntimeError"
  | .encoding => "UnicodeDecodeError"
  | .pattern => "error"
  | .markup => "MarkupError"
  | .foreign => "Exception"
  | .unwritable => "UnicodeEncodeError"
  | .interrupted => "KeyboardInterrupt"

def Kind.parent? : Kind → Option Kind
  | .rule => some .configuration
  | .nothing | .rootCommit => some .repository
  | .timeout => some .provider
  | .diff | .configuration | .repository | .fetch | .command | .provider => some .general
  | _ => none

def message : Failure → Text
  | .general what => what
  | .diff line p =>
    match line with
    | some n => .concat ["line ", Text.ofNat n, ": ", p.message]
    | none => p.message
  | .configuration p => p.message
  | .rule path p => .concat [path, ": ", p.message]
  | .repository p => p.message
  | .nothing p => p.message
  | .rootCommit sha => .concat ["Commit ", sha, " has no parent (root commit); nothing to diff against"]
  | .fetch target detail =>
    if detail.isEmpty then .concat ["Failed to fetch ", target]
    else .concat ["Failed to fetch ", target, ": ", detail]
  | .command argv code stderr =>
    let detail := stderr.trim
    .concat ["`", Text.joinWith " " argv, "` failed (exit ", Text.ofInt code, "): ",
      if detail.isEmpty then "no error output" else detail]
  | .provider p => p.message
  | .timeout (.exceeded id seconds) =>
    .concat ["Model request for ", id, " exceeded ", seconds.toText, "s"]
  | .timeout (.stated what) => what
  | .sync p => p.message
  | .ref name p => p.message name
  | .byteRange => "byte must be in range(0, 256)"
  | .window n => .concat ["context_lines must be non-negative, got ", Text.ofInt n]
  | .unknownName name type => .concat [name.quoted, " is not a valid ", type]
  | .scalar p => p.message
  | .numeral p => p.message
  | .limit p => p.message
  | .foreign e => e.words
  | .noFile path p => p.message path
  | .linkLoop path => .concat ["Symlink loop from ", path.quoted]
  | .notText bad => bad.message
  | .pattern p => p.message
  | .markup p => p.message
  | .badVariable p => p.message
  | .outOfRange => "list index out of range"
  | .values _ | .wrongType | .wrongShape | .unwritable | .interrupted => []

def label : Failure → Text
  | .foreign e => e.name
  | .noFile _ p => p.label
  | f => f.kind.label

def isOwn (f : Failure) : Bool := f.kind = .general || f.kind.parent?.isSome

/-- The failure to use a file, with the words for it; a path that is none fails by itself. -/
def ofFile (wrap : FileProblem → Failure) (path : Text) : FileProblem → Failure
  | .zeroByte => .noFile path .zeroByte
  | p => wrap p

/-- The failure of a text that is no JSON, with the words for one that is malformed. -/
def ofJson (malformed : Json.Problem → Failure) (p : Json.Problem) : Failure :=
  if p.fault.isMalformed then malformed p else .limit p

def issues? : Failure → Option (List Issue)
  | .values issues | .configuration (.invalid _ issues) | .rule _ (.invalid issues)
  | .provider (.invalid issues) => some issues
  | _ => none

end Failure

end RuleReview
