import RuleReview.Check
import RuleReview.Failure
import RuleReview.Text.Lines

/-! # Rules

A rule is a text under a header. The header stands between a first line `---` and the next line `---` that
leaves at least one line in between; it gives the rule a name and a version, and says to which files the rule
applies and which files it is to be read with. The language of headers is a parameter, with what its values are
for the fields of a rule.
-/
namespace RuleReview

structure Rule where
  id : Text
  version : Text
  patterns : List Text
  content : Text
  /-- The file of the rule, seen from the root of the review. -/
  path : Text
  contextFiles : List Text
  deriving DecidableEq

/-- A rule as its file has it, whose words may be broken. -/
structure RuleFile where
  id : Glyphs
  version : Glyphs
  patterns : List Glyphs
  content : Text
  path : Text
  contextFiles : List Glyphs
  deriving DecidableEq

def RuleFile.rule? (f : RuleFile) : Option Rule := do
  return ⟨← f.id.text?, ← f.version.text?, ← f.patterns.mapM Glyphs.text?, f.content, f.path,
    ← f.contextFiles.mapM Glyphs.text?⟩

inductive ShowProblem where
  | refused (words : Text)
  | tooDeep

/-- The members of a header, with the places of their values and what a value at a place is for a field. A name
that is no string is none. -/
structure HeaderMapping where
  members : List (Option Glyphs × Nat) := []
  text : Nat → Check Glyphs := fun _ => .wrong .text
  items : Nat → Check (List (Check Glyphs)) := fun _ => .wrong .list
  shown : Nat → Except ShowProblem Glyphs := fun _ => .ok []

inductive HeaderContent where
  | blank
  | mapping (m : HeaderMapping)
  | other

/-- Why a header has no content: its text is malformed, or reading it failed otherwise. -/
inductive HeaderProblem where
  | malformed
  | broken (failure : Failure)

abbrev HeaderLanguage := Text → Except HeaderProblem HeaderContent

namespace Rule

def isFence (line : Text) : Bool :=
  match line.after? "---" with
  | some rest => rest.all fun c => c = ' ' || c = '\t'
  | none => false

def split? (s : Text) : Option (Text × Text) :=
  match Text.splitLines s with
  | ['-', '-', '-'] :: first :: rest =>
    match rest.dropWhile (!isFence ·) with
    | _ :: body => some (Text.joinLines (first :: rest.takeWhile (!isFence ·)), Text.joinLines body)
    | [] => none
  | _ => none

def headerFailure (path : Text) : HeaderProblem → Failure
  | .malformed => .rule path .badHeader
  | .broken f => f

/-- The names and places of the values of a header; members whose names are no strings cannot be used, and a
name that is broken is not known. -/
def membersOf (m : HeaderMapping) : Except Failure (List (Text × Nat)) := do
  let named ← m.members.mapM fun
    | (some k, v) => .ok (k, v)
    | (none, _) => .error Failure.wrongType
  return named.filterMap fun m => m.1.text?.map (·, m.2)

def mapping (lang : HeaderLanguage) (header path : Text) : Except Failure HeaderMapping := do
  match ← (lang header).mapError (headerFailure path) with
  | .blank => return {}
  | .mapping m => return m
  | .other => throw (.rule path .notMapping)

def checkId (m : HeaderMapping) (place : Nat) : Check Glyphs :=
  (m.text place).andThen fun s =>
    if s.isBlankText then .wrong (.rule "id must not be empty") else .pass s.trim

def afterNumber? (s : Text) : Option Text :=
  match s.dropWhile Text.isDigit with
  | '.' :: r => if s.head?.any Text.isDigit then some r else none
  | _ => none

def startsWithVersion (s : Text) : Bool :=
  match (afterNumber? s).bind afterNumber? with
  | some r => r.head?.any Text.isDigit
  | none => false

def checkVersion (m : HeaderMapping) (place : Nat) : Check Glyphs :=
  match m.shown place with
  | .error (.refused what) => .wrong (.rule what)
  | .error .tooDeep => .wrong (.rule [])
  | .ok g =>
    let s := g.trim
    if startsWithVersion s.lossy then .pass s
    else .wrong (.rule (.concat ["version must look like 1.0.0, got ", s.quoted]))

def refuseDepth (m : HeaderMapping) (ms : List (Text × Nat)) : Except Failure Unit :=
  match (ms.lookup "version".toList).map m.shown with
  | some (.error .tooDeep) => .error (.scalar .tooDeep)
  | _ => .ok ()

/-- A list of at least so many texts, none of them blank. -/
def checkEntries (least : Nat) (m : HeaderMapping) (place : Nat) : Check (List Glyphs) :=
  let texts (items : List (Check Glyphs)) : Check (List Glyphs) :=
    if items.length < least then .wrong .tooShort else Check.items (fun item => item) items
  ((m.items place).andThen texts).andThen fun ss =>
    if ss.any Glyphs.isBlankText then .wrong (.rule "entries must be non-empty strings")
    else .pass (ss.map Glyphs.trim)

structure Header where
  id : Glyphs
  version : Glyphs
  patterns : List Glyphs
  contextFiles : List Glyphs

def checkHeader (m : HeaderMapping) (ms : List (Text × Nat)) : Check Header :=
  let missing {α : Type} : Check α := .wrong .missing
  Header.mk <$> Check.field "id" ms missing (checkId m)
    <*> Check.field "version" ms missing (checkVersion m)
    <*> Check.field "patterns" ms missing (checkEntries 1 m)
    <*> Check.field "context_files" ms (.pass []) (checkEntries 0 m)

def missingContext (isFile : Glyphs → Except Failure Bool) : List Glyphs → Except Failure (Option Glyphs)
  | [] => .ok none
  | n :: ns => do if ← isFile n then missingContext isFile ns else return some n

def read (lang : HeaderLanguage) (isFile : Glyphs → Except Failure Bool) (path s : Text) :
    Except Failure RuleFile := do
  match split? s with
  | none => .error (.rule path .noHeader)
  | some (header, body) =>
    let m ← mapping lang header path
    let ms ← membersOf m
    refuseDepth m ms
    let h ← (checkHeader m ms).toExcept.mapError fun is => .rule path (.invalid is)
    let content := body.trim
    if content.isEmpty then .error (.rule path .emptyBody)
    match ← missingContext isFile h.contextFiles with
    | some name => .error (.rule path (.contextMissing name.escaped))
    | none => return ⟨h.id, h.version, h.patterns, content, path, h.contextFiles⟩

end Rule

end RuleReview
