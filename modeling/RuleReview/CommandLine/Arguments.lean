import RuleReview.CommandLine.Nearest
import RuleReview.Text.Quoted

/-! # Arguments

Options and operands may be mixed. A value follows its option as the next argument, after an equals sign or,
for an option of one letter, right behind it. After `--` all arguments are operands.
-/
namespace RuleReview.CommandLine

structure Flag where
  name : Text
  letter : Option Char := none
  valued : Bool := false

structure Given where
  name : Text
  value : Text

inductive UsageProblem where
  | unknownOption (name : Text) (close : List Text)
  | valueMissing (name : Text)
  | valueUnwanted (name : Text)
  | badChoice (option value : Text) (choices : List Text)
  | folderMissing (path : Text)
  | folderIsFile (path : Text)
  | operands (extra : List Text)
  | unknownCommand (name : Text) (close : List Text)
  | noCommand

def suggestion : List Text → Text
  | [] => []
  | [name] => .concat [" Did you mean ", name.quoted, "?"]
  | names => .concat [" (Did you mean one of: ", Text.joinWith ", " (names.map Text.quoted), "?)"]

def UsageProblem.message : UsageProblem → Text
  | .unknownOption name close => .concat ["No such option ", name.quoted, ".", suggestion close]
  | .valueMissing name => .concat ["Option ", name.quoted, " requires an argument."]
  | .valueUnwanted name => .concat ["Option ", name.quoted, " does not take a value."]
  | .badChoice option value choices =>
    .concat ["Invalid value for '", option, "': ", value.quoted, " is not one of ",
      Text.joinWith ", " (choices.map Text.quoted), "."]
  | .folderMissing path =>
    .concat ["Invalid value for '[PATH]': Directory ", path.quoted, " does not exist."]
  | .folderIsFile path => .concat ["Invalid value for '[PATH]': Directory ", path.quoted, " is a file."]
  | .operands extra =>
    .concat ["Got unexpected extra argument", if extra.length = 1 then "" else "s", " (",
      Text.joinWith " " extra, ")"]
  | .unknownCommand name close => .concat ["No such command ", name.quoted, ".", suggestion close]
  | .noCommand => "Missing command."

/-- What one argument gives: options, the last of which may still lack its value. -/
structure Reading where
  given : List Given := []
  open? : Option Text := none

def readLetters (flags : List Flag) : Text → Except UsageProblem Reading
  | [] => .ok {}
  | c :: s =>
    match flags.find? (·.letter = some c) with
    | none => .error (.unknownOption ['-', c] [])
    | some f =>
      if f.valued then .ok (if s.isEmpty then ⟨[], some ['-', c]⟩ else ⟨[⟨f.name, s⟩], none⟩)
      else (readLetters flags s).map fun r => { r with given := ⟨f.name, []⟩ :: r.given }

def readOption (flags : List Flag) (argument : Text) : Except UsageProblem Reading :=
  let name := Text.upTo '=' argument
  let value? := (argument.drop name.length).tail?
  match flags.find? (·.name = name), value? with
  | some f, none => .ok (if f.valued then ⟨[], some name⟩ else ⟨[⟨name, []⟩], none⟩)
  | some f, some v => if f.valued then .ok ⟨[⟨name, v⟩], none⟩ else .error (.valueUnwanted name)
  | none, _ =>
    if argument.startsWith "--" then .error (.unknownOption name (closest (flags.map (·.name)) name))
    else readLetters flags argument.tail

def nameOf (flags : List Flag) (spelled : Text) : Text :=
  match spelled with
  | ['-', c] => ((flags.find? (·.letter = some c)).map (·.name)).getD spelled
  | _ => spelled

def isOption (argument : Text) : Bool := argument.startsWith "-" && argument.length > 1

/-- The options and operands of arguments. Unless they may be mixed, options end at the first operand. -/
def arguments (flags : List Flag) (mixed : Bool) : List Text → Except UsageProblem (List Given × List Text)
  | [] => .ok ([], [])
  | a :: rest =>
    if a = ['-', '-'] then .ok ([], rest)
    else if isOption a then
      match readOption flags a with
      | .error e => .error e
      | .ok ⟨given, none⟩ => (arguments flags mixed rest).map fun (gs, os) => (given ++ gs, os)
      | .ok ⟨given, some name⟩ =>
        match rest with
        | [] => .error (.valueMissing name)
        | v :: rest =>
          (arguments flags mixed rest).map fun (gs, os) => (given ++ ⟨nameOf flags name, v⟩ :: gs, os)
    else if mixed then (arguments flags mixed rest).map fun (gs, os) => (gs, a :: os)
    else .ok ([], a :: rest)

/-- The last value given for an option; an empty one counts as none. -/
def lastValue? (given : List Given) (name : Text) : Option Text :=
  (((given.filter (·.name = name)).getLast?).map (·.value)).filter (!·.isEmpty)

def isGiven (given : List Given) (name : Text) : Bool := given.any (·.name = name)

end RuleReview.CommandLine
