import RuleReview.Expression.Basic
import RuleReview.Expression.Problem
import RuleReview.Text.Word

/-! # Reading expressions

A backslash stands before a character that means itself. Parts in parentheses have numbers and may have names, or
start with a question mark and a sign that says what they are for. Since an expression starts with what it is
anchored at, letters that would say how all of it is read come too late.
-/
namespace RuleReview.Expression

/-- A character of an expression, with the backslash before it, and its position. -/
structure Piece where
  text : Text
  position : Nat

def piecesFrom (position : Nat) : Text → List Piece
  | [] => []
  | [c] => [⟨[c], position⟩]
  | c :: d :: s =>
    if c = '\\' then ⟨[c, d], position⟩ :: piecesFrom (position + 2) s
    else ⟨[c], position⟩ :: piecesFrom (position + 1) (d :: s)

def meant (piece : Text) : Char := piece.getLastD '\\'

structure Reading where
  whole : Text
  rest : List Piece
  /-- The widths of the numbered parts, from number one on; an open part has none yet. -/
  widths : List (Option Width) := []
  names : List (Text × Nat) := []
  /-- How many parts there were, itself among them, when the outermost look behind began. -/
  behind : Option Nat := none
  asked : List (Nat × Nat) := []

abbrev Read := StateT Reading (Except Problem)

def failAt (position : Nat) (f : Fault) : Read α := do
  let r ← get
  throw (.fault f (Place.of r.whole position) (r.whole.contains '\n'))

def peek : Read (Option Text) := return (← get).rest.head?.map (·.text)

def here : Read Nat := return ((← get).rest.head?.map (·.position)).getD (← get).whole.length

def advance : Read Unit := modify fun r => { r with rest := r.rest.tail }

def take : Read (Option Text) := do
  let piece ← peek
  advance
  return piece

def skip (c : Char) : Read Bool := do
  if (← peek) = some [c] then
    advance
    return true
  else return false

def failBefore (read : Nat) (f : Fault) : Read α := do failAt ((← here) - read) f

def readNameFrom (close : Char) (name : Text) : Nat → Read Text
  | 0 => failBefore 0 .ended
  | fuel + 1 => do
    match ← take with
    | none => if name.isEmpty then failBefore 0 .noName else failBefore name.length (.unclosedName close)
    | some piece =>
      if piece = [close] then
        if name.isEmpty then failBefore 1 .noName else return name
      else readNameFrom close (name ++ piece) fuel

def readAnyName (close : Char) : Read Text := do readNameFrom close [] ((← get).rest.length + 1)

def readName (close : Char) : Read Text := do
  let name ← readAnyName close
  if Text.isName name then return name else failBefore (name.length + 1) (.badName name)

def numberOfName (name : Text) : Read Nat := do
  match (← get).names.lookup name with
  | some n => return n
  | none => failBefore (name.length + 1) (.unknownName name)

def widthOf? (n : Nat) : Read (Option Width) := do
  let r ← get
  return if n = 0 then none else (r.widths[n - 1]?).getD none

/-- Within a look behind, only the parts before it can be met again. -/
def checkLook (n : Nat) : Read Unit := do
  match (← get).behind with
  | none => return
  | some count =>
    if (← widthOf? n).isNone then failBefore 0 .openGroup
    if n ≥ count then failBefore 0 .sameLook

def flagLetters : Text := "iLmsxatu"

/-- Letters that say which characters count as letters. -/
def typeFlags : Text := "aLu"

def isFlag (piece : Text) : Bool :=
  match piece with
  | [c] => flagLetters.contains c
  | _ => false

def isLetter (piece : Text) : Bool :=
  match piece with
  | [c] => Text.isNameStart c && c != '_'
  | _ => false

def failFlag (piece : Text) (missing : Text) : Read α :=
  failBefore piece.length (.flags (if isLetter piece then .unknown else .missing missing))

/-- The flags that are turned on, `c` being the next, and the sign after them. -/
def readOn (on : Text) (c : Char) : Nat → Read (Text × Char)
  | 0 => failBefore 0 .ended
  | fuel + 1 => do
    if c = 'L' then failBefore 0 (.flags .localeOnText)
    let on := c :: on
    if typeFlags.contains c && on.contains 'a' && on.contains 'u' then failBefore 0 (.flags .incompatible)
    match ← take with
    | none => failBefore 0 (.flags (.missing "-, : or )"))
    | some piece =>
      if [[')'], ['-'], [':']].contains piece then return (on, meant piece)
      else if isFlag piece then readOn on (meant piece) fuel
      else failFlag piece "-, : or )"

def readOff (off : Text) (c : Char) : Nat → Read Text
  | 0 => failBefore 0 .ended
  | fuel + 1 => do
    if typeFlags.contains c then failBefore 0 (.flags .cannotTurnOff)
    let off := c :: off
    match ← take with
    | none => failBefore 0 (.flags (.missing ":"))
    | some piece =>
      if piece = [':'] then return off
      else if isFlag piece then readOff off (meant piece) fuel
      else failFlag piece ":"

def readFlags (start : Nat) (first : Char) : Read (Text × Text) := do
  let fuel := (← get).rest.length + 1
  let (on, sign) ← if first = '-' then pure ([], '-') else readOn [] first fuel
  if sign = ')' then failAt start .lateFlags
  if on.contains 't' then failBefore 1 (.flags .globalOn)
  if sign = '-' then
    match ← take with
    | none => failBefore 0 (.flags (.missing "flag"))
    | some piece =>
      if !isFlag piece then failFlag piece "flag"
      let off ← readOff [] (meant piece) fuel
      if off.contains 't' then failBefore 1 (.flags .globalOff)
      if on.any off.contains then failBefore 1 (.flags .onAndOff)
      return (on, off)
  else return (on, [])

structure Modes where
  foldsCase : Bool := false
  /-- Only Latin letters count as letters. -/
  plain : Bool := false
  dotAll : Bool := false
  anyLine : Bool := false
  /-- Blanks and comments mean nothing. -/
  spaced : Bool := false

def Modes.letters (m : Modes) : Letters :=
  if !m.foldsCase then .same else if m.plain then .plainlyAlike else .alike

def Modes.change (m : Modes) (on off : Text) : Modes :=
  let flag (c : Char) (old : Bool) : Bool := (old || on.contains c) && !off.contains c
  { foldsCase := flag 'i' m.foldsCase
    plain := if on.contains 'a' then true else if on.contains 'u' then false else m.plain
    dotAll := flag 's' m.dotAll
    anyLine := flag 'm' m.anyLine
    spaced := flag 'x' m.spaced }

/-- The class that opens at a position, from a member on; `members` are those read, backwards. -/
def readClassFrom (start : Nat) (negated : Bool) (members : List (Char × Char)) : Nat → Read CharClass
  | 0 => failAt start .unclosedClass
  | fuel + 1 => do
    let position ← here
    match ← take with
    | none => failAt start .unclosedClass
    | some low =>
      if low = [']'] && !members.isEmpty then return ⟨negated, members.reverse⟩
      let c := meant low
      if ← skip '-' then
        match ← take with
        | none => failAt start .unclosedClass
        | some high =>
          if high = [']'] then return ⟨negated, (('-', '-') :: (c, c) :: members).reverse⟩
          if meant high < c then failAt position (.badRange low high)
          readClassFrom start negated ((c, meant high) :: members) fuel
      else readClassFrom start negated ((c, c) :: members) fuel

def readClass (start : Nat) : Read CharClass := do
  let negated ← skip '^'
  readClassFrom start negated [] ((← get).rest.length + 1)

/-- What a part may be followed by: an anchor cannot be repeated, and what is repeated cannot be once more. -/
inductive ItemSort where
  | place
  | repeated
  | other
  deriving DecidableEq, Repr

structure Item where
  expression : Expression
  sort : ItemSort := .other

def ofItems (items : List Item) : Expression :=
  items.foldl (fun e i => if e = .nothing then i.expression else .seq i.expression e) .nothing

def readDigits (digits : Text) : Nat → Read Text
  | 0 => return digits.reverse
  | fuel + 1 => do
    match ← peek with
    | some [c] =>
      if c.isDigit then
        advance
        readDigits (c :: digits) fuel
      else return digits.reverse
    | _ => return digits.reverse

def times? (digits : Text) : Read (Option Nat) := do
  if digits.isEmpty then return none
  if Numeral.digitLimit < digits.length then throw (.numeral (.tooLong digits.length))
  let n := Text.numberOfDigits digits
  if n ≥ countLimit then throw .tooManyTimes
  return some n

def readBounds : Read (Option (Nat × Option Nat)) := do
  let before ← get
  let start ← here
  if (← peek) = some ['\x7d'] then return none
  let fuel := before.rest.length
  let least ← readDigits [] fuel
  let most ← if ← skip ',' then readDigits [] fuel else pure least
  if ← skip '\x7d' then
    let lo := (← times? least).getD 0
    let hi ← times? most
    if hi.any (· < lo) then failAt start .leastOverMost
    return some (lo, hi)
  else
    set before
    return none

def readCount (sign : Char) : Read (Option (Nat × Option Nat)) :=
  if sign = '?' then return some (0, some 1)
  else if sign = '*' then return some (0, none)
  else if sign = '+' then return some (1, none)
  else readBounds

def readGreed : Read Greed := do
  if ← skip '?' then return .fewest
  if ← skip '+' then return .all
  return .most

/-- The items once the last one is repeated, by a sign at a position. -/
def repeatLast (position : Nat) (bounds : Nat × Option Nat) (items : List Item) : Read (List Item) :=
  match items with
  | [] => failAt position .nothingToRepeat
  | i :: items => do
    if i.sort = .place then failAt position .nothingToRepeat
    if i.sort = .repeated then failAt position .repeatedTwice
    let greed ← readGreed
    return ⟨.times bounds.1 bounds.2 greed i.expression, .repeated⟩ :: items

def skipLine : Nat → Read Unit
  | 0 => return
  | fuel + 1 => do
    match ← take with
    | none => return
    | some piece => if piece = ['\n'] then return else skipLine fuel

def skipComment (start : Nat) : Nat → Read Unit
  | 0 => failAt start .unclosedComment
  | fuel + 1 => do
    match ← take with
    | none => failAt start .unclosedComment
    | some piece => if piece = [')'] then return else skipComment start fuel

def openGroup (name : Option Text) : Read Nat := do
  let r ← get
  let n := r.widths.length + 1
  match name with
  | none => set { r with widths := r.widths ++ [none] }
  | some name =>
    if let some taken := r.names.lookup name then failBefore (name.length + 1) (.takenName name n taken)
    set { r with widths := r.widths ++ [none], names := (name, n) :: r.names }
  return n

def closeGroup (n : Nat) (w : Width) : Read Unit :=
  modify fun r => { r with widths := r.widths.set (n - 1) (some w) }

/-- A number as it is written by people, with digits of any script and single low lines between them. -/
def groupNumber? (name : Text) : Option Int :=
  let (negative, s) := Numeral.sign (Numeral.plainDigits (Numeral.trimSpace name))
  let digits := s.filter (· != '_')
  if (s.splitOn '_').any (·.isEmpty) || digits.length > Numeral.digitLimit then none
  else (Numeral.natural? digits).map fun n => if negative then -n else n

def groupLimit : Nat := Nat.pow 2 30 - 1

def readCondition : Read Nat := do
  let name ← readAnyName ')'
  let back := name.length + 1
  if Text.isName name then numberOfName name
  else match groupNumber? name with
    | some (.ofNat n) =>
      if n = 0 then failBefore back .groupZero
      if n ≥ groupLimit then failBefore back (.noGroup n)
      let position := (← here) - back
      modify fun r =>
        if (r.asked.lookup n).isSome then r else { r with asked := r.asked ++ [(n, position)] }
      return n
    | _ => failBefore back (.badName name)

mutual

def readBranches : Nat → Modes → Read Expression
  | 0, _ => failBefore 0 .ended
  | fuel + 1, modes => do
    let a ← readItems fuel modes []
    if ← skip '|' then return .either a (← readBranches fuel modes) else return a

/-- Reads items up to a bar or a closing parenthesis; those that were read are backwards. -/
def readItems : Nat → Modes → List Item → Read Expression
  | 0, _, _ => failBefore 0 .ended
  | fuel + 1, modes, items => do
    let position ← here
    let letter (c : Char) : Item := { expression := .oneOf (.only c) modes.letters }
    match ← peek with
    | none => return ofItems items
    | some ['|'] | some [')'] => return ofItems items
    | some [c] =>
      advance
      if modes.spaced && (" \t\n\r\x0b\x0c".toList.contains c) then readItems fuel modes items
      else if modes.spaced && c = '#' then
        skipLine (← get).rest.length
        readItems fuel modes items
      else if c = '[' then
        let k ← readClass position
        readItems fuel modes ({ expression := .oneOf k modes.letters } :: items)
      else if c = '.' then
        let k : CharClass := if modes.dotAll then ⟨true, []⟩ else ⟨true, [('\n', '\n')]⟩
        readItems fuel modes ({ expression := .oneOf k .same } :: items)
      else if c = '^' then readItems fuel modes (⟨.start modes.anyLine, .place⟩ :: items)
      else if c = '$' then readItems fuel modes (⟨.finish modes.anyLine, .place⟩ :: items)
      else if c = '(' then
        match ← readGroup fuel modes position with
        | none => readItems fuel modes items
        | some e => readItems fuel modes ({ expression := e } :: items)
      else if "?*+\x7b".toList.contains c then
        match ← readCount c with
        | none => readItems fuel modes (letter c :: items)
        | some bounds => do readItems fuel modes (← repeatLast position bounds items)
      else readItems fuel modes (letter c :: items)
    | some piece =>
      advance
      readItems fuel modes (letter (meant piece) :: items)

/-- Reads what is in a parenthesis that opened at a position, up to its end; a comment is nothing. -/
def readGroup : Nat → Modes → Nat → Read (Option Expression)
  | 0, _, _ => failBefore 0 .ended
  | fuel + 1, modes, opened => do
    if ← skip '?' then
      match ← take with
      | none => failBefore 0 .ended
      | some piece =>
        if piece = ['P'] then
          if ← skip '<' then do
            let name ← readName '>'
            some <$> readNumbered fuel modes opened (some name)
          else if ← skip '=' then do
            let name ← readName ')'
            let n ← numberOfName name
            match ← widthOf? n with
            | none => failBefore (name.length + 1) .openGroup
            | some w => do
              checkLook n
              return some (.again n modes.letters w)
          else match ← take with
            | none => failBefore 0 .ended
            | some sign => failBefore (sign.length + 2) (.unknownExtension ('?' :: 'P' :: sign))
        else if piece = [':'] then some <$> readInner fuel modes opened
        else if piece = ['#'] then
          skipComment opened ((← get).rest.length + 1)
          return none
        else if piece = ['='] || piece = ['!'] then
          return some (.look false (piece = ['=']) (← readInner fuel modes opened))
        else if piece = ['<'] then
          match ← take with
          | none => failBefore 0 .ended
          | some sign =>
            if sign != ['='] && sign != ['!'] then
              failBefore (sign.length + 2) (.unknownExtension ('?' :: '<' :: sign))
            let outer := (← get).behind
            if outer.isNone then modify fun r => { r with behind := some (r.widths.length + 1) }
            let a ← readBranches fuel modes
            modify fun r => { r with behind := outer }
            if !(← skip ')') then failAt opened .unclosedGroup
            return some (.look true (sign = ['=']) a)
        else if piece = ['('] then
          let n ← readCondition
          checkLook n
          let yes ← readItems fuel modes []
          let no ← if ← skip '|' then readItems fuel modes [] else pure .nothing
          if (← peek) = some ['|'] then failBefore 0 .thirdBranch
          if !(← skip ')') then failAt opened .unclosedGroup
          return some (.given n yes no)
        else if piece = ['>'] then return some (.firstWay (← readInner fuel modes opened))
        else if isFlag piece || piece = ['-'] then
          let (on, off) ← readFlags opened (meant piece)
          some <$> readInner fuel (modes.change on off) opened
        else failBefore (piece.length + 1) (.unknownExtension ('?' :: piece))
    else some <$> readNumbered fuel modes opened none

def readInner : Nat → Modes → Nat → Read Expression
  | 0, _, _ => failBefore 0 .ended
  | fuel + 1, modes, opened => do
    let a ← readBranches fuel modes
    if ← skip ')' then return a else failAt opened .unclosedGroup

def readNumbered : Nat → Modes → Nat → Option Text → Read Expression
  | 0, _, _, _ => failBefore 0 .ended
  | fuel + 1, modes, opened, name => do
    let n ← openGroup name
    let a ← readInner fuel modes opened
    closeGroup n a.width
    return .group n a

end

def readWhole : Read Expression := do
  let e ← readBranches (4 * (← get).rest.length + 4) {}
  if (← peek).isSome then failBefore 0 .notOpened
  let r ← get
  if let some (n, position) := r.asked.find? fun (n, _) => r.widths.length < n then
    failAt position (.noGroup n)
  if !e.looksFixed then throw .looseLook
  return e

def read (s : Text) : Except Problem Expression := readWhole.run' { whole := s, rest := piecesFrom 0 s }

end RuleReview.Expression
