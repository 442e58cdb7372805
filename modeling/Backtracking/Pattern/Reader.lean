import Backtracking.Pattern.Basic
import Backtracking.Pattern.Bracket

/-!
# Reading patterns

A pattern is a choice between sequences of items, and an item is an atom with an optional
quantifier.  Parentheses enclose a pattern of their own; the readings of such a pattern are nested
as deeply as the parentheses, and a reading is given the reading of the next level to use.  At the
last level there is none, which bounds the nesting.

Flags that are set within parentheses are in force up to the closing one.
-/

namespace Backtracking

/-- A pattern with what its text says about its capture groups: their names in order, for those
that have one. -/
structure ParsedPattern where
  pattern : Pattern
  groupNames : Array (Option String)

namespace ParsedPattern

def groupCount (parsed : ParsedPattern) : Nat := parsed.groupNames.size

def groupNumber? (parsed : ParsedPattern) (name : String) : Option Nat :=
  (parsed.groupNames.findIdx? (· == some name)).map (· + 1)

end ParsedPattern

namespace Reader

open Reading

/-- The greatest number of iterations that a quantifier may ask for. -/
def greatestRepetition : Nat := 65535

def greatestNameLength : Nat := 32

def nestingLimit : Nat := 250

/-- The reading of what parentheses enclose, with the bound on their depth; there is no reading
where the bound is reached. -/
structure Inner where
  limit : Nat
  branches? : Option (Reading (List Pattern))

def literal (character : Char) : Reading Pattern := do
  return .char (CharMatcher.literal character (← get).flags.ignoreCase)

/-- Passes over blanks and comments, which an extended pattern may hold. -/
def skipTrivia : Reading Unit := do
  let cursor ← get
  if cursor.flags.extended then
    skip (Scan.triviaLength false cursor.rest)

/-! ## Quantifiers -/

/-- The numbers of a quantifier, which has been read to its end apart from its mode. -/
def readBounds? : Reading (Option (Nat × Option Nat)) := do
  let cursor ← get
  match cursor.rest with
  | '*' :: _ => skip 1; return some (0, none)
  | '+' :: _ => skip 1; return some (1, none)
  | '?' :: _ => skip 1; return some (0, some 1)
  | _ =>
      match Scan.bounds? cursor.rest with
      | none => return none
      | some bounds =>
          if bounds.least > greatestRepetition || bounds.most.any (· > greatestRepetition) then
            throw (.repetitionTooLarge cursor.position greatestRepetition)
          if bounds.most.any (· < bounds.least) then
            throw (.invalidRepetition cursor.position)
          skip bounds.length
          return some (bounds.least, bounds.most)

/-- The mode of a quantifier: a plus sign behind it makes it possessive, and a question mark turns
the preference of the flags around. -/
def readMode : Reading RepeatMode := do
  if ← accept '+' then
    return .possessive
  else
    let turned ← accept '?'
    let cursor ← get
    return if turned != cursor.flags.ungreedy then .lazy else .greedy

/-- The atom, repeated if a quantifier follows.  An assertion is repeated only if it stands in
parentheses. -/
def readQuantifier (atom : Pattern) (inParentheses : Bool) : Reading Pattern := do
  skipTrivia
  let start := (← get).position
  match ← readBounds? with
  | none => return atom
  | some (least, most) =>
      match atom, inParentheses with
      | .assert _, false => throw (.nothingToRepeat start)
      | _, _ => return .repeated atom least most (← readMode)

/-! ## Groups -/

/-- Opens the next capture group; its name is written at `nameOffset`. -/
def openGroup (name : Option String) (nameOffset : Nat) : Reading Nat := do
  let cursor ← get
  if let some name := name then
    if cursor.groupNames.contains (some name) then
      throw (.duplicateGroupName nameOffset name)
  set { cursor with groupNames := cursor.groupNames.push name }
  return cursor.groupCount + 1

/-- The name of a group, up to `terminator`. -/
def readGroupName (terminator : Char) : Reading String := do
  let start := (← get).position
  let name ← takeWhile Scan.isNameChar
  let valid :=
    !name.isEmpty && name.length ≤ greatestNameLength && !(name.head?.any Char.isDigit)
  if !valid then
    throw (.invalidGroupName start)
  expect terminator (.invalidGroupName start)
  return String.ofList name

/-- The branches up to the closing parenthesis of a group that was opened at `start`. -/
def readEnclosed (inner : Inner) (start : Nat) : Reading (List Pattern) := do
  match inner.branches? with
  | none => throw (.nestingTooDeep start inner.limit)
  | some readBranches =>
      let flags := (← get).flags
      let branches ← readBranches
      modify ({ · with flags := flags })
      expect ')' (.unterminatedGroup start)
      return branches

/-- The pattern up to the closing parenthesis of a group that was opened at `start`. -/
def readBody (inner : Inner) (start : Nat) : Reading Pattern := do
  return Pattern.choice (← readEnclosed inner start)

def readNamedGroup (inner : Inner) (terminator : Char) (start : Nat) : Reading Pattern := do
  let nameOffset := (← get).position
  let name ← readGroupName terminator
  let index ← openGroup (some name) nameOffset
  return .group index (← readBody inner start)

def readLookAround (inner : Inner) (direction : Direction) (negated : Bool) (start : Nat) :
    Reading Pattern := do
  return .lookAround direction negated (← readBody inner start) start

/-- How a list of option letters ends: with the parenthesis, which puts the options in force for
what follows; with a colon, which does so for what it encloses; with the text; or with a character
that is no option. -/
inductive OptionEnd where
  | setting (flags : Flags) (length : Nat)
  | scope (flags : Flags) (length : Nat)
  | unfinished
  | unknown (length : Nat)

/-- Option letters, of which those behind a hyphen are switched off. -/
def scanOptions (on : Bool) (flags : Flags) (length : Nat) : List Char → OptionEnd
  | [] => .unfinished
  | letter :: rest =>
      match letter with
      | 'i' => scanOptions on { flags with ignoreCase := on } (length + 1) rest
      | 'm' => scanOptions on { flags with multiline := on } (length + 1) rest
      | 's' => scanOptions on { flags with dotAll := on } (length + 1) rest
      | 'x' => scanOptions on { flags with extended := on } (length + 1) rest
      | 'U' => scanOptions on { flags with ungreedy := on } (length + 1) rest
      | ')' => .setting flags (length + 1)
      | ':' => .scope flags (length + 1)
      | '-' => if on then scanOptions false flags (length + 1) rest else .unknown length
      | _ => .unknown length

/-- The options of a group that was opened at `start`. -/
def readOptions (inner : Inner) (start : Nat) : Reading (Option Pattern) := do
  let cursor ← get
  match scanOptions true cursor.flags 0 cursor.rest with
  | .setting flags length =>
      skip length
      modify ({ · with flags := flags })
      return none
  | .scope flags length =>
      skip length
      modify ({ · with flags := flags })
      let body ← readBody inner start
      modify ({ · with flags := cursor.flags })
      return some body
  | .unfinished => throw (.unterminatedGroup start)
  | .unknown length => throw (.unknownGroupType (cursor.position + length))

/-- The group that a conditional asks about, up to the closing parenthesis. -/
def readCondition : Reading GroupRef := do
  let offset := (← get).position
  match ← peek? with
  | none => throw (.invalidCondition offset)
  | some character =>
      if character.isDigit then
        let group := Scan.number (← takeWhile Char.isDigit)
        if group = 0 then
          throw (.invalidCondition offset)
        expect ')' (.invalidCondition offset)
        return .number group
      else if character = '<' || character = '\'' then
        skip 1
        let name ← readGroupName (if character = '<' then '>' else '\'')
        expect ')' (.invalidCondition offset)
        return .name name
      else if character.isAlpha || character = '_' then
        return .name (← readGroupName ')')
      else
        throw (.invalidCondition offset)

/-- A conditional, with its condition and one or two branches. -/
def readConditional (inner : Inner) (start : Nat) : Reading Pattern := do
  let offset := (← get).position
  let target ← readCondition
  match ← readEnclosed inner start with
  | [yes] => return .conditional target yes .empty offset
  | [yes, no] => return .conditional target yes no offset
  | _ => throw (.tooManyBranches start)

/-- A reference by name or number to an earlier group, or to a group that is still to come. -/
def backReference (target : GroupRef) (offset : Nat) : Reading Pattern := do
  return .backReference target (← get).flags.ignoreCase offset

/-- What parentheses stand for whose opening one was read at `start`.  Comments and options have no
pattern. -/
def readGroup (inner : Inner) (start : Nat) : Reading (Option Pattern) := do
  if !(← accept '?') then
    let index ← openGroup none start
    return some (.group index (← readBody inner start))
  let kindOffset := (← get).position
  match (← get).rest with
  | '#' :: _ =>
      discard <| takeWhile (· != ')')
      expect ')' (.unterminatedGroup start)
      return none
  | ':' :: _ => skip 1; return some (← readBody inner start)
  | '>' :: _ => skip 1; return some (.atomic (← readBody inner start))
  | '=' :: _ => skip 1; return some (← readLookAround inner .ahead false start)
  | '!' :: _ => skip 1; return some (← readLookAround inner .ahead true start)
  | '<' :: '=' :: _ => skip 2; return some (← readLookAround inner .behind false start)
  | '<' :: '!' :: _ => skip 2; return some (← readLookAround inner .behind true start)
  | '<' :: _ => skip 1; return some (← readNamedGroup inner '>' start)
  | '\'' :: _ => skip 1; return some (← readNamedGroup inner '\'' start)
  | 'P' :: '<' :: _ => skip 2; return some (← readNamedGroup inner '>' start)
  | 'P' :: '=' :: _ =>
      skip 2
      let name ← readGroupName ')'
      return some (← backReference (.name name) start)
  | '(' :: _ => skip 1; return some (← readConditional inner start)
  | character :: _ =>
      if ['-', 'i', 'm', 's', 'x', 'U'].contains character then readOptions inner start
      else throw (.unknownGroupType kindOffset)
  | [] => throw (.unknownGroupType kindOffset)

/-! ## Atoms -/

/-- Any line end: the two characters of a carriage return and a line feed, or one character. -/
def anyLineEnd : Pattern :=
  .atomic (.alternation
    [.concat [.char (.char '\r'), .char (.char '\n')],
      .char (.set (CharSet.ofRanges NamedClass.verticalSpace false false))])

/-- The set that a shorthand or a property stands for, which never ignores case. -/
def classPattern (reference : Escape.ClassRef) : Pattern :=
  .char (.set (CharSet.ofRanges reference.ranges reference.negated false))

/-- The reference after `\k`: a name between angle brackets, quotes or braces. -/
def readNamedReference (start : Nat) : Reading Pattern := do
  let terminator ←
    match ← next? with
    | some '<' => pure '>'
    | some '\'' => pure '\''
    | some '{' => pure '}'
    | _ => throw (.invalidGroupName start)
  let name ← readGroupName terminator
  backReference (.name name) start

/-- The reference after `\g`: a number or a name, of which only a number may do without braces.
A negative number counts back from the group opened last. -/
def readReference (start : Nat) : Reading Pattern := do
  let braced ← accept '{'
  let following ← peek?
  if braced && following.any (fun character => character.isAlpha || character = '_') then
    let name ← readGroupName '}'
    return ← backReference (.name name) start
  let relative ← accept '-'
  let digits ← takeWhile Char.isDigit
  if digits.isEmpty then
    throw (.invalidGroupName start)
  if braced then
    expect '}' (.invalidGroupName start)
  let number := Scan.number digits
  let groupCount := (← get).groupCount
  let group :=
    if !relative then number
    else if number ≤ groupCount && number != 0 then groupCount - number + 1
    else 0
  if group = 0 then
    throw (.invalidBackReference start 0)
  backReference (.number group) start

/-- What a backslash stands for before a digit other than zero: a reference to a group, if the
number has one digit or so many groups have been opened, and otherwise an octal code point or the
digit itself. -/
def readNumbered (digit : Char) (start : Nat) : Reading Pattern := do
  let cursor ← get
  let more := cursor.rest.takeWhile Char.isDigit
  let group := Scan.number (digit :: more)
  if group < 10 || group ≤ cursor.groupCount then
    skip more.length
    backReference (.number group) start
  else if digit = '8' || digit = '9' then
    literal digit
  else
    literal (← Escape.readShortCode 8 Digits.isOctal [digit])

/-- What a backslash at `start` and the characters after it stand for.  An `\E` that ends no quoted
text stands for nothing. -/
def readEscape (start : Nat) : Reading (Option Pattern) := do
  match ← next? with
  | none => throw (.trailingBackslash start)
  | some letter =>
      let unicode := (← get).flags.unicode
      match letter with
      | 'N' => return some (.char .anyExceptNewline)
      | 'p' | 'P' => return some (classPattern (← Escape.readProperty letter start))
      | 'R' => return some anyLineEnd
      | 'b' => return some (.assert (.wordBoundary unicode))
      | 'B' => return some (.assert (.notWordBoundary unicode))
      | 'A' => return some (.assert .searchOrigin)
      | 'Z' => return some (.assert .endOfInputOrNewline)
      | 'z' => return some (.assert .endOfInput)
      | 'G' => return some (.assert .previousMatchEnd)
      | 'E' => return none
      | 'k' => return some (← readNamedReference start)
      | 'g' => return some (← readReference start)
      | _ =>
          if NamedClass.isShorthand letter then
            return some (classPattern (← Escape.readShorthand letter))
          else if '1' ≤ letter && letter ≤ '9' then
            return some (← readNumbered letter start)
          else
            return some (← literal (← Escape.readChar letter start))

/-- The atom at the front of the text, which begins with `first`. -/
def readAtom (inner : Inner) (first : Char) : Reading (Option Pattern) := do
  let start := (← get).position
  let flags := (← get).flags
  skip 1
  match first with
  | '(' => readGroup inner start
  | '[' => return some (.char (.set (← Bracket.read start)))
  | '\\' => readEscape start
  | '.' => return some (.char (if flags.dotAll then .any else .anyExceptNewline))
  | '^' => return some (.assert (if flags.multiline then .startOfLine else .startOfInput))
  | '$' =>
      return some (.assert
        (if flags.multiline then .endOfLine
          else if flags.dollarEndOnly then .endOfInput
          else .endOfInputOrNewline))
  | _ => return some (← literal first)

/-! ## Sequences and branches -/

/-- Quoted text, whose `\Q` comes next: a literal for each character.  A quantifier behind it
applies to the last one. -/
def readQuoted : Reading (List Pattern) := do
  skip 2
  let (text, length) := Scan.quoted (← get).rest
  skip length
  match text.getLast? with
  | none => return []
  | some last =>
      let literals ← text.dropLast.mapM literal
      let repeated ← readQuantifier (← literal last) false
      return literals ++ [repeated]

/-- The items that the next piece of a sequence, beginning with `first`, consists of. -/
def readPiece (inner : Inner) (first : Char) : Reading (List Pattern) := do
  match (← get).rest with
  | '\\' :: 'Q' :: _ => readQuoted
  | _ =>
      match ← readAtom inner first with
      | none => return []
      | some atom => return [← readQuantifier atom (first = '(')]

/-- Whether a quantifier stands at the front of a text. -/
def startsWithQuantifier : List Char → Bool
  | [] => false
  | first :: rest =>
      ['*', '+', '?'].contains first || (Scan.bounds? (first :: rest)).isSome

/-- The items of a sequence, in reverse order, up to a bar, a closing parenthesis or the end of
the text.  `fuel` exceeds the number of pieces that the text can hold. -/
def readItems (inner : Inner) : (fuel : Nat) → (items : List Pattern) → Reading (List Pattern)
  | 0, items => return items
  | fuel + 1, items => do
      skipTrivia
      let cursor ← get
      match cursor.rest with
      | [] => return items
      | first :: _ =>
          if first = '|' || first = ')' then
            return items
          else if startsWithQuantifier cursor.rest then
            throw (.nothingToRepeat cursor.position)
          else
            let piece ← readPiece inner first
            readItems inner fuel (piece.reverse ++ items)

def readSequence (inner : Inner) : Reading Pattern := do
  let items ← readItems inner ((← get).rest.length + 1) []
  return Pattern.sequence items.reverse

/-- The branches behind a first one, in reverse order together with those read before.  `fuel`
exceeds the number of bars in the text. -/
def readMoreBranches (inner : Inner) :
    (fuel : Nat) → (branches : List Pattern) → Reading (List Pattern)
  | 0, branches => return branches
  | fuel + 1, branches => do
      if ← accept '|' then
        let branch ← readSequence inner
        readMoreBranches inner fuel (branch :: branches)
      else
        return branches

def readBranchesWith (inner : Inner) : Reading (List Pattern) := do
  let first ← readSequence inner
  let branches ← readMoreBranches inner ((← get).rest.length + 1) [first]
  return branches.reverse

/-- Branches in which parentheses may be nested `depth` deep, out of the `limit` that hold for the
whole pattern. -/
def readBranches (limit : Nat) : (depth : Nat) → Reading (List Pattern)
  | 0 => readBranchesWith ⟨limit, none⟩
  | depth + 1 => readBranchesWith ⟨limit, some (readBranches limit depth)⟩

end Reader

/-- Reads a pattern in which parentheses are nested at most `limit` deep.  Branches end before the
end of the text only at a parenthesis that closes nothing. -/
def ParsedPattern.parseWithin (limit : Nat) (text : List Char) (flags : Flags) :
    Except CompileError ParsedPattern := do
  let (branches, cursor) ← (Reader.readBranches limit limit).run { rest := text, flags := flags }
  if cursor.rest.isEmpty then
    return ⟨Pattern.choice branches, cursor.groupNames⟩
  else
    throw (.unmatchedParenthesis cursor.position)

def ParsedPattern.parse (text : List Char) (flags : Flags) : Except CompileError ParsedPattern :=
  parseWithin Reader.nestingLimit text flags

end Backtracking
