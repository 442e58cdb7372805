/-!
# Errors

Why a pattern was refused, and why a search was given up.  Offsets count characters from the
beginning of the pattern; for a delimited pattern, from the first character between the
delimiters.
-/

namespace Backtracking

/-- The reasons for which a pattern is refused. -/
inductive CompileError where
  | unterminatedGroup (offset : Nat)
  | unmatchedParenthesis (offset : Nat)
  | unterminatedClass (offset : Nat)
  | nothingToRepeat (offset : Nat)
  | invalidRepetition (offset : Nat)
  | repetitionTooLarge (offset : Nat) (maximum : Nat)
  | invalidHexEscape (offset : Nat)
  | invalidControlEscape (offset : Nat)
  | trailingBackslash (offset : Nat)
  | unknownEscape (offset : Nat) (escape : Char)
  | invalidRange (offset : Nat) (first last : Char)
  | unknownPosixClass (offset : Nat) (name : String)
  | posixClassOutsideSet (offset : Nat)
  | unknownProperty (offset : Nat) (name : String)
  | invalidGroupName (offset : Nat)
  | duplicateGroupName (offset : Nat) (name : String)
  | unknownGroupName (offset : Nat) (name : String)
  | invalidBackReference (offset : Nat) (group : Nat)
  | lookBehindNotFixedLength (offset : Nat)
  | invalidCondition (offset : Nat)
  | tooManyBranches (offset : Nat)
  | unknownGroupType (offset : Nat)
  | nestingTooDeep (offset : Nat) (limit : Nat)
  | emptyPattern
  | invalidDelimiter (delimiter : Char)
  | missingDelimiter (delimiter : Char)
  | unknownFlag (flag : Char)
deriving DecidableEq

namespace CompileError

/-- The place of an error in the pattern.  The errors of delimiters and flags have none. -/
def offset? : CompileError → Option Nat
  | .unterminatedGroup offset | .unmatchedParenthesis offset | .unterminatedClass offset
  | .nothingToRepeat offset | .invalidRepetition offset | .repetitionTooLarge offset _
  | .invalidHexEscape offset | .invalidControlEscape offset | .trailingBackslash offset
  | .unknownEscape offset _ | .invalidRange offset _ _ | .unknownPosixClass offset _
  | .posixClassOutsideSet offset | .unknownProperty offset _ | .invalidGroupName offset
  | .duplicateGroupName offset _ | .unknownGroupName offset _ | .invalidBackReference offset _
  | .lookBehindNotFixedLength offset | .invalidCondition offset | .tooManyBranches offset
  | .unknownGroupType offset | .nestingTooDeep offset _ => some offset
  | .emptyPattern | .invalidDelimiter _ | .missingDelimiter _ | .unknownFlag _ => none

private def placed (text : String) (offset : Nat) : String :=
  text ++ " at offset " ++ toString offset

private def within (text : String) (offset : Nat) : String :=
  text ++ " (offset " ++ toString offset ++ ")"

private def ticked (text : String) : String := "`" ++ text ++ "`"

def message : CompileError → String
  | .unterminatedGroup offset =>
      placed "missing closing parenthesis for group opened" offset
  | .unmatchedParenthesis offset => placed "unmatched closing parenthesis" offset
  | .unterminatedClass offset => placed "missing terminating ] for character class" offset
  | .nothingToRepeat offset => placed "quantifier does not follow a repeatable item" offset
  | .invalidRepetition offset => placed "numbers out of order in \x7b\x7d quantifier" offset
  | .repetitionTooLarge offset maximum =>
      placed "number too big in \x7b\x7d quantifier" offset ++ " (max: " ++ toString maximum ++ ")"
  | .invalidHexEscape offset => placed "invalid hexadecimal escape" offset
  | .invalidControlEscape offset => placed "invalid control escape" offset
  | .trailingBackslash _ => "pattern ends with a backslash"
  | .unknownEscape offset escape =>
      placed ("unrecognized escape sequence " ++ ticked ("\\" ++ escape.toString)) offset
  | .invalidRange offset first last =>
      placed "range out of order in character class" offset ++
        " (" ++ ticked (first.toString ++ "-" ++ last.toString) ++ ")"
  | .unknownPosixClass offset name => placed ("unknown POSIX class name " ++ ticked name) offset
  | .posixClassOutsideSet offset =>
      within "POSIX named classes are supported only within a class" offset
  | .unknownProperty offset name =>
      placed ("unknown property name " ++ ticked name ++ " after \\P or \\p") offset
  | .invalidGroupName offset => placed "invalid group name" offset
  | .duplicateGroupName offset name =>
      within ("two named groups have the same name " ++ ticked name) offset
  | .unknownGroupName offset name =>
      placed ("reference to non-existent group " ++ ticked name) offset
  | .invalidBackReference offset group =>
      placed ("reference to non-existent group " ++ toString group) offset
  | .lookBehindNotFixedLength offset => within "lookbehind assertion is not fixed length" offset
  | .invalidCondition offset => placed "malformed condition in conditional group" offset
  | .tooManyBranches offset =>
      within "conditional group contains more than two branches" offset
  | .unknownGroupType offset => placed "unrecognized character after (?" offset
  | .nestingTooDeep offset limit =>
      placed "parentheses are too deeply nested" offset ++ " (max: " ++ toString limit ++ ")"
  | .emptyPattern => "empty regular expression"
  | .invalidDelimiter delimiter =>
      "delimiter must not be alphanumeric or backslash (found " ++ ticked delimiter.toString ++ ")"
  | .missingDelimiter delimiter =>
      "no ending delimiter " ++ ticked delimiter.toString ++ " found"
  | .unknownFlag flag => "unknown modifier " ++ ticked flag.toString

end CompileError

/-- The reasons for which a search is given up.  Not to find a match is no error. -/
inductive MatchError where
  | depthLimitExceeded (limit : Nat)
  | stepLimitExceeded (limit : Nat)
deriving DecidableEq

namespace MatchError

def message : MatchError → String
  | .depthLimitExceeded limit =>
      "pattern too complex: backtracking depth exceeded " ++ toString limit
  | .stepLimitExceeded limit =>
      "pattern too complex: step limit of " ++ toString limit ++ " exceeded"

end MatchError

end Backtracking
