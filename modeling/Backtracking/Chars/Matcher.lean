import Backtracking.Chars.Set

/-!
# Matchers of one character

A matcher decides whether one character of the subject is accepted.  A literal that ignores case
but has no case forms is the same as one that compares exactly.
-/

namespace Backtracking

/-- A test on one character. -/
inductive CharMatcher where
  | any
  | anyExceptNewline
  | char (expected : Char)
  | charIgnoringCase (expected : Char)
  | set (members : CharSet)
deriving DecidableEq

namespace CharMatcher

def accepts (matcher : CharMatcher) (character : Char) : Bool :=
  match matcher with
  | .any => true
  | .anyExceptNewline => character != '\n'
  | .char expected => character == expected
  | .charIgnoringCase expected => equalIgnoringCase character expected
  | .set members => members.contains character

def literal (character : Char) (ignoresCase : Bool) : CharMatcher :=
  if ignoresCase && hasCaseForms character then .charIgnoringCase character else .char character

end CharMatcher

end Backtracking
