import Backtracking.Chars.Matcher

/-!
# Patterns

The tree of a regular expression.  Back-references, conditionals and lookarounds remember where
they were written, so that an error found later can name the place.
-/

namespace Backtracking

inductive GroupRef where
  | number (group : Nat)
  | name (name : String)
deriving DecidableEq

/-- Conditions on a position of the subject, which take no characters.

`startOfInput` and `startOfLine` are the two readings of `^`; `endOfInput`, `endOfInputOrNewline`
and `endOfLine` those of `$`.  `searchOrigin` holds where the search began, and
`previousMatchEnd` where the match before this one ended. -/
inductive Assertion where
  | startOfInput
  | startOfLine
  | endOfInput
  | endOfInputOrNewline
  | endOfLine
  | searchOrigin
  | previousMatchEnd
  | wordBoundary (unicode : Bool)
  | notWordBoundary (unicode : Bool)
deriving DecidableEq

/-- How a repetition chooses the number of its iterations: as many as possible, as few as
possible, or as many as possible without ever giving one back. -/
inductive RepeatMode where
  | greedy
  | lazy
  | possessive
deriving DecidableEq

/-- The side of a position that a lookaround examines. -/
inductive Direction where
  | ahead
  | behind
deriving DecidableEq

/-- The tree of a regular expression. -/
inductive Pattern where
  | empty
  | char (matcher : CharMatcher)
  | assert (assertion : Assertion)
  | group (index : Nat) (body : Pattern)
  | concat (items : List Pattern)
  | alternation (branches : List Pattern)
  | repeated (body : Pattern) (least : Nat) (most : Option Nat) (mode : RepeatMode)
  | lookAround (direction : Direction) (negated : Bool) (body : Pattern) (offset : Nat)
  | atomic (body : Pattern)
  | backReference (target : GroupRef) (ignoresCase : Bool) (offset : Nat)
  | conditional (target : GroupRef) (yes no : Pattern) (offset : Nat)

namespace Pattern

def sequence : List Pattern → Pattern
  | [] => .empty
  | [item] => item
  | items => .concat items

def choice : List Pattern → Pattern
  | [branch] => branch
  | branches => .alternation branches

/-- The branches between which a pattern chooses at its top level. -/
def branches : Pattern → List Pattern
  | .alternation branches => branches
  | pattern => [pattern]

end Pattern

end Backtracking
