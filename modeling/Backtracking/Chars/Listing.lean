import Backtracking.Chars.Escape
import Backtracking.Chars.Matcher

/-!
# Sets and matchers in listings

A set is shown by its first ranges between brackets, followed by the number of those left out.
-/

namespace Backtracking

/-- A range, or its only character. -/
def CharRange.render (range : CharRange) : String :=
  if range.first = range.last then escapeChar .alone range.first
  else escapeChar .alone range.first ++ "-" ++ escapeChar .alone range.last

namespace CharSet

/-- The number of ranges that a listing shows. -/
def shownRanges : Nat := 8

/-- A set with its negation, its first ranges and its treatment of case. -/
def render (set : CharSet) : String :=
  let ranges := set.ascii.ranges ++ set.high.toList
  let shown := String.join ((ranges.take shownRanges).map CharRange.render)
  let hidden :=
    if ranges.length > shownRanges then "...+" ++ toString (ranges.length - shownRanges) else ""
  "[" ++ (if set.negated then "^" else "") ++ shown ++ hidden ++ "]" ++
    (if set.ignoresCase then "/i" else "")

end CharSet

namespace CharMatcher

def render : CharMatcher → String
  | .any => "ANY"
  | .anyExceptNewline => "ANY_EXCEPT_NL"
  | .char expected => "'" ++ escapeChar .alone expected ++ "'"
  | .charIgnoringCase expected => "'" ++ escapeChar .alone expected ++ "'/i"
  | .set members => members.render

end CharMatcher

end Backtracking
