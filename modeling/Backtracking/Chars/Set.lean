import Backtracking.Chars.AsciiSet
import Backtracking.Unicode.CaseMapping

/-!
# Sets of characters

The set that a bracketed class or a shorthand describes.  ASCII characters are looked up in a
table, and the others by binary search in ascending ranges.  A set may be negated, and it may
ignore case, which makes a character a member if one of its case forms is.
-/

namespace Backtracking

/-- A set of characters.  `high` holds ascending ranges, with gaps between them, of the members
above ASCII. -/
structure CharSet where
  ascii : AsciiSet
  high : Array CharRange
  negated : Bool
  ignoresCase : Bool
deriving DecidableEq

namespace CharSet

/-- The least character above ASCII. -/
def firstHigh : Char := '\x80'

/-- The part of some ranges that lies above ASCII. -/
def clipToHigh (ranges : List CharRange) : List CharRange :=
  (ranges.filter fun range => range.first ≤ range.last && firstHigh ≤ range.last).map
    fun range => ⟨CharRange.later firstHigh range.first, range.last⟩

def ofRanges (ranges : List CharRange) (negated ignoresCase : Bool) : CharSet where
  ascii := AsciiSet.ofTest (CharRange.covers (ranges.filter (·.first < firstHigh)))
  high := (CharRange.merge (clipToHigh ranges)).toArray
  negated := negated
  ignoresCase := ignoresCase

/-- Whether one of the ranges at the positions from `low` to before `high` contains a character.
The ranges are ascending, so that the middle one tells which half to go on with. -/
def searchBetween (ranges : Array CharRange) (character : Char) (low high : Nat) : Bool :=
  if low < high then
    let middle := (low + high) / 2
    match ranges[middle]? with
    | none => false
    | some range =>
        if range.last < character then searchBetween ranges character (middle + 1) high
        else if character < range.first then searchBetween ranges character low middle
        else true
  else
    false
termination_by high - low

/-- Membership before negation and case are taken into account. -/
def containsExactly (set : CharSet) (character : Char) : Bool :=
  if character < firstHigh then set.ascii.contains character
  else searchBetween set.high character 0 set.high.size

def contains (set : CharSet) (character : Char) : Bool :=
  let found :=
    set.containsExactly character ||
      (set.ignoresCase &&
        (set.containsExactly (lowerCase character) || set.containsExactly (upperCase character)))
  found != set.negated

end CharSet

end Backtracking
