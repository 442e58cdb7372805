import Backtracking.Delimited
import Backtracking.Limits
import Backtracking.Pattern.Hints
import Backtracking.Program.Listing
import Backtracking.Program.OfPattern

/-!
# Regular expressions

A regular expression is a pattern that was compiled under some flags, together with its hints, the
names of its groups, and the limits of the searches for it.
-/

namespace Backtracking

/-- A compiled pattern. -/
structure Regexp where
  pattern : List Char
  flags : Flags
  program : Program
  hints : Hints
  groupNames : Array (Option String)
  limits : Limits := {}
deriving DecidableEq

namespace Regexp

def compile (pattern : List Char) (flags : Flags) : Except CompileError Regexp := do
  let parsed ← ParsedPattern.parse pattern flags
  let program ← Program.ofPattern parsed
  return {
    pattern := pattern
    flags := flags
    program := program
    hints := parsed.pattern.hints
    groupNames := parsed.groupNames }

/-- Compiles a delimited pattern. -/
def parse (text : List Char) : Except CompileError Regexp := do
  let delimited ← Delimited.split text
  compile delimited.pattern (← Flags.parse delimited.letters)

/-- The number of groups, with group zero for the whole match. -/
def groupCount (regexp : Regexp) : Nat := regexp.groupNames.size + 1

def groupName? (regexp : Regexp) (group : Nat) : Option String :=
  match group with
  | 0 => none
  | group + 1 => regexp.groupNames.getD group none

def groupIndex? (regexp : Regexp) (name : String) : Option Nat :=
  (regexp.groupNames.findIdx? (· == some name)).map (· + 1)

/-- A regular expression between slashes, with its flags. -/
def render (regexp : Regexp) : String :=
  "/" ++ String.ofList regexp.pattern ++ "/" ++ regexp.flags.render

def groupListing (regexp : Regexp) : List String :=
  (List.range regexp.groupCount).filterMap fun group =>
    (regexp.groupName? group).map fun name => "  " ++ toString group ++ ": " ++ name

def hintListing (hints : Hints) : List String :=
  ["min length: " ++ toString hints.minLength] ++
  (hints.firstChar.map fun character => "first char: " ++ quoteChar character).toList ++
  (hints.firstSet.map fun set => "first set: [" ++ escapeRun set.toList ++ "]").toList ++
  (if hints.leading.isEmpty then [] else ["prefix: " ++ quoteText hints.leading]) ++
  (if hints.anchoredStart then ["anchored at start"] else [])

/-- The program of a regular expression and its hints, for a reader.  An empty line comes first. -/
def dump (regexp : Regexp) : String :=
  Listing.lines <|
    [""] ++ regexp.program.listing ++
    ["start: " ++ Listing.nodeId regexp.program.start,
      "groups: " ++ toString (regexp.groupCount - 1)] ++
    regexp.groupListing ++
    ["loop slots: " ++ toString regexp.program.loopSlots] ++
    hintListing regexp.hints

end Regexp

end Backtracking
