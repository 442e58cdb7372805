import Backtracking.Search.Sequence
import Backtracking.Text.Lines

/-!
# Reports

What a search prints about a text.  A text is searched line by line, and a line is reported if the
regular expression matches in it.  The report shows the line with its matches marked, or the text of
every match, with or without its groups, or only counts the lines.
-/

namespace Backtracking

/-- The lines of a report, and the error of the search that was given up, if one was. -/
structure Report where
  lines : List String
  error? : Option MatchError
deriving DecidableEq

inductive Report.Detail where
  | count
  | lines
  | matchTexts
  | groupTexts
deriving DecidableEq

/-- How a report is written: what it shows, what comes before each line, and how the text of a match
is marked within its line. -/
structure Report.Style where
  detail : Report.Detail
  path? : Option String
  lineNumbers : Bool
  mark : String → String

namespace Report

def withColon (text : String) : String := text ++ ":"

/-- The path that comes before each line. -/
def Style.pathLabel (style : Style) : String := (style.path?.map withColon).getD ""

/-- What comes before a line with a number. -/
def Style.label (style : Style) (number : Nat) : String :=
  style.pathLabel ++ if style.lineNumbers then withColon (toString number) else ""

/-- A line from a position on with the matches behind that position marked. -/
def markFrom (mark : String → String) (line : Subject) (position : Nat) : List Span → String
  | [] => line.substring position line.size
  | span :: spans =>
      line.substring position span.start ++ mark (line.substring span.start span.stop) ++
        markFrom mark line span.stop spans

def markMatches (mark : String → String) (line : Subject) (found : List MatchState) : String :=
  markFrom mark line 0 (found.filterMap (·.span? 0))

/-- The text of a group that is not set. -/
def unset : String := "<unset>"

def groupLabel (regexp : Regexp) (group : Nat) : String :=
  match regexp.groupName? group with
  | some name => toString group ++ " (" ++ name ++ ")"
  | none => toString group

def groupLine (regexp : Regexp) (line : Subject) (state : MatchState) (group : Nat) : String :=
  "  " ++ groupLabel regexp group ++ ": " ++ (state.group? line group).getD unset

/-- The lines for the groups of a match, apart from group zero. -/
def groupLines (regexp : Regexp) (line : Subject) (state : MatchState) : List String :=
  ((List.range regexp.groupCount).drop 1).map (groupLine regexp line state)

def matchText (line : Subject) (state : MatchState) : String := (state.group? line 0).getD ""

/-- The report on a line in which there are matches. -/
def ofMatches (style : Style) (regexp : Regexp) (number : Nat) (line : Subject)
    (found : List MatchState) : List String :=
  let label := style.label number
  match style.detail with
  | .count => []
  | .lines => [label ++ markMatches style.mark line found]
  | .matchTexts => found.map fun state => label ++ matchText line state
  | .groupTexts =>
      found.flatMap fun state =>
        (label ++ matchText line state) :: groupLines regexp line state

/-- The report on the lines from a number on, where `counted` lines before them had matches. -/
def ofLines (style : Style) (regexp : Regexp) (number counted : Nat) :
    List Subject → Except Overflow Report
  | [] =>
      match style.detail with
      | .count => .ok ⟨[style.pathLabel ++ toString counted], none⟩
      | _ => .ok ⟨[], none⟩
  | line :: rest => do
      match ← regexp.findAll line with
      | ⟨_, some error⟩ => return ⟨[], some error⟩
      | ⟨[], none⟩ => ofLines style regexp (number + 1) counted rest
      | ⟨found, none⟩ =>
          let report ← ofLines style regexp (number + 1) (counted + 1) rest
          return { report with lines := ofMatches style regexp number line found ++ report.lines }

def ofText (style : Style) (regexp : Regexp) (text : List Char) : Except Overflow Report :=
  ofLines style regexp 1 0 ((Lines.split text).map fun line => ⟨line.toArray⟩)

end Report

end Backtracking
