import Backtracking.Regexp
import Backtracking.Search.Attempt
import Backtracking.Search.Candidate

/-!
# Searching

A match state goes through the matches of a regular expression in a subject.  Each search begins
where the last match ended, or one character later if that match was empty, and tries one position
after another.  A search that is given up leaves the state as the last attempt left it, apart from
the position where the next search begins, which stays.  A search that overflows leaves nothing.
-/

namespace Backtracking

/-- The state between searches: the registers of the last attempt, the position where the next
search begins, and whether hints are used. -/
structure MatchState where
  registers : Registers
  origin : Nat := 0
  usesHints : Bool := true
deriving DecidableEq

namespace MatchState

def initial (regexp : Regexp) : MatchState where
  registers := .initial regexp.groupCount regexp.program.loopSlots

/-- The execution of a regular expression on a subject. -/
def trial (regexp : Regexp) (subject : Subject) : Trial :=
  { program := regexp.program, subject := subject, limits := regexp.limits }

/-- The first match from a position on, where `room` positions may be tried. -/
def scan (regexp : Regexp) (subject : Subject) (usesHints : Bool) :
    (room position : Nat) → Running (Except Overflow (Option Span))
  | 0, _ => return .ok none
  | room + 1, position => do
      match if usesHints then regexp.hints.candidate subject position else .ok .yes with
      | .error overflow => return .error overflow
      | .ok .never => return .ok none
      | .ok .no =>
          if regexp.flags.anchored then return .ok none
          else scan regexp subject usesHints room (position + 1)
      | .ok .yes =>
          match ← (trial regexp subject).attempt position with
          | some stop => return .ok (some ⟨position, stop⟩)
          | none =>
              if regexp.flags.anchored then return .ok none
              else scan regexp subject usesHints room (position + 1)

def accept (state : MatchState) (found : Span) : MatchState :=
  { state with
    registers := { state.registers.setCapture 0 (some found) with previousEnd := found.stop }
    origin := if found.stop = found.start then found.stop + 1 else found.stop }

/-- Searches for the next match and tells whether there is one. -/
def find (regexp : Regexp) (subject : Subject) (state : MatchState) :
    Except Overflow (Except MatchError Bool × MatchState) :=
  let room := subject.size + 1 - state.origin
  let (result, execution) :=
    (scan regexp subject state.usesHints room state.origin).run.run ⟨state.registers, 0⟩
  let state := { state with registers := execution.registers }
  match result with
  | .error error => .ok (.error error, state)
  | .ok (.error overflow) => .error overflow
  | .ok (.ok (some found)) => .ok (.ok true, state.accept found)
  | .ok (.ok none) =>
      .ok (.ok false,
        { state with registers := state.registers.cleared, origin := subject.size + 1 })

/-- Searches for a match at a position or behind it. -/
def findFrom (regexp : Regexp) (subject : Subject) (position : Nat) (state : MatchState) :
    Except Overflow (Except MatchError Bool × MatchState) :=
  find regexp subject
    { state with
      registers := { state.registers with searchStart := position, previousEnd := position }
      origin := position }

/-- Tries one position only, and gives it back if a match begins there.  The hints are not asked. -/
def exec (regexp : Regexp) (subject : Subject) (position : Nat) (state : MatchState) :
    Except MatchError (Option Nat) × MatchState :=
  if position > subject.size then
    (.ok none, { state with registers := state.registers.cleared })
  else
    let (result, execution) :=
      ((trial regexp subject).attempt position).run.run ⟨state.registers, 0⟩
    let state := { state with registers := execution.registers }
    match result with
    | .error error => (.error error, state)
    | .ok (some stop) => (.ok (some position), state.accept ⟨position, stop⟩)
    | .ok none => (.ok none, { state with registers := state.registers.cleared })

/-- The state before the first search, apart from the use of hints. -/
def reset (state : MatchState) : MatchState :=
  { state with
    registers := { state.registers.cleared with searchStart := 0, previousEnd := 0 }
    origin := 0 }

/-- The positions of a group that took part in the last match. -/
def span? (state : MatchState) (group : Nat) : Option Span := state.registers.capture? group

/-- The text of a group that took part in the last match. -/
def group? (state : MatchState) (subject : Subject) (group : Nat) : Option String :=
  (state.span? group).map fun span => subject.substring span.start span.stop

def spans (state : MatchState) : List (Option Span) :=
  (List.range state.registers.captures.size).map state.span?

/-- The greatest number of a group that took part in the last match. -/
def highestGroup (state : MatchState) : Nat := state.registers.highestGroup

end MatchState

def Regexp.isMatch (regexp : Regexp) (subject : Subject) :
    Except Overflow (Except MatchError Bool) :=
  (MatchState.find regexp subject (.initial regexp)).map Prod.fst

end Backtracking
