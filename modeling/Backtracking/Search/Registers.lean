/-!
# Registers

What an attempt to match writes down: the text of each capture group, where groups were entered,
and how far each loop has come.  The registers also hold the two positions that a pattern can refer
to, which stay the same during an attempt.
-/

namespace Backtracking

/-- The positions between which a text lies. -/
structure Span where
  start : Nat
  stop : Nat
deriving DecidableEq

/-- The state of a loop: the number of its iterations and where the current one began. -/
structure LoopSlot where
  count : Nat := 0
  start : Option Nat := none
deriving DecidableEq, Inhabited

/-- The registers of a search.

* `captures`: the text of each group; group zero is the whole match.
* `opened`: where each group was last entered.
* `loops`: the state of each loop.
* `highestGroup`: the greatest number of a group that was captured.
* `searchStart`: where the search began.
* `previousEnd`: where the match before this one ended. -/
structure Registers where
  captures : Array (Option Span)
  opened : Array (Option Nat)
  loops : Array LoopSlot
  highestGroup : Nat := 0
  searchStart : Nat := 0
  previousEnd : Nat := 0
deriving DecidableEq

/-- How far the registers go back when what comes after a complete part of a match fails: the
captures only, or everything.  The captures suffice, for a loop and the entry of a group are written
down again before they are read. -/
inductive Rollback where
  | captures
  | everything
deriving DecidableEq

namespace Registers

/-- The registers of a search that has not begun, for `groups` groups with group zero. -/
def initial (groups loops : Nat) : Registers where
  captures := Array.replicate groups none
  opened := Array.replicate groups none
  loops := Array.replicate loops {}

/-- The registers before a new attempt. -/
def cleared (registers : Registers) : Registers :=
  { registers with
    captures := registers.captures.map fun _ => none
    opened := registers.opened.map fun _ => none
    loops := registers.loops.map fun _ => {}
    highestGroup := 0 }

def capture? (registers : Registers) (group : Nat) : Option Span :=
  (registers.captures.getD group none).filter fun span => span.start ≤ span.stop

/-- Where a group was last entered. -/
def opened? (registers : Registers) (group : Nat) : Option Nat :=
  registers.opened.getD group none

def loop (registers : Registers) (slot : Nat) : LoopSlot := registers.loops.getD slot {}

def setCapture (registers : Registers) (group : Nat) (span : Option Span) : Registers :=
  { registers with captures := registers.captures.setIfInBounds group span }

def setOpened (registers : Registers) (group : Nat) (position : Option Nat) : Registers :=
  { registers with opened := registers.opened.setIfInBounds group position }

def setLoop (registers : Registers) (slot : Nat) (state : LoopSlot) : Registers :=
  { registers with loops := registers.loops.setIfInBounds slot state }

/-- The registers in which a group, entered before, ends at a position. -/
def closeGroup (registers : Registers) (group stop : Nat) : Registers :=
  { registers.setCapture group ((registers.opened? group).map (⟨·, stop⟩)) with
    highestGroup := max registers.highestGroup group }

/-- The registers after going back to what they were before. -/
def rolledBack (rollback : Rollback) (before registers : Registers) : Registers :=
  match rollback with
  | .captures =>
      { registers with captures := before.captures, highestGroup := before.highestGroup }
  | .everything => before

end Registers

end Backtracking
