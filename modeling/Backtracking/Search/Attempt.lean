import Backtracking.Error
import Backtracking.Limits
import Backtracking.Program.Basic
import Backtracking.Search.Conditions
import Backtracking.Search.Registers

/-!
# Attempts

An attempt executes a program at one position of the subject.  Where a node can be left in several
ways it tries them in order, and before it takes the next way the registers are what they were:
whoever changes a register changes it back when what follows fails.

Nodes that can be left in one way only, and change nothing, are passed one after another.  All
others execute what follows as an attempt of their own, one level deeper.  The depth that is left
bounds these levels, and the number of the node bounds the nodes passed on one level, for a node is
followed by nodes of lesser numbers there.
-/

namespace Backtracking

/-- What an attempt changes: the registers, and the number of nodes visited by the search. -/
structure Execution where
  registers : Registers
  steps : Nat := 0

/-- A piece of an attempt.  What it has changed is kept when a limit is exceeded. -/
abbrev Running := ExceptT MatchError (StateM Execution)

/-- The execution of a program from a node at a position, which gives the position where the match
is complete, if there is a match. -/
abbrev Continuation := NodeId → Nat → Running (Option Nat)

namespace Running

def registers : Running Registers := return (← get).registers

def change (update : Registers → Registers) : Running Unit :=
  modify fun execution => { execution with registers := update execution.registers }

/-- Executes an attempt, and changes the registers back if it fails. -/
def undoing (update : Registers → Registers) (attempt : Running (Option Nat)) :
    Running (Option Nat) := do
  let result ← attempt
  if result.isNone then
    change update
  return result

end Running

/-- A program with the subject that it is executed on, the limits of the search, and how far the
registers go back. -/
structure Trial where
  program : Program
  subject : Subject
  limits : Limits
  rollback : Rollback := .captures

namespace Trial

open Running

def scene (trial : Trial) (registers : Registers) : Scene :=
  ⟨trial.subject, registers.searchStart, registers.previousEnd⟩

def goBack (trial : Trial) (before : Registers) : Registers → Registers :=
  Registers.rolledBack trial.rollback before

/-! ## Nodes that are left in several ways

Each of these is given the continuations one and two levels deeper. -/

def visit (trial : Trial) : Running Unit := do
  modify fun execution => { execution with steps := execution.steps + 1 }
  match trial.limits.maxSteps with
  | none => return ()
  | some limit =>
      if (← get).steps > limit then
        throw (.stepLimitExceeded limit)

def enterGroup (deeper : Continuation) (group : Nat) (next : NodeId) (position : Nat) :
    Running (Option Nat) := do
  let before := (← registers).opened? group
  change (·.setOpened group (some position))
  undoing (·.setOpened group before) (deeper next position)

/-- Leaves a group, and captures its text. -/
def leaveGroup (deeper : Continuation) (group : Nat) (next : NodeId) (position : Nat) :
    Running (Option Nat) := do
  let before := (← registers).captures.getD group none
  let highestBefore := (← registers).highestGroup
  change (·.closeGroup group position)
  undoing (fun registers => { registers.setCapture group before with highestGroup := highestBefore })
    (deeper next position)

/-- Tries all alternatives but the last, and gives that one back if none of them leads to a
match. -/
def tryAlternatives (deeper : Continuation) (position : Nat) :
    List NodeId → Running (Option Nat × Option NodeId)
  | [] => return (none, none)
  | [last] => return (none, some last)
  | alternative :: alternatives => do
      match ← deeper alternative position with
      | some stop => return (some stop, none)
      | none => tryAlternatives deeper position alternatives

/-- Runs the body of a loop once more. -/
def iterate (twoDeeper : Continuation) (slot : Nat) (body : NodeId) (position : Nat) :
    Running (Option Nat) := do
  let before := ((← registers).loop slot).start
  change fun registers =>
    registers.setLoop slot { registers.loop slot with start := some position }
  undoing (fun registers => registers.setLoop slot { registers.loop slot with start := before })
    (twoDeeper body position)

/-- Goes on with a loop after its head or after an iteration.  An iteration is forced as long as
the least number is not reached.  From then on none is begun where the last one took nothing, for
the next would do the same. -/
def loopStep (trial : Trial) (deeper twoDeeper : Continuation) (head : NodeId) (position : Nat) :
    Running (Option Nat) := do
  match trial.program.node head with
  | .loopHead slot least most greedy body next =>
      let state := (← registers).loop slot
      if state.count < least then
        iterate twoDeeper slot body position
      else if !(most.all (state.count < ·) && state.start != some position) then
        deeper next position
      else if greedy then
        match ← iterate twoDeeper slot body position with
        | some stop => return some stop
        | none => deeper next position
      else
        match ← deeper next position with
        | some stop => return some stop
        | none => iterate twoDeeper slot body position
  | _ => return none

def enterLoop (trial : Trial) (deeper twoDeeper : Continuation) (head : NodeId) (slot : Nat)
    (position : Nat) : Running (Option Nat) := do
  let before := (← registers).loop slot
  change (·.setLoop slot {})
  undoing (·.setLoop slot before) (trial.loopStep deeper twoDeeper head position)

def endIteration (trial : Trial) (deeper twoDeeper : Continuation) (head : NodeId)
    (position : Nat) : Running (Option Nat) := do
  match trial.program.node head with
  | .loopHead slot _ _ _ _ _ =>
      let before := ((← registers).loop slot).count
      change fun registers =>
        registers.setLoop slot { registers.loop slot with count := before + 1 }
      undoing (fun registers => registers.setLoop slot { registers.loop slot with count := before })
        (trial.loopStep deeper twoDeeper head position)
  | _ => return none

/-- Tries what follows a run of `count` characters, and with fewer of them as long as there are
more than `least`. -/
def giveBack (deeper : Continuation) (next : NodeId) (position least : Nat) :
    (count : Nat) → Running (Option Nat)
  | 0 => return none
  | count + 1 => do
      if count + 1 > least then
        match ← deeper next (position + (count + 1)) with
        | some stop => return some stop
        | none => giveBack deeper next position least count
      else
        return none

/-- Tries what follows a run of `count` characters, and with more of them as long as there is
room. -/
def takeMore (trial : Trial) (deeper : Continuation) (matcher : CharMatcher) (next : NodeId)
    (position : Nat) : (room count : Nat) → Running (Option Nat)
  | room, count => do
      match ← deeper next (position + count) with
      | some stop => return some stop
      | none =>
          match room with
          | 0 => return none
          | room + 1 =>
              if trial.subject.acceptsAt matcher (position + count) then
                takeMore trial deeper matcher next position room (count + 1)
              else
                return none

/-- Runs the body of a possessive loop as often as possible, and gives the number of iterations and
where the last one ended.  An iteration that takes nothing could be repeated at will, so that the
least number is reached with it.  `fuel` exceeds the number of characters that are left. -/
def iteratePossessively (deeper : Continuation) (body : NodeId) (least : Nat)
    (most : Option Nat) : (fuel count position : Nat) → Running (Nat × Nat)
  | 0, count, position => return (count, position)
  | fuel + 1, count, position => do
      if most.all (count < ·) then
        match ← deeper body position with
        | none => return (count, position)
        | some stop =>
            if stop = position then return (max count least, position)
            else iteratePossessively deeper body least most fuel (count + 1) stop
      else
        return (count, position)

def repeatPossessively (trial : Trial) (deeper : Continuation) (body : NodeId) (least : Nat)
    (most : Option Nat) (next : NodeId) (position : Nat) : Running (Option Nat) := do
  let before ← registers
  let (count, stop) ←
    iteratePossessively deeper body least most (trial.subject.size - position + 1) 0 position
  if count < least then
    change (trial.goBack before)
    return none
  else
    undoing (trial.goBack before) (deeper next stop)

/-- A part that is tried on its own. -/
def runAtomic (trial : Trial) (deeper : Continuation) (body next : NodeId) (position : Nat) :
    Running (Option Nat) := do
  let before ← registers
  match ← deeper body position with
  | none => return none
  | some stop => undoing (trial.goBack before) (deeper next stop)

/-- Whether one of the branches before a position ends there. -/
def matchesBehind (trial : Trial) (deeper : Continuation) (before : Registers) (position : Nat) :
    List (Nat × NodeId) → Running Bool
  | [] => return false
  | (width, body) :: branches => do
      if width ≤ position then
        match ← deeper body (position - width) with
        | some stop =>
            if stop = position then
              return true
            else
              change (trial.goBack before)
              matchesBehind trial deeper before position branches
        | none => matchesBehind trial deeper before position branches
      else
        matchesBehind trial deeper before position branches

/-- Goes on after a lookaround, as it depends on whether its body has matched.  Only a lookaround
that asks for a match keeps the captures of its body. -/
def afterLookAround (trial : Trial) (deeper again : Continuation) (before : Registers)
    (matched negated : Bool) (next : NodeId) (position : Nat) : Running (Option Nat) := do
  match matched, negated with
  | true, false => undoing (trial.goBack before) (deeper next position)
  | false, true => again next position
  | false, false => return none
  | true, true =>
      change (trial.goBack before)
      return none

/-! ## Execution -/

/-- Does what a node says.  `again` goes on at the same level. -/
def pass (trial : Trial) (deeper twoDeeper again : Continuation) (id : NodeId) (position : Nat) :
    Node → Running (Option Nat)
  | .done => return some position
  | .char matcher next =>
      if trial.subject.acceptsAt matcher position then
        again next (position + 1)
      else
        return none
  | .literal text ignoresCase next =>
      if trial.subject.textAt ignoresCase text position then
        again next (position + text.length)
      else
        return none
  | .assert assertion next => do
      if (trial.scene (← registers)).holds assertion position then
        again next position
      else
        return none
  | .groupStart group next => enterGroup deeper group next position
  | .groupEnd group next => leaveGroup deeper group next position
  | .backReference group ignoresCase next => do
      match (← registers).capture? group with
      | none => return none
      | some span =>
          let text := trial.subject.slice span.start span.stop
          if trial.subject.textAt ignoresCase text position then
            again next (position + (span.stop - span.start))
          else
            return none
  | .alternation alternatives => do
      match ← tryAlternatives deeper position alternatives with
      | (some stop, _) => return some stop
      | (none, some last) => again last position
      | (none, none) => return none
  | .loopHead slot _ _ _ _ _ => trial.enterLoop deeper twoDeeper id slot position
  | .loopTail head => trial.endIteration deeper twoDeeper head position
  | .charRepeat matcher least most mode next => do
      let available := trial.subject.size - position
      let room := (most.map (min available ·)).getD available
      if mode = .lazy then
        if least ≤ room && trial.subject.countAccepted matcher position least 0 = least then
          trial.takeMore deeper matcher next position (room - least) least
        else
          return none
      else
        let count := trial.subject.countAccepted matcher position room 0
        if count < least then
          return none
        else if mode = .greedy then
          match ← giveBack deeper next position least count with
          | some stop => return some stop
          | none => again next (position + least)
        else
          again next (position + count)
  | .possessive body least most next =>
      trial.repeatPossessively deeper body least most next position
  | .atomic body next => trial.runAtomic deeper body next position
  | .lookAhead body negated next => do
      let before ← registers
      let matched := (← deeper body position).isSome
      trial.afterLookAround deeper again before matched negated next position
  | .lookBehind branches negated next => do
      let before ← registers
      let matched ← trial.matchesBehind deeper before position branches
      trial.afterLookAround deeper again before matched negated next position
  | .conditional group yes no => do
      let captured := ((← registers).capture? group).isSome
      again (if captured then yes else no) position

/-- Executes the program from a node on, as long as the nodes can be left in one way only.  `fuel`
exceeds the number of the node. -/
def walk (trial : Trial) (deeper twoDeeper : Continuation) : (fuel : Nat) → Continuation
  | 0, _, _ => return none
  | fuel + 1, id, position => do
      trial.visit
      trial.pass deeper twoDeeper (walk trial deeper twoDeeper fuel) id position
        (trial.program.node id)

/-- The continuation at a level that lies too deep. -/
def refuse (trial : Trial) : Continuation :=
  fun _ _ => throw (.depthLimitExceeded trial.limits.maxDepth)

/-- Executes the program from a node on, with `levels` levels left. -/
def run (trial : Trial) : (levels : Nat) → Continuation
  | 0 => trial.refuse
  | 1 => trial.walk trial.refuse trial.refuse trial.program.size
  | levels + 2 => trial.walk (run trial (levels + 1)) (run trial levels) trial.program.size

/-- Tries to match the whole program at a position. -/
def attempt (trial : Trial) (position : Nat) : Running (Option Nat) := do
  change Registers.cleared
  trial.run (trial.limits.maxDepth + 1) trial.program.start position

end Trial

end Backtracking
