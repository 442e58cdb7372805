import Backtracking.Proofs.Accesses
import Backtracking.Proofs.StateInvariant

/-!
# Watched searches

Whole searches are watched as attempts are, and also where they ask the hints.  A search for a
compiled pattern makes no access that is out of range: nobody notices those who watch it if they
object to nothing else.
-/

namespace Backtracking

/-- Those who watch a search: one at each position at which the hints are asked, and one at each
visit of a node. -/
structure Watch where
  asked : Nat → Running Unit
  visited : Watcher

/-- Tells the first of them that the hints are asked at a position, if they are. -/
def Watch.ask (watch : Watch) (usesHints : Bool) (position : Nat) : Running Unit :=
  if usesHints then watch.asked position else pure ()

/-- Nothing is done where all accesses are valid. -/
structure Watch.Allows (watch : Watch) (regexp : Regexp) (subject : Subject) : Prop where
  asked : ∀ position execution,
    (∀ access ∈ regexp.hints.accesses subject position,
      access.Valid regexp.program subject execution.registers) →
    (watch.asked position).run.run execution = (.ok (), execution)
  visited : watch.visited.Lets fun id position registers =>
    ∀ access ∈ (MatchState.trial regexp subject).accesses id position registers,
      access.Valid regexp.program subject registers

/-- Gives the attempt up unless some accesses are valid. -/
def Access.demand (program : Program) (subject : Subject) (accesses : Registers → List Access) :
    Running Unit := do
  let registers ← Running.registers
  if ∀ access ∈ accesses registers, access.Valid program subject registers then return ()
  else throw (.stepLimitExceeded 0)

/-- Those who give up a search before it makes an access that is not valid. -/
def Watch.strict (regexp : Regexp) (subject : Subject) : Watch where
  asked position :=
    Access.demand regexp.program subject fun _ => regexp.hints.accesses subject position
  visited id position :=
    Access.demand regexp.program subject ((MatchState.trial regexp subject).accesses id position)

theorem Access.run_demand {program : Program} {subject : Subject}
    {accesses : Registers → List Access} {execution : Execution}
    (valid : ∀ access ∈ accesses execution.registers,
      access.Valid program subject execution.registers) :
    (demand program subject accesses).run.run execution = (.ok (), execution) := by
  show (if ∀ access ∈ accesses execution.registers,
      access.Valid program subject execution.registers then pure ()
    else throw (.stepLimitExceeded 0) : Running Unit).run.run execution = _
  rw [if_pos valid]
  rfl

theorem Watch.strict_allows (regexp : Regexp) (subject : Subject) :
    (strict regexp subject).Allows regexp subject :=
  ⟨fun _ _ valid => Access.run_demand valid, fun _ _ _ valid => Access.run_demand valid⟩

/-- Executions that come to the same end, whatever follows: they agree on the captures and the
number of steps, and every attempt clears what else they may differ in. -/
structure Execution.Level (first second : Execution) : Prop where
  alike : first.registers.Alike second.registers
  captured_eq : first.registers.captured = second.registers.captured
  steps_eq : first.steps = second.steps

theorem Execution.Level.refl (execution : Execution) : execution.Level execution :=
  ⟨.refl _, rfl, rfl⟩

namespace MatchState

open Running

/-- The first match from a position on, in a search that is watched. -/
def watchedScan (watch : Watch) (regexp : Regexp) (subject : Subject) (usesHints : Bool) :
    (room position : Nat) → Running (Except Overflow (Option Span))
  | 0, _ => return .ok none
  | room + 1, position => do
      watch.ask usesHints position
      match if usesHints then regexp.hints.candidate subject position else .ok .yes with
      | .error overflow => return .error overflow
      | .ok .never => return .ok none
      | .ok .no =>
          if regexp.flags.anchored then return .ok none
          else watchedScan watch regexp subject usesHints room (position + 1)
      | .ok .yes =>
          match ← (trial regexp subject).watchedAttempt watch.visited position with
          | some stop => return .ok (some ⟨position, stop⟩)
          | none =>
              if regexp.flags.anchored then return .ok none
              else watchedScan watch regexp subject usesHints room (position + 1)

def watchedFind (watch : Watch) (regexp : Regexp) (subject : Subject) (state : MatchState) :
    Except Overflow (Except MatchError Bool × MatchState) :=
  let room := subject.size + 1 - state.origin
  concludeFind subject state
    ((watchedScan watch regexp subject state.usesHints room state.origin).run.run
      ⟨state.registers, 0⟩)

def watchedFindFrom (watch : Watch) (regexp : Regexp) (subject : Subject) (position : Nat)
    (state : MatchState) : Except Overflow (Except MatchError Bool × MatchState) :=
  watchedFind watch regexp subject (state.startingAt position)

def watchedExec (watch : Watch) (regexp : Regexp) (subject : Subject) (position : Nat)
    (state : MatchState) : Except MatchError (Option Nat) × MatchState :=
  if position > subject.size then
    (.ok none, { state with registers := state.registers.cleared })
  else
    concludeExec position state
      (((trial regexp subject).watchedAttempt watch.visited position).run.run ⟨state.registers, 0⟩)

variable {regexp : Regexp} {subject : Subject} {state : MatchState} {watch : Watch}
  {parsed : ParsedPattern}

theorem run_watchedScan_succ (allows : watch.Allows regexp subject) (usesHints : Bool)
    (room position : Nat) (before : Execution) :
    (watchedScan watch regexp subject usesHints (room + 1) position).run.run before =
      match if usesHints then regexp.hints.candidate subject position else .ok .yes with
      | .error overflow => (.ok (.error overflow), before)
      | .ok .never => (.ok (.ok none), before)
      | .ok .no =>
          if regexp.flags.anchored then (.ok (.ok none), before)
          else (watchedScan watch regexp subject usesHints room (position + 1)).run.run before
      | .ok .yes =>
          match ((trial regexp subject).watchedAttempt watch.visited position).run.run before with
          | (.error error, after) => (.error error, after)
          | (.ok (some stop), after) => (.ok (.ok (some ⟨position, stop⟩)), after)
          | (.ok none, after) =>
              if regexp.flags.anchored then (.ok (.ok none), after)
              else (watchedScan watch regexp subject usesHints room (position + 1)).run.run
                after := by
  have unnoticed : (watch.ask usesHints position).run.run before = (.ok (), before) := by
    rw [Watch.ask]
    split
    · exact allows.asked position before fun _ => regexp.hints.accesses_valid
    · rfl
  rw [watchedScan, run_bind, unnoticed]
  generalize (if usesHints then regexp.hints.candidate subject position else .ok .yes) = candidate
  rcases candidate with overflow | _ | _ | _ <;> dsimp only
  · rfl
  · rw [run_bind]
    rcases ((trial regexp subject).watchedAttempt watch.visited position).run.run before with
      ⟨_ | _ | stop, after⟩
    · rfl
    · dsimp only
      split <;> rfl
    · rfl
  · split <;> rfl
  · rfl

theorem watchedAttempt_of_alike (trial : Trial) (watcher : Watcher) (position steps : Nat)
    {first second : Registers} (alike : first.Alike second) :
    (trial.watchedAttempt watcher position).run.run ⟨first, steps⟩ =
      (trial.watchedAttempt watcher position).run.run ⟨second, steps⟩ := by
  rw [Trial.watchedAttempt, run_bind, run_bind, run_change, run_change, alike.cleared_eq]

/-- An attempt comes to the same end under the eyes of those who let pass what is true of all its
visits, from executions on a level. -/
theorem attempt_level (compiled : regexp.CompiledFrom parsed) {watcher : Watcher} {position : Nat}
    (inside : position ≤ subject.size) {watched plain : Execution} (level : watched.Level plain)
    (sized : plain.registers.Sized regexp)
    (lets : watcher.Lets ((trial regexp subject).Visited plain.registers)) :
    ∃ result watchedAfter after,
      ((trial regexp subject).watchedAttempt watcher position).run.run watched =
        (result, watchedAfter) ∧
      ((trial regexp subject).attempt position).run.run plain = (result, after) ∧
      watchedAfter.Level after := by
  obtain ⟨result, taken, after, watches, runs, alike, captured_eq, -⟩ :=
    Trial.attempt_shared compiled rfl inside sized lets
  obtain ⟨registers, steps⟩ := watched
  obtain rfl : steps = plain.steps := level.steps_eq
  rw [← watchedAttempt_of_alike _ _ _ _ level.alike] at watches
  exact ⟨result, _, _, watches, runs, (alike true).trans (alike false).symm, captured_eq, rfl⟩

theorem watchedAttempt_level (compiled : regexp.CompiledFrom parsed)
    (allows : watch.Allows regexp subject) {position : Nat} (inside : position ≤ subject.size)
    {watched plain : Execution} (level : watched.Level plain)
    (sized : plain.registers.Sized regexp) :
    ∃ result watchedAfter after,
      ((trial regexp subject).watchedAttempt watch.visited position).run.run watched =
        (result, watchedAfter) ∧
      ((trial regexp subject).attempt position).run.run plain = (result, after) ∧
      watchedAfter.Level after := by
  have wellFormed : regexp.program.WellFormed parsed.groupCount :=
    Program.ofPattern_wellFormed compiled.numbered compiled.made
  refine attempt_level compiled inside level sized ?_
  refine allows.visited.weaken fun id position registers visited => ?_
  exact visited.accesses_valid wellFormed (sized.captures_size.trans compiled.groupCount_eq)
    (sized.opened_size.trans compiled.groupCount_eq) sized.loops_size

/-- A scan that is watched comes to the same end as one that is not. -/
theorem watchedScan_level (compiled : regexp.CompiledFrom parsed)
    (allows : watch.Allows regexp subject) {usesHints : Bool} {room position : Nat}
    (reaches : room = 0 ∨ position + room ≤ subject.size + 1) {watched plain : Execution}
    (level : watched.Level plain) (sized : plain.registers.Sized regexp) :
    ∃ result watchedAfter after,
      (watchedScan watch regexp subject usesHints room position).run.run watched =
        (result, watchedAfter) ∧
      (scan regexp subject usesHints room position).run.run plain = (result, after) ∧
      watchedAfter.Level after := by
  induction room generalizing position watched plain with
  | zero => exact ⟨_, _, _, rfl, rfl, level⟩
  | succ room ih =>
      have inside : position ≤ subject.size := by omega
      have next : room = 0 ∨ position + 1 + room ≤ subject.size + 1 := by omega
      rw [run_watchedScan_succ allows, run_scan_succ]
      generalize (if usesHints then regexp.hints.candidate subject position else .ok .yes) =
        candidate
      rcases candidate with overflow | _ | _ | _ <;> dsimp only
      · exact ⟨_, _, _, rfl, rfl, level⟩
      · obtain ⟨result, watchedAfter, after, watches, runs, level⟩ :=
          watchedAttempt_level compiled allows inside level sized
        rw [watches, runs]
        have attempted := sized.of_alike (Trial.attempt_alike _ runs)
        rcases result with error | _ | stop <;> dsimp only
        · exact ⟨_, _, _, rfl, rfl, level⟩
        · split
          · exact ⟨_, _, _, rfl, rfl, level⟩
          · exact ih next level attempted
        · exact ⟨_, _, _, rfl, rfl, level⟩
      · split
        · exact ⟨_, _, _, rfl, rfl, level⟩
        · exact ih next level sized
      · exact ⟨_, _, _, rfl, rfl, level⟩

/-- Results of an operation with the same answer, and states that no operation tells apart. -/
structure Agree {α : Type} (first second : Except MatchError α × MatchState) : Prop where
  answer_eq : first.1 = second.1
  alike : first.2.registers.Alike second.2.registers
  captured_eq : first.2.registers.captured = second.2.registers.captured
  origin_eq : first.2.origin = second.2.origin
  usesHints_eq : first.2.usesHints = second.2.usesHints

theorem Agree.refl {α : Type} (result : Except MatchError α × MatchState) : Agree result result :=
  ⟨rfl, .refl _, rfl, rfl, rfl⟩

/-- Searches of which both overflow at the same sum, or both return and agree. -/
inductive Concur {α : Type} : Except Overflow (Except MatchError α × MatchState) →
    Except Overflow (Except MatchError α × MatchState) → Prop where
  | overflows (overflow : Overflow) : Concur (.error overflow) (.error overflow)
  | returns {first second : Except MatchError α × MatchState} (agree : Agree first second) :
      Concur (.ok first) (.ok second)

theorem Concur.exists_eq_ok {α : Type}
    {first second : Except Overflow (Except MatchError α × MatchState)}
    (concur : Concur first second) {result : Except MatchError α} {after : MatchState}
    (returned : second = .ok (result, after)) : ∃ last, first = .ok (result, last) := by
  cases concur with
  | overflows => cases returned
  | @returns watched _ agree =>
      cases returned
      exact ⟨watched.2, congrArg Except.ok (Prod.ext agree.answer_eq rfl)⟩

section Conclusions

variable {watched plain : Execution} (level : watched.Level plain)
include level

/-- States behind a match agree if the executions were on a level. -/
theorem accept_agree {α : Type} (answer : Except MatchError α) (found : Span) :
    Agree (answer, accept { state with registers := watched.registers } found)
      (answer, accept { state with registers := plain.registers } found) where
  answer_eq := rfl
  alike := by
    have alike := level.alike
    exact ⟨by simpa [accept, Registers.setCapture] using alike.captures_size, alike.opened_size,
      alike.loops_size, alike.searchStart_eq, rfl⟩
  captured_eq := by
    rw [captured_accept, captured_accept, level.captured_eq]
  origin_eq := rfl
  usesHints_eq := rfl

theorem concludeFind_concur (result : Except MatchError (Except Overflow (Option Span))) :
    Concur (concludeFind subject state (result, watched))
      (concludeFind subject state (result, plain)) := by
  rcases result with error | overflow | _ | found
  · exact .returns ⟨rfl, level.alike, level.captured_eq, rfl, rfl⟩
  · exact .overflows overflow
  · rw [concludeFind, concludeFind, level.alike.cleared_eq]
    exact .returns (.refl _)
  · exact .returns (accept_agree level (.ok true) found)

theorem concludeExec_agree (position : Nat) (result : Except MatchError (Option Nat)) :
    Agree (concludeExec position state (result, watched))
      (concludeExec position state (result, plain)) := by
  rcases result with error | _ | stop
  · exact ⟨rfl, level.alike, level.captured_eq, rfl, rfl⟩
  · rw [concludeExec, concludeExec, level.alike.cleared_eq]
    exact .refl _
  · exact accept_agree level (.ok (some position)) ⟨position, stop⟩

end Conclusions

section Operations

variable (compiled : regexp.CompiledFrom parsed) (allows : watch.Allows regexp subject)
include compiled allows

theorem watchedFind_concur (sized : state.registers.Sized regexp) :
    Concur (watchedFind watch regexp subject state) (find regexp subject state) := by
  obtain ⟨result, watchedAfter, after, watches, runs, level⟩ :=
    watchedScan_level compiled allows (room_reaches subject state.origin)
      (.refl ⟨state.registers, 0⟩) sized
  rw [watchedFind, find_eq_conclude, watches, runs]
  exact concludeFind_concur level result

theorem watchedExec_agree (sized : state.registers.Sized regexp) (position : Nat) :
    Agree (watchedExec watch regexp subject position state)
      (exec regexp subject position state) := by
  by_cases inside : position ≤ subject.size
  · obtain ⟨result, watchedAfter, after, watches, runs, level⟩ :=
      watchedAttempt_level compiled allows inside (.refl ⟨state.registers, 0⟩) sized
    rw [watchedExec, if_neg (Nat.not_lt_of_le inside), exec_eq_conclude inside, watches, runs]
    exact concludeExec_agree level position result
  · rw [watchedExec, exec, if_pos (Nat.lt_of_not_le inside), if_pos (Nat.lt_of_not_le inside)]
    exact .refl _

end Operations

/-- The program of a compiled pattern is well-formed, and no operation leaves an array, in whatever
state and with whatever arguments and limits.  Those who watch the operation, and object to nothing
but an access that is out of range or an iteration that does not end at the head of a loop, do not
make a difference, whatever they would do then. -/
theorem operations_withinArrays {text : List Char} {flags : Flags} {regexp : Regexp}
    (compiles : Regexp.compile text flags = .ok regexp) (subject : Subject) (limits : Limits)
    {state : MatchState} (reachable : Reachable { regexp with limits := limits } subject state) :
    regexp.program.WellFormed (regexp.groupCount - 1) ∧
    (regexp.program.size ≤ Program.unset → regexp.program.start ≠ Program.unset ∧
      ∀ id node, regexp.program.Holds id node → Program.unset ∉ node.targets) ∧
    (Access.capture 0).Valid regexp.program subject state.registers ∧
    ∀ watch : Watch, watch.Allows { regexp with limits := limits } subject →
      Concur (watchedFind watch { regexp with limits := limits } subject state)
        (find { regexp with limits := limits } subject state) ∧
      ∀ position,
        Concur (watchedFindFrom watch { regexp with limits := limits } subject position state)
          (findFrom { regexp with limits := limits } subject position state) ∧
        Agree (watchedExec watch { regexp with limits := limits } subject position state)
          (exec { regexp with limits := limits } subject position state) := by
  obtain ⟨parsed, -, unlimited⟩ := Regexp.exists_compiledFrom compiles
  have wellFormed : regexp.program.WellFormed (regexp.groupCount - 1) := by
    rw [unlimited.groupCount_eq]
    exact Program.ofPattern_wellFormed unlimited.numbered unlimited.made
  have compiled := unlimited.limited limits
  have sized := reachable.sized
  have zeroth : 0 < state.registers.captures.size := by
    rw [sized.captures_size]
    exact Nat.succ_pos _
  refine ⟨wellFormed, wellFormed.unset_absent, zeroth, fun watch allows =>
    ⟨watchedFind_concur compiled allows sized, fun position =>
      ⟨watchedFind_concur compiled allows (startingAt_sized sized position),
        watchedExec_agree compiled allows sized position⟩⟩⟩

/-- A search for `(?:(a)|b)*\1` in `aba` finds a match under the eyes of those who would give it up
before an access that is not valid. -/
theorem strict_loop_withinArrays :
    ∃ regexp after, Regexp.compile
        ['(', '?', ':', '(', 'a', ')', '|', 'b', ')', '*', '\\', '1'] {} = .ok regexp ∧
      watchedFind (.strict { regexp with limits := {} } ⟨#['a', 'b', 'a']⟩)
        { regexp with limits := {} } ⟨#['a', 'b', 'a']⟩ (.initial regexp) =
          .ok (.ok true, after) := by
  have finds : (Regexp.compile
      ['(', '?', ':', '(', 'a', ')', '|', 'b', ')', '*', '\\', '1'] {}).toOption.any
      (fun regexp => (find { regexp with limits := {} } ⟨#['a', 'b', 'a']⟩
        (.initial regexp)).toOption.any (·.1.toOption == some true)) = true := by
    decide +kernel
  obtain ⟨regexp, after, compiles, found⟩ := exists_found_of_toOption_any finds
  obtain ⟨-, -, -, unnoticed⟩ :=
    operations_withinArrays compiles ⟨#['a', 'b', 'a']⟩ {} .initial
  have concur := (unnoticed (.strict _ _) (Watch.strict_allows _ _)).1
  obtain ⟨last, watches⟩ := concur.exists_eq_ok found
  exact ⟨regexp, last, compiles, watches⟩

end MatchState

end Backtracking
