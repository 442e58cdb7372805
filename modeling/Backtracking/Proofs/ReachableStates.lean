import Backtracking.Proofs.FirstOutcome

/-!
# Reachable match states

The states that a match state goes through, by any operations in any order, those that exceed a
limit among them.  An operation that overflows leaves no state.  In all reachable states the
registers have a place for each group and each loop.
-/

namespace Backtracking

namespace MatchState

open Running

variable {regexp : Regexp} {subject : Subject} {state after : MatchState}

/-! ## What an operation comes to -/

/-- What a search does at one position. -/
theorem run_scan_succ (usesHints : Bool) (room position : Nat) (before : Execution) :
    (scan regexp subject usesHints (room + 1) position).run.run before =
      match if usesHints then regexp.hints.candidate subject position else .ok .yes with
      | .error overflow => (.ok (.error overflow), before)
      | .ok .never => (.ok (.ok none), before)
      | .ok .no =>
          if regexp.flags.anchored then (.ok (.ok none), before)
          else (scan regexp subject usesHints room (position + 1)).run.run before
      | .ok .yes =>
          match ((trial regexp subject).attempt position).run.run before with
          | (.error error, after) => (.error error, after)
          | (.ok (some stop), after) => (.ok (.ok (some ⟨position, stop⟩)), after)
          | (.ok none, after) =>
              if regexp.flags.anchored then (.ok (.ok none), after)
              else (scan regexp subject usesHints room (position + 1)).run.run after := by
  rw [scan]
  generalize (if usesHints then regexp.hints.candidate subject position else .ok .yes) = candidate
  rcases candidate with overflow | _ | _ | _ <;> dsimp only
  · rfl
  · rw [run_bind]
    rcases ((trial regexp subject).attempt position).run.run before with ⟨_ | _ | stop, after⟩
    · rfl
    · dsimp only
      split <;> rfl
    · rfl
  · split <;> rfl
  · rfl

/-- The runs of a scan, by what happens at the first of the positions that may be tried.

* `done`: there is none.
* `overflows`, `never`: the scan ends with what the hints say.
* `refusedOnly`, `failsOnly`: no match begins at the position, which is the only one that is tried.
* `refused`, `fails`: no match begins at the position, and the others are tried.
* `exceeds`, `finds`: the scan ends with the attempt at the position. -/
inductive Scans (regexp : Regexp) (subject : Subject) (usesHints : Bool) :
    (room position : Nat) → Execution → Except MatchError (Except Overflow (Option Span)) →
      Execution → Prop where
  | done {position : Nat} {before : Execution} :
      Scans regexp subject usesHints 0 position before (.ok (.ok none)) before
  | overflows {room position : Nat} {before : Execution} {overflow : Overflow}
      (hinted : usesHints = true)
      (said : regexp.hints.candidate subject position = .error overflow) :
      Scans regexp subject usesHints (room + 1) position before (.ok (.error overflow)) before
  | never {room position : Nat} {before : Execution} (hinted : usesHints = true)
      (said : regexp.hints.candidate subject position = .ok .never) :
      Scans regexp subject usesHints (room + 1) position before (.ok (.ok none)) before
  | refusedOnly {room position : Nat} {before : Execution} (hinted : usesHints = true)
      (said : regexp.hints.candidate subject position = .ok .no)
      (anchored : regexp.flags.anchored = true) :
      Scans regexp subject usesHints (room + 1) position before (.ok (.ok none)) before
  | refused {room position : Nat} {before after : Execution}
      {result : Except MatchError (Except Overflow (Option Span))} (hinted : usesHints = true)
      (said : regexp.hints.candidate subject position = .ok .no)
      (unanchored : ¬ regexp.flags.anchored = true)
      (others : Scans regexp subject usesHints room (position + 1) before result after) :
      Scans regexp subject usesHints (room + 1) position before result after
  | exceeds {room position : Nat} {before after : Execution} {error : MatchError}
      (allowed : usesHints = true → regexp.hints.candidate subject position = .ok .yes)
      (attempted : ((trial regexp subject).attempt position).run.run before =
        (.error error, after)) :
      Scans regexp subject usesHints (room + 1) position before (.error error) after
  | failsOnly {room position : Nat} {before after : Execution}
      (allowed : usesHints = true → regexp.hints.candidate subject position = .ok .yes)
      (attempted : ((trial regexp subject).attempt position).run.run before = (.ok none, after))
      (anchored : regexp.flags.anchored = true) :
      Scans regexp subject usesHints (room + 1) position before (.ok (.ok none)) after
  | fails {room position : Nat} {before middle after : Execution}
      {result : Except MatchError (Except Overflow (Option Span))}
      (allowed : usesHints = true → regexp.hints.candidate subject position = .ok .yes)
      (attempted : ((trial regexp subject).attempt position).run.run before = (.ok none, middle))
      (unanchored : ¬ regexp.flags.anchored = true)
      (others : Scans regexp subject usesHints room (position + 1) middle result after) :
      Scans regexp subject usesHints (room + 1) position before result after
  | finds {room position stop : Nat} {before after : Execution}
      (allowed : usesHints = true → regexp.hints.candidate subject position = .ok .yes)
      (attempted : ((trial regexp subject).attempt position).run.run before =
        (.ok (some stop), after)) :
      Scans regexp subject usesHints (room + 1) position before
        (.ok (.ok (some ⟨position, stop⟩))) after

/-- Every run of a scan is one of these, by one split of what it does at its first position. -/
theorem scans_of_run {usesHints : Bool} {room position : Nat} {before after : Execution}
    {result : Except MatchError (Except Overflow (Option Span))}
    (runs : (scan regexp subject usesHints room position).run.run before = (result, after)) :
    Scans regexp subject usesHints room position before result after := by
  induction room generalizing position before with
  | zero =>
      cases runs
      exact .done
  | succ room ih =>
      rw [run_scan_succ] at runs
      have asked {candidate : Except Overflow Candidate} (other : candidate ≠ .ok .yes)
          (said : (if usesHints then regexp.hints.candidate subject position else .ok .yes) =
            candidate) :
          usesHints = true ∧ regexp.hints.candidate subject position = candidate := by
        split at said
        · next hinted => exact ⟨hinted, said⟩
        · exact absurd said.symm other
      split at runs
      · next said =>
          obtain ⟨hinted, said⟩ := asked (by simp) said
          cases runs
          exact .overflows hinted said
      · next said =>
          obtain ⟨hinted, said⟩ := asked (by simp) said
          cases runs
          exact .never hinted said
      · next said =>
          obtain ⟨hinted, said⟩ := asked (by simp) said
          split at runs
          · next anchored =>
              cases runs
              exact .refusedOnly hinted said anchored
          · next unanchored => exact .refused hinted said unanchored (ih runs)
      · next said =>
          have allowed (hinted : usesHints = true) :
              regexp.hints.candidate subject position = .ok .yes := by
            rwa [if_pos hinted] at said
          rcases attempted : ((trial regexp subject).attempt position).run.run before with
            ⟨error | _ | stop, middle⟩ <;> simp only [attempted] at runs
          · cases runs
            exact .exceeds allowed attempted
          · split at runs
            · next anchored =>
                cases runs
                exact .failsOnly allowed attempted anchored
            · next unanchored => exact .fails allowed attempted unanchored (ih runs)
          · cases runs
            exact .finds allowed attempted

theorem Scans.run_eq {usesHints : Bool} {room position : Nat} {before after : Execution}
    {result : Except MatchError (Except Overflow (Option Span))}
    (scans : Scans regexp subject usesHints room position before result after) :
    (scan regexp subject usesHints room position).run.run before = (result, after) := by
  have asked {position : Nat}
      (allowed : usesHints = true → regexp.hints.candidate subject position = .ok .yes) :
      (if usesHints then regexp.hints.candidate subject position else .ok .yes) = .ok .yes := by
    split
    · next hinted => exact allowed hinted
    · rfl
  induction scans with
  | done => rfl
  | overflows hinted said | never hinted said => rw [run_scan_succ, if_pos hinted, said]
  | refusedOnly hinted said anchored =>
      rw [run_scan_succ, if_pos hinted, said]
      exact if_pos anchored
  | refused hinted said unanchored _ ih =>
      rw [run_scan_succ, if_pos hinted, said]
      exact (if_neg unanchored).trans ih
  | exceeds allowed attempted | finds allowed attempted =>
      simp only [run_scan_succ, asked allowed, attempted]
  | failsOnly allowed attempted anchored =>
      simp only [run_scan_succ, asked allowed, attempted, if_pos anchored]
  | fails allowed attempted unanchored _ ih =>
      simp only [run_scan_succ, asked allowed, attempted, if_neg unanchored, ih]

/-- A scan leaves registers that are alike to those before. -/
theorem Scans.alike {usesHints : Bool} {room position : Nat} {before after : Execution}
    {result : Except MatchError (Except Overflow (Option Span))}
    (scans : Scans regexp subject usesHints room position before result after) :
    after.registers.Alike before.registers := by
  induction scans with
  | done | overflows | never | refusedOnly => exact .refl _
  | refused _ _ _ _ ih => exact ih
  | exceeds _ attempted | finds _ attempted => exact Trial.attempt_alike _ attempted
  | failsOnly _ attempted _ => exact Trial.attempt_alike _ attempted
  | fails _ attempted _ _ ih => exact ih.trans (Trial.attempt_alike _ attempted)

/-- What a search for the next match makes of the end of its scan. -/
def concludeFind (subject : Subject) (state : MatchState) :
    Except MatchError (Except Overflow (Option Span)) × Execution →
      Except Overflow (Except MatchError Bool × MatchState)
  | (.error error, execution) =>
      .ok (.error error, { state with registers := execution.registers })
  | (.ok (.error overflow), _) => .error overflow
  | (.ok (.ok (some found)), execution) =>
      .ok (.ok true, accept { state with registers := execution.registers } found)
  | (.ok (.ok none), execution) =>
      .ok (.ok false,
        { state with registers := execution.registers.cleared, origin := subject.size + 1 })

/-- What is made of the end of an attempt at one position only. -/
def concludeExec (position : Nat) (state : MatchState) :
    Except MatchError (Option Nat) × Execution → Except MatchError (Option Nat) × MatchState
  | (.error error, execution) => (.error error, { state with registers := execution.registers })
  | (.ok (some stop), execution) =>
      (.ok (some position), accept { state with registers := execution.registers } ⟨position, stop⟩)
  | (.ok none, execution) => (.ok none, { state with registers := execution.registers.cleared })

theorem find_eq_conclude :
    find regexp subject state =
      concludeFind subject state ((scan regexp subject state.usesHints
        (subject.size + 1 - state.origin) state.origin).run.run ⟨state.registers, 0⟩) := by
  rw [find]
  rcases (scan regexp subject state.usesHints (subject.size + 1 - state.origin)
    state.origin).run.run ⟨state.registers, 0⟩ with ⟨_ | _ | _ | span, after⟩ <;> rfl

theorem exec_eq_conclude {position : Nat} (inside : position ≤ subject.size) :
    exec regexp subject position state =
      concludeExec position state
        (((trial regexp subject).attempt position).run.run ⟨state.registers, 0⟩) := by
  rw [exec, if_neg (Nat.not_lt_of_le inside)]
  rcases ((trial regexp subject).attempt position).run.run ⟨state.registers, 0⟩ with
    ⟨_ | _ | stop, after⟩ <;> rfl

/-- The ways in which a search for the next match returns: its scan exceeds a limit, or comes to the
end without a match, or finds one. -/
inductive FindReturns (regexp : Regexp) (subject : Subject) (state : MatchState) :
    Except MatchError Bool → MatchState → Prop where
  | exceeds {error : MatchError} {last : Execution}
      (runs : (scan regexp subject state.usesHints (subject.size + 1 - state.origin)
        state.origin).run.run ⟨state.registers, 0⟩ = (.error error, last)) :
      FindReturns regexp subject state (.error error) { state with registers := last.registers }
  | nothing {last : Execution}
      (runs : (scan regexp subject state.usesHints (subject.size + 1 - state.origin)
        state.origin).run.run ⟨state.registers, 0⟩ = (.ok (.ok none), last)) :
      FindReturns regexp subject state (.ok false)
        { state with registers := last.registers.cleared, origin := subject.size + 1 }
  | finds {span : Span} {last : Execution}
      (runs : (scan regexp subject state.usesHints (subject.size + 1 - state.origin)
        state.origin).run.run ⟨state.registers, 0⟩ = (.ok (.ok (some span)), last)) :
      FindReturns regexp subject state (.ok true)
        (accept { state with registers := last.registers } span)

theorem findReturns_of_find {result : Except MatchError Bool}
    (returns : find regexp subject state = .ok (result, after)) :
    FindReturns regexp subject state result after := by
  rw [find_eq_conclude] at returns
  rcases runs : (scan regexp subject state.usesHints (subject.size + 1 - state.origin)
    state.origin).run.run ⟨state.registers, 0⟩ with ⟨_ | _ | _ | span, last⟩ <;>
    rw [runs] at returns <;> cases returns
  · exact .exceeds runs
  · exact .nothing runs
  · exact .finds runs

/-- A search tries no position behind the end of the subject. -/
theorem room_reaches (subject : Subject) (origin : Nat) :
    subject.size + 1 - origin = 0 ∨ origin + (subject.size + 1 - origin) ≤ subject.size + 1 := by
  omega

/-! ## The states -/

/-- The states of a search for a regular expression in a subject. -/
inductive Reachable (regexp : Regexp) (subject : Subject) : MatchState → Prop where
  | initial : Reachable regexp subject (.initial regexp)
  | find {state after : MatchState} {result : Except MatchError Bool}
      (reachable : Reachable regexp subject state)
      (returns : find regexp subject state = .ok (result, after)) :
      Reachable regexp subject after
  | findFrom {state after : MatchState} {result : Except MatchError Bool} (position : Nat)
      (reachable : Reachable regexp subject state)
      (returns : findFrom regexp subject position state = .ok (result, after)) :
      Reachable regexp subject after
  | exec {state : MatchState} (position : Nat) (reachable : Reachable regexp subject state) :
      Reachable regexp subject (exec regexp subject position state).2
  | reset {state : MatchState} (reachable : Reachable regexp subject state) :
      Reachable regexp subject state.reset
  | useHints {state : MatchState} (yes : Bool) (reachable : Reachable regexp subject state) :
      Reachable regexp subject { state with usesHints := yes }

/-- The state in which a search from a given position begins. -/
def startingAt (position : Nat) (state : MatchState) : MatchState :=
  { state with
    registers := { state.registers with searchStart := position, previousEnd := position }
    origin := position }

theorem accept_sized (sized : state.registers.Sized regexp) (found : Span) :
    (state.accept found).registers.Sized regexp :=
  ⟨Array.size_setIfInBounds.trans sized.captures_size, sized.opened_size, sized.loops_size⟩

theorem startingAt_sized (sized : state.registers.Sized regexp) (position : Nat) :
    (state.startingAt position).registers.Sized regexp :=
  ⟨sized.captures_size, sized.opened_size, sized.loops_size⟩

theorem find_sized (sized : state.registers.Sized regexp) {result : Except MatchError Bool}
    (returns : find regexp subject state = .ok (result, after)) :
    after.registers.Sized regexp := by
  cases findReturns_of_find returns with
  | exceeds runs => exact sized.of_alike (scans_of_run runs).alike
  | nothing runs =>
      exact (sized.of_alike (scans_of_run runs).alike).of_alike (Registers.cleared_alike _)
  | finds runs => exact accept_sized (sized.of_alike (scans_of_run runs).alike) _

theorem exec_sized (sized : state.registers.Sized regexp) (position : Nat) :
    (exec regexp subject position state).2.registers.Sized regexp := by
  rw [exec]
  split
  · exact sized.of_alike (Registers.cleared_alike _)
  rcases runs : ((trial regexp subject).attempt position).run.run ⟨state.registers, 0⟩ with
    ⟨error | _ | stop, after⟩
  all_goals have attempted : after.registers.Sized regexp :=
    sized.of_alike (Trial.attempt_alike _ runs)
  · exact attempted
  · exact attempted.of_alike (Registers.cleared_alike _)
  · exact accept_sized attempted _

/-- The registers of every reachable state have a place for each group and each loop. -/
theorem Reachable.sized (reachable : Reachable regexp subject state) :
    state.registers.Sized regexp := by
  induction reachable with
  | initial => exact Registers.initial_sized regexp
  | find _ returns ih => exact find_sized ih returns
  | findFrom position _ returns ih => exact find_sized (startingAt_sized ih position) returns
  | exec position _ ih => exact exec_sized ih position
  | @reset state _ ih =>
      have cleared : state.registers.cleared.Sized regexp :=
        ih.of_alike (Registers.cleared_alike _)
      exact ⟨cleared.captures_size, cleared.opened_size, cleared.loops_size⟩
  | useHints yes _ ih => exact ih

end MatchState

end Backtracking
