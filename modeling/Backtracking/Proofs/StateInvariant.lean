import Backtracking.Proofs.EnsembleAttempts
import Backtracking.Proofs.SuccessiveSearches

/-!
# The invariant of match states

What is true of a match state after any operations in any order, those that exceed a limit in the
midst of an attempt among them.  The captures tell of a match only if the latest search found one,
and they are never half written: wherever an attempt leaves a group, it has entered it before.
-/

namespace Backtracking

/-- A group that is left at a position was entered there or before. -/
def Program.ClosesOpened (program : Program) (id : NodeId) (position : Nat)
    (registers : Registers) : Prop :=
  ∀ group next, program.node id = .groupEnd group next →
    ∃ start ≤ position, registers.opened? group = some start

theorem Trial.Visited.closesOpened {trial : Trial} {origin : Registers} {id : NodeId}
    {position : Nat} {registers : Registers}
    (visited : trial.Visited origin id position registers) :
    trial.program.ClosesOpened id position registers := by
  intro group next closes
  have expected := visited.expected
  rw [closes] at expected
  exact expected

namespace MatchState

open Running

/-- The answer of a search, as to whether there is a match. -/
def found : Except MatchError Bool → Bool
  | .ok answer => answer
  | .error _ => false

/-- The states of a search for a regular expression in a subject, and whether the latest operation
that searched found a match, which was not forgotten by a reset since. -/
inductive Reached (regexp : Regexp) (subject : Subject) : Bool → MatchState → Prop where
  | initial : Reached regexp subject false (.initial regexp)
  | find {matched : Bool} {state after : MatchState} {result : Except MatchError Bool}
      (reached : Reached regexp subject matched state)
      (returns : find regexp subject state = .ok (result, after)) :
      Reached regexp subject (found result) after
  | findFrom {matched : Bool} {state after : MatchState} {result : Except MatchError Bool}
      (position : Nat) (reached : Reached regexp subject matched state)
      (returns : findFrom regexp subject position state = .ok (result, after)) :
      Reached regexp subject (found result) after
  | exec {matched : Bool} {state : MatchState} (position : Nat)
      (reached : Reached regexp subject matched state) :
      Reached regexp subject (found ((exec regexp subject position state).1.map Option.isSome))
        (exec regexp subject position state).2
  | reset {matched : Bool} {state : MatchState} (reached : Reached regexp subject matched state) :
      Reached regexp subject false state.reset
  | useHints {matched : Bool} {state : MatchState} (yes : Bool)
      (reached : Reached regexp subject matched state) :
      Reached regexp subject matched { state with usesHints := yes }

/-- What is true of a match state in a subject.

* `bounds`: the text of a group that is captured lies within the subject.
* `le_highest` and `highest_written`: the greatest number of a captured group is known, and it is
  zero if there is none, where the whole match does not count.
* `zeroth`: the whole match is known if the latest search found one, and only then.
* `origin_le`: the next search begins no later than behind the subject. -/
structure Consistent (subject : Subject) (matched : Bool) (state : MatchState) : Prop where
  bounds : ∀ group span, state.registers.captured.written? group = some span →
    span.start ≤ span.stop ∧ span.stop ≤ subject.size
  le_highest : ∀ group, group ≠ 0 → state.registers.captured.written? group ≠ none →
    group ≤ state.highestGroup
  highest_written : state.highestGroup ≠ 0 →
    state.registers.captured.written? state.highestGroup ≠ none
  zeroth : (state.registers.captured.written? 0).isSome = matched
  origin_le : state.origin ≤ subject.size + 1

variable {regexp : Regexp} {subject : Subject} {state : MatchState} {matched : Bool}

/-- What is captured is what is written down, for no text ends before it starts. -/
theorem Consistent.span?_eq (consistent : Consistent subject matched state) (group : Nat) :
    state.span? group = state.registers.captured.written? group := by
  cases written : state.registers.captured.written? group with
  | none =>
      rw [span?, Registers.capture?_eq, Captured.span?, ← Captured.written?, written]
      rfl
  | some span =>
      have ordered := (consistent.bounds group span written).1
      rw [span?, Registers.capture?_eq, Captured.span?, ← Captured.written?, written]
      simp [ordered]

theorem Reached.reachable (reached : Reached regexp subject matched state) :
    Reachable regexp subject state := by
  induction reached with
  | initial => exact .initial
  | find _ returns ih => exact ih.find returns
  | findFrom position _ returns ih => exact ih.findFrom position returns
  | exec position _ ih => exact ih.exec position
  | reset _ ih => exact ih.reset
  | useHints yes _ ih => exact ih.useHints yes

/-! ## States behind an attempt -/

/-- A state whose captures are those of an attempt knows of no match. -/
theorem consistent_of_coherent (coherent : state.registers.captured.Coherent subject)
    (within : state.origin ≤ subject.size + 1) : Consistent subject false state where
  bounds _ _ := coherent.valid.written?
  le_highest group _ := coherent.le_highest group
  highest_written := coherent.highest_written
  zeroth := by
    rw [coherent.zeroth]
    rfl
  origin_le := within

theorem consistent_of_nothing {groups : Nat}
    (cleared : state.registers.captured = .nothing groups)
    (within : state.origin ≤ subject.size + 1) : Consistent subject false state := by
  refine consistent_of_coherent ?_ within
  rw [cleared]
  exact Captured.coherent_nothing subject groups

/-- The whole match is written down as a group of number zero, which does not count otherwise. -/
theorem captured_accept (state : MatchState) (span : Span) :
    (state.accept span).registers.captured = state.registers.captured.close 0 span := by
  simp [accept, Registers.captured, Registers.setCapture, Captured.close]

theorem consistent_accept (sized : state.registers.Sized regexp)
    (coherent : state.registers.captured.Coherent subject) {span : Span}
    (ordered : span.start ≤ span.stop) (inside : span.stop ≤ subject.size) :
    Consistent subject true (state.accept span) := by
  have zeroth : 0 < state.registers.captured.spans.size := by
    have size_eq : state.registers.captured.spans.size = regexp.groupCount := sized.captures_size
    rw [size_eq]
    exact Nat.succ_pos _
  have highest : (state.accept span).highestGroup = state.registers.captured.highest := rfl
  constructor
  · intro group other written
    rw [captured_accept] at written
    exact (coherent.valid.close ordered inside).written? written
  · intro group positive written
    rw [captured_accept, Captured.written?_close zeroth, if_neg positive] at written
    exact coherent.le_highest group written
  · intro positive
    rw [captured_accept, Captured.written?_close zeroth, if_neg positive]
    exact coherent.highest_written positive
  · rw [captured_accept, Captured.written?_close zeroth]
    rfl
  · simp only [accept]
    split <;> omega

theorem attempt_coherent {parsed : ParsedPattern} (compiled : regexp.CompiledFrom parsed)
    {position : Nat} (inside : position ≤ subject.size) {before after : Execution}
    (sized : before.registers.Sized regexp) {result : Except MatchError (Option Nat)}
    (runs : ((trial regexp subject).attempt position).run.run before = (result, after)) :
    after.registers.captured.Coherent subject := by
  have executes : (trial regexp subject).program = regexp.program := rfl
  obtain ⟨-, -, coherent⟩ :=
    Trial.attempt_unnoticed compiled executes inside sized (Watcher.silent_lets _)
  rw [runs] at coherent
  exact coherent

/-- A scan that finds a match or exceeds a limit leaves the captures of an attempt. -/
theorem Scans.coherent {parsed : ParsedPattern} (compiled : regexp.CompiledFrom parsed)
    {usesHints : Bool} {room position : Nat} {before after : Execution}
    {result : Except MatchError (Except Overflow (Option Span))}
    (scans : Scans regexp subject usesHints room position before result after)
    (reaches : room = 0 ∨ position + room ≤ subject.size + 1)
    (sized : before.registers.Sized regexp) (ended : result ≠ .ok (.ok none))
    (returned : ∀ overflow, result ≠ .ok (.error overflow)) :
    position ≤ subject.size ∧ after.registers.captured.Coherent subject ∧
      ∀ span, result = .ok (.ok (some span)) →
        span.start ≤ span.stop ∧ span.stop ≤ subject.size := by
  induction scans with
  | done | never | refusedOnly | failsOnly => exact absurd rfl ended
  | overflows => exact absurd rfl (returned _)
  | refused _ _ _ _ ih => exact ⟨by omega, (ih (by omega) sized ended returned).2⟩
  | exceeds _ attempted =>
      refine ⟨by omega, attempt_coherent compiled (by omega) sized attempted, ?_⟩
      intro span impossible
      cases impossible
  | fails _ attempted _ _ ih =>
      have kept := sized.of_alike (Trial.attempt_alike _ attempted)
      exact ⟨by omega, (ih (by omega) kept ended returned).2⟩
  | @finds room position stop before after _ attempted =>
      have inside : position ≤ subject.size := by omega
      refine ⟨inside, attempt_coherent compiled inside sized attempted, ?_⟩
      rintro _ ⟨⟩
      exact Trial.attempt_bounds compiled rfl inside sized attempted

/-! ## The operations -/

/-- A search for the next match that returns keeps a state consistent, from wherever it begins. -/
theorem find_consistent {parsed : ParsedPattern} (compiled : regexp.CompiledFrom parsed)
    (sized : state.registers.Sized regexp) {result : Except MatchError Bool} {after : MatchState}
    (returns : find regexp subject state = .ok (result, after)) :
    Consistent subject (found result) after := by
  have reaches := room_reaches subject state.origin
  cases findReturns_of_find returns with
  | exceeds runs =>
      obtain ⟨inside, coherent, -⟩ :=
        (scans_of_run runs).coherent compiled reaches sized (by simp) (by simp)
      exact consistent_of_coherent coherent (Nat.le_succ_of_le inside)
  | @nothing last runs =>
      exact consistent_of_nothing last.registers.captured_cleared (Nat.le_refl _)
  | @finds span last runs =>
      obtain ⟨-, coherent, bounds⟩ :=
        (scans_of_run runs).coherent compiled reaches sized (by simp) (by simp)
      obtain ⟨ordered, inside⟩ := bounds span rfl
      have scanned : last.registers.Sized regexp := sized.of_alike (scans_of_run runs).alike
      have accepted : Consistent subject true
          (MatchState.accept { state with registers := last.registers } span) :=
        consistent_accept scanned coherent ordered inside
      exact accepted

theorem exec_consistent {parsed : ParsedPattern} (compiled : regexp.CompiledFrom parsed)
    (sized : state.registers.Sized regexp) (within : state.origin ≤ subject.size + 1)
    (position : Nat) :
    Consistent subject (found ((exec regexp subject position state).1.map Option.isSome))
      (exec regexp subject position state).2 := by
  rw [exec]
  split
  · exact consistent_of_nothing state.registers.captured_cleared within
  next inside =>
  have inside : position ≤ subject.size := Nat.le_of_not_lt inside
  rcases runs : ((trial regexp subject).attempt position).run.run ⟨state.registers, 0⟩ with
    ⟨error | _ | stop, after⟩
  all_goals have coherent := attempt_coherent compiled inside sized runs
  · exact consistent_of_coherent coherent within
  · exact consistent_of_nothing after.registers.captured_cleared within
  · obtain ⟨ordered, reached⟩ := Trial.attempt_bounds compiled rfl inside sized runs
    have attempted : after.registers.Sized regexp := sized.of_alike (Trial.attempt_alike _ runs)
    have accepted : Consistent subject true
        (MatchState.accept { state with registers := after.registers } ⟨position, stop⟩) :=
      consistent_accept attempted coherent ordered reached
    exact accepted

theorem Reached.consistent {parsed : ParsedPattern} (compiled : regexp.CompiledFrom parsed)
    (reached : Reached regexp subject matched state) : Consistent subject matched state := by
  induction reached with
  | initial => exact consistent_of_nothing rfl (Nat.zero_le _)
  | find reached returns _ => exact find_consistent compiled reached.reachable.sized returns
  | findFrom position reached returns _ =>
      exact find_consistent compiled (startingAt_sized reached.reachable.sized position) returns
  | exec position reached ih =>
      exact exec_consistent compiled reached.reachable.sized ih.origin_le position
  | @reset _ state _ _ =>
      exact consistent_of_nothing state.registers.captured_cleared (Nat.zero_le _)
  | useHints yes _ ih =>
      exact ⟨ih.bounds, ih.le_highest, ih.highest_written, ih.zeroth, ih.origin_le⟩

/-- All states of a search for a compiled pattern are consistent, also those in which an operation
exceeded a limit, and what is seen of a group is what is written down.  And no capture is ever half
written: in an attempt from any of these states, a watcher who objects only to a group that is left
without having been entered before would never object. -/
theorem reached_consistent {text : List Char} {flags : Flags} {regexp : Regexp}
    (compiles : Regexp.compile text flags = .ok regexp) (subject : Subject) (limits : Limits)
    {matched : Bool} {state : MatchState}
    (reached : Reached { regexp with limits := limits } subject matched state) :
    Consistent subject matched state ∧
    (∀ group, state.span? group = state.registers.captured.written? group) ∧
    ∀ watcher : Watcher, watcher.Lets regexp.program.ClosesOpened →
      ∀ position ≤ subject.size, ∀ before : Execution, before.registers.Alike state.registers →
        let trial := trial { regexp with limits := limits } subject
        let watched := (trial.watchedAttempt watcher position).run.run before
        let plain := (trial.attempt position).run.run before
        watched.1 = plain.1 ∧
          watched.2.registers.captured = plain.2.registers.captured := by
  obtain ⟨parsed, -, unlimited⟩ := Regexp.exists_compiledFrom compiles
  have compiled := unlimited.limited limits
  have consistent := reached.consistent compiled
  refine ⟨consistent, consistent.span?_eq, fun watcher lets position inside before alike => ?_⟩
  let trial := trial { regexp with limits := limits } subject
  have letsVisits : watcher.Lets (trial.Visited before.registers) :=
    lets.weaken fun _ _ _ visited => visited.closesOpened
  have sized := reached.reachable.sized.of_alike alike
  have executes : trial.program = regexp.program := rfl
  obtain ⟨same, captured, -⟩ := Trial.attempt_unnoticed compiled executes inside sized letsVisits
  exact ⟨same, captured⟩

/-- A search for `(a)b` that exceeds a limit behind the group leaves its text, and no match. -/
theorem limited_search_consistent :
    ∃ regexp after, Regexp.compile ['(', 'a', ')', 'b'] {} = .ok regexp ∧
      find { regexp with limits := ⟨512, some 3⟩ } ⟨#['a', 'b']⟩ (.initial regexp) =
        .ok (.error (.stepLimitExceeded 3), after) ∧
      after.span? 1 = some ⟨0, 1⟩ ∧ Consistent ⟨#['a', 'b']⟩ false after := by
  let search (regexp : Regexp) :=
    find { regexp with limits := ⟨512, some 3⟩ } ⟨#['a', 'b']⟩ (.initial regexp)
  have exceeds : (Regexp.compile ['(', 'a', ')', 'b'] {}).toOption.any (fun regexp =>
      (search regexp).toOption.any fun ended =>
        ended.1 == .error (.stepLimitExceeded 3) && ended.2.span? 1 == some ⟨0, 1⟩) = true := by
    decide +kernel
  obtain ⟨regexp, compiles, ends⟩ := exists_of_toOption_any exceeds
  obtain ⟨⟨answer, after⟩, searched, ended⟩ := exists_of_toOption_any ends
  obtain ⟨failed, captured⟩ := Bool.and_eq_true_iff.mp ended
  obtain rfl : answer = .error (.stepLimitExceeded 3) := eq_of_beq failed
  have reached := Reached.find .initial searched
  have consistent :=
    (reached_consistent compiles ⟨#['a', 'b']⟩ ⟨512, some 3⟩ reached).1
  exact ⟨regexp, after, compiles, searched, eq_of_beq captured, consistent⟩

end MatchState

end Backtracking
