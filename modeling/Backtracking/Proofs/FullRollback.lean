import Backtracking.Proofs.EnsembleAttempts
import Backtracking.Search.MatchState

/-!
# Going back to all registers

When what follows an atomic part, a possessive loop or a lookaround fails, only the captures go back
to what they were.  The slots of loops and the places where groups were entered stay as the part has
left them.  An attempt that goes back to all registers comes to the same end, so whatever stays
behind is written down again before it is read.
-/

namespace Backtracking

namespace Trial

/-- An attempt of a compiled pattern that goes back to the captures only, and one that goes back to
all registers, come to the same end after the same number of steps, with the same captures, whether
this is a match or none or a limit is exceeded. -/
theorem attempt_rollback_irrelevant {text : List Char} {flags : Flags} {regexp : Regexp}
    (compiles : Regexp.compile text flags = .ok regexp) {trial : Trial}
    (executes : trial.program = regexp.program) {position : Nat}
    (inside : position ≤ trial.subject.size) {before : Execution}
    (sized : before.registers.Sized regexp) :
    let partly := ({ trial with rollback := .captures }.attempt position).run.run before
    let wholly := ({ trial with rollback := .everything }.attempt position).run.run before
    partly.1 = wholly.1 ∧ partly.2.steps = wholly.2.steps ∧
      partly.2.registers.captures = wholly.2.registers.captures ∧
      partly.2.registers.highestGroup = wholly.2.registers.highestGroup := by
  obtain ⟨parsed, -, compiled⟩ := Regexp.exists_compiledFrom compiles
  obtain ⟨result, taken, captured, after, runs, -, captured_eq, -⟩ :=
    attempts_shared compiled executes inside (fun rollback : Rollback => rollback) sized
      fun _ => Watcher.silent_lets _
  simp only [watchedAttempt_silent] at runs
  have same : (after .captures).captured = (after .everything).captured :=
    (captured_eq .captures).trans (captured_eq .everything).symm
  simp only [runs, true_and]
  exact ⟨congrArg Captured.spans same, congrArg Captured.highest same⟩

/-- In `(?>(?:(a)b)*)c|(a)` the loop of the first branch leaves its slot behind where no `c`
follows.  The second branch matches the same in spite of it. -/
theorem stale_loop_irrelevant :
    ∃ regexp partly wholly,
      Regexp.compile ['(', '?', '>', '(', '?', ':', '(', 'a', ')', 'b', ')', '*', ')', 'c', '|',
        '(', 'a', ')'] {} = .ok regexp ∧
      ({ MatchState.trial regexp ⟨#['a', 'b']⟩ with rollback := .captures }.attempt 0).run.run
        ⟨.initial regexp.groupCount regexp.program.loopSlots, 0⟩ = (.ok (some 1), partly) ∧
      ({ MatchState.trial regexp ⟨#['a', 'b']⟩ with rollback := .everything }.attempt 0).run.run
        ⟨.initial regexp.groupCount regexp.program.loopSlots, 0⟩ = (.ok (some 1), wholly) ∧
      partly.registers.loops ≠ wholly.registers.loops ∧
      partly.registers.captures = wholly.registers.captures := by
  let attempt (regexp : Regexp) (rollback : Rollback) :=
    ({ MatchState.trial regexp ⟨#['a', 'b']⟩ with rollback := rollback }.attempt 0).run.run
      ⟨.initial regexp.groupCount regexp.program.loopSlots, 0⟩
  have ends : (Regexp.compile ['(', '?', '>', '(', '?', ':', '(', 'a', ')', 'b', ')', '*', ')',
      'c', '|', '(', 'a', ')'] {}).toOption.any (fun regexp =>
        (attempt regexp .captures).1.toOption == some (some 1) &&
          (attempt regexp .captures).2.registers.loops !=
            (attempt regexp .everything).2.registers.loops) = true := by
    decide +kernel
  obtain ⟨regexp, compiles, ends⟩ := exists_of_toOption_any ends
  obtain ⟨succeeds, differ⟩ := Bool.and_eq_true_iff.mp ends
  have executes : (MatchState.trial regexp ⟨#['a', 'b']⟩).program = regexp.program := rfl
  have sized : (Execution.mk (.initial regexp.groupCount regexp.program.loopSlots)
      0).registers.Sized regexp := Registers.initial_sized regexp
  have shared : (attempt regexp .captures).1 = (attempt regexp .everything).1 ∧
      (attempt regexp .captures).2.steps = (attempt regexp .everything).2.steps ∧
      (attempt regexp .captures).2.registers.captures =
        (attempt regexp .everything).2.registers.captures ∧
      (attempt regexp .captures).2.registers.highestGroup =
        (attempt regexp .everything).2.registers.highestGroup :=
    attempt_rollback_irrelevant compiles executes (Nat.zero_le _) sized
  rcases ran : attempt regexp .captures with ⟨result, partly⟩
  rcases ranToo : attempt regexp .everything with ⟨resultToo, wholly⟩
  rw [ran, ranToo] at shared differ
  rw [ran] at succeeds
  obtain ⟨rfl, -, captures_eq, -⟩ := shared
  obtain rfl : result = .ok (some 1) := by
    cases result with
    | error => cases succeeds
    | ok answer => simpa [Except.toOption] using succeeds
  exact ⟨regexp, partly, wholly, compiles, ran, ranToo, by simpa using differ, captures_eq⟩

end Trial

end Backtracking
