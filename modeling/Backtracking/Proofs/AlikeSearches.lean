import Backtracking.Proofs.ReachableStates

/-!
# Searches from registers that are alike

What an operation does depends on the captures, the groups entered and the loops of no earlier one:
every attempt clears them first, and where no attempt is made they are cleared at the end.
-/

namespace Backtracking

namespace Registers

theorem Alike.cleared_eq {first second : Registers} (alike : first.Alike second) :
    first.cleared = second.cleared := by
  have captures : (first.captures.map fun _ => (none : Option Span)) =
      second.captures.map fun _ => none := by
    apply Array.ext <;> simp [alike.captures_size]
  have opened : (first.opened.map fun _ => (none : Option Nat)) =
      second.opened.map fun _ => none := by
    apply Array.ext <;> simp [alike.opened_size]
  have loops : (first.loops.map fun _ => ({} : LoopSlot)) = second.loops.map fun _ => {} := by
    apply Array.ext <;> simp [alike.loops_size]
  simp only [cleared, captures, opened, loops, alike.searchStart_eq, alike.previousEnd_eq]

end Registers

namespace MatchState

open Running

variable {regexp : Regexp} {subject : Subject} {state other : MatchState}

/-- An attempt depends on no more of the registers than what alike registers agree on. -/
theorem attempt_of_alike (trial : Trial) (position steps : Nat) {first second : Registers}
    (alike : first.Alike second) :
    (trial.attempt position).run.run ⟨first, steps⟩ =
      (trial.attempt position).run.run ⟨second, steps⟩ := by
  rw [Trial.attempt, run_bind, run_bind, run_change, run_change, alike.cleared_eq]

/-- Scans from registers that are alike come to the same end, with the same registers unless nothing
is found or the scan overflows: before anything else can happen an attempt is made, which clears
what they differ in. -/
theorem scan_of_alike (regexp : Regexp) (subject : Subject) (usesHints : Bool)
    (room position steps : Nat) {first second : Registers} (alike : first.Alike second) :
    ∃ result firstAfter secondAfter,
      (scan regexp subject usesHints room position).run.run ⟨first, steps⟩ = (result, firstAfter) ∧
      (scan regexp subject usesHints room position).run.run ⟨second, steps⟩ =
        (result, secondAfter) ∧
      firstAfter.registers.Alike secondAfter.registers ∧
      (result = .ok (.ok none) ∨ (∃ overflow, result = .ok (.error overflow)) ∨
        firstAfter = secondAfter) := by
  induction room generalizing position with
  | zero => exact ⟨_, _, _, rfl, rfl, alike, .inl rfl⟩
  | succ room ih =>
      simp only [run_scan_succ, attempt_of_alike _ position steps alike]
      generalize (if usesHints then regexp.hints.candidate subject position else .ok .yes) =
        candidate
      rcases candidate with overflow | _ | _ | _ <;> dsimp only
      · exact ⟨_, _, _, rfl, rfl, alike, .inr (.inl ⟨overflow, rfl⟩)⟩
      · exact ⟨_, _, _, rfl, rfl, .refl _, .inr (.inr rfl)⟩
      · split
        · exact ⟨_, _, _, rfl, rfl, alike, .inl rfl⟩
        · exact ih (position + 1)
      · exact ⟨_, _, _, rfl, rfl, alike, .inl rfl⟩

/-- A search for the next match depends on no registers that an attempt clears. -/
theorem find_of_alike (alike : state.registers.Alike other.registers)
    (origin_eq : state.origin = other.origin) (usesHints_eq : state.usesHints = other.usesHints) :
    find regexp subject state = find regexp subject other := by
  obtain ⟨registers, origin, usesHints⟩ := state
  obtain ⟨otherRegisters, _, _⟩ := other
  obtain ⟨rfl, rfl⟩ : origin = _ ∧ usesHints = _ := ⟨origin_eq, usesHints_eq⟩
  rw [find_eq_conclude, find_eq_conclude]
  obtain ⟨result, last, lastToo, runs, runsToo, alikeToo, same⟩ :=
    scan_of_alike regexp subject usesHints (subject.size + 1 - origin) origin 0 alike
  simp only [runs, runsToo]
  rcases same with rfl | ⟨overflow, rfl⟩ | rfl
  · simp only [concludeFind, alikeToo.cleared_eq]
  · rfl
  · rcases result with error | _ | _ | span <;> rfl

theorem exec_of_alike (position : Nat) (alike : state.registers.Alike other.registers)
    (origin_eq : state.origin = other.origin) (usesHints_eq : state.usesHints = other.usesHints) :
    exec regexp subject position state = exec regexp subject position other := by
  obtain ⟨registers, origin, usesHints⟩ := state
  obtain ⟨otherRegisters, _, _⟩ := other
  obtain ⟨rfl, rfl⟩ : origin = _ ∧ usesHints = _ := ⟨origin_eq, usesHints_eq⟩
  simp only [exec, alike.cleared_eq, attempt_of_alike _ position 0 alike]

end MatchState

end Backtracking
