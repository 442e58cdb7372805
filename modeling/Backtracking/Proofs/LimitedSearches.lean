import Backtracking.Proofs.Compilation
import Backtracking.Proofs.LimitRelaxation
import Backtracking.Search.MatchState

/-!
# Searches within limits

Limits cut an operation on a match state off, and do nothing else.  An operation that comes to an
end within some limits comes to the same end within looser ones, and leaves the same state.  So any
two limits within which it ends agree: no limit is ever mistaken for a position that does not match.
-/

namespace Backtracking

namespace Limits

/-- Limits that allow whatever one of two others allows. -/
def union (first second : Limits) : Limits := ⟨max first.maxDepth second.maxDepth, none⟩

theorem union_relaxes_left (first second : Limits) : (first.union second).Relaxes first :=
  ⟨Nat.le_max_left _ _, nofun⟩

theorem union_relaxes_right (first second : Limits) : (first.union second).Relaxes second :=
  ⟨Nat.le_max_right _ _, nofun⟩

end Limits

namespace MatchState

open Running

variable {regexp : Regexp} {subject : Subject} {state after : MatchState} {tight loose : Limits}

/-- A search for the next match comes to the same end when the limits are relaxed. -/
theorem scan_follows {origin : Registers} (relaxes : loose.Relaxes tight)
    (usesHints : Bool) (room position : Nat) :
    Follows origin (scan { regexp with limits := tight } subject usesHints room position)
      (scan { regexp with limits := loose } subject usesHints room position) := by
  induction room generalizing position with
  | zero => exact .pure (Except.ok none)
  | succ room ih =>
      unfold scan
      dsimp only
      split
      · exact .pure (Except.error _)
      · exact .pure (Except.ok none)
      · exact .ite (.pure (Except.ok none)) (ih (position + 1))
      · apply (Trial.attempt_follows (trial { regexp with limits := tight } subject) relaxes
          position).bind
        intro answer
        cases answer with
        | some stop => exact .pure _
        | none => exact .ite (.pure (Except.ok none)) (ih (position + 1))

theorem find_relaxed (relaxes : loose.Relaxes tight) {found : Bool}
    (finds : find { regexp with limits := tight } subject state = .ok (.ok found, after)) :
    find { regexp with limits := loose } subject state = .ok (.ok found, after) := by
  rw [find] at finds ⊢
  rcases runs : (scan { regexp with limits := tight } subject state.usesHints
    (subject.size + 1 - state.origin) state.origin).run.run ⟨state.registers, 0⟩ with
    ⟨error | answer, last⟩ <;> simp only [runs] at finds
  · cases finds
  · obtain ⟨-, -, same⟩ := scan_follows relaxes state.usesHints _ state.origin
      ⟨state.registers, 0⟩ 0 (.ok answer) last (.refl _) (Nat.le_refl 0) runs
    obtain ⟨taken, -, runsToo⟩ := same answer rfl
    rw [runsToo]
    rcases answer with overflow | _ | span <;> exact finds

theorem findFrom_relaxed (relaxes : loose.Relaxes tight) {position : Nat} {found : Bool}
    (finds : findFrom { regexp with limits := tight } subject position state =
      .ok (.ok found, after)) :
    findFrom { regexp with limits := loose } subject position state = .ok (.ok found, after) :=
  find_relaxed relaxes finds

theorem exec_relaxed (relaxes : loose.Relaxes tight) {position : Nat} {answer : Option Nat}
    (ends : exec { regexp with limits := tight } subject position state = (.ok answer, after)) :
    exec { regexp with limits := loose } subject position state = (.ok answer, after) := by
  rw [exec] at ends ⊢
  split at ends
  · next beyond =>
      rw [if_pos beyond]
      exact ends
  · next inside =>
      rw [if_neg inside]
      let narrow := trial { regexp with limits := tight } subject
      rcases runs : (narrow.attempt position).run.run ⟨state.registers, 0⟩ with
        ⟨error | stop?, last⟩ <;> simp only [narrow, runs] at ends
      · cases ends
      · obtain ⟨-, -, same⟩ := narrow.attempt_follows relaxes position ⟨state.registers, 0⟩ 0
          (.ok stop?) last (.refl _) (Nat.le_refl 0) runs
        obtain ⟨taken, -, runsToo⟩ := same stop? rfl
        have wide : narrow.limited loose = trial { regexp with limits := loose } subject := rfl
        rw [← wide, runsToo]
        cases stop? with
        | none => exact ends
        | some stop => exact ends

/-! ## Independence of the limits -/

/-- An operation depends on no limits within which it comes to an end: looser ones change neither
its answer nor the state behind it, and any two limits within which it ends agree. -/
structure LimitIndependent {α : Type} (ends : Limits → α → MatchState → Prop) : Prop where
  relaxed : ∀ {tight loose : Limits}, loose.Relaxes tight → ∀ {answer after},
    ends tight answer after → ends loose answer after
  agree : ∀ {first second : Limits} {answer answer' after after'},
    ends first answer after → ends second answer' after' → answer = answer' ∧ after = after'

/-- Two limits within which an operation ends agree, for both are relaxed by common limits, within
which it ends in one way only. -/
theorem LimitIndependent.of_relaxed {α : Type} {ends : Limits → α → MatchState → Prop}
    (relaxed : ∀ {tight loose : Limits}, loose.Relaxes tight → ∀ {answer after},
      ends tight answer after → ends loose answer after)
    (unique : ∀ {limits answer answer' after after'}, ends limits answer after →
      ends limits answer' after' → answer = answer' ∧ after = after') :
    LimitIndependent ends where
  relaxed := relaxed
  agree {first second _ _ _ _} endsFirst endsSecond :=
    unique (relaxed (Limits.union_relaxes_left first second) endsFirst)
      (relaxed (Limits.union_relaxes_right first second) endsSecond)

/-- No operation on a match state depends on limits within which it ends.  The same is true of every
part of an attempt, from any node on: where the body of a lookaround, an alternative or an iteration
fails within some limits, it fails within all looser ones. -/
theorem operations_limitIndependent (regexp : Regexp) (subject : Subject) (state : MatchState) :
    (LimitIndependent fun limits found after =>
      find { regexp with limits := limits } subject state = .ok (.ok found, after)) ∧
    (∀ position, LimitIndependent fun limits found after =>
      findFrom { regexp with limits := limits } subject position state =
        .ok (.ok found, after)) ∧
    (∀ position, LimitIndependent fun limits answer after =>
      exec { regexp with limits := limits } subject position state = (.ok answer, after)) ∧
    ∀ tight loose : Limits, loose.Relaxes tight → ∀ levels more, levels ≤ more →
      ∀ id position before answer after,
        ((trial { regexp with limits := tight } subject).run levels id position).run.run before =
          (.ok answer, after) →
        ∃ taken ≤ after.steps,
          ((trial { regexp with limits := loose } subject).run more id position).run.run before =
            (.ok answer, ⟨after.registers, taken⟩) := by
  refine ⟨.of_relaxed (fun relaxes => find_relaxed relaxes) ?_,
    fun position => .of_relaxed (fun relaxes => findFrom_relaxed relaxes) ?_,
    fun position => .of_relaxed (fun relaxes => exec_relaxed relaxes) ?_, ?_⟩
  · intro limits found foundToo after afterToo finds findsToo
    cases finds.symm.trans findsToo
    exact ⟨rfl, rfl⟩
  · intro limits found foundToo after afterToo finds findsToo
    cases finds.symm.trans findsToo
    exact ⟨rfl, rfl⟩
  · intro limits answer answerToo after afterToo ends endsToo
    cases ends.symm.trans endsToo
    exact ⟨rfl, rfl⟩
  · intro tight loose relaxes levels more enough id position before answer after ends
    have follows : Trial.Exceeds before.registers
        ((trial { regexp with limits := loose } subject).run more)
        ((trial { regexp with limits := tight } subject).run levels) :=
      Trial.run_follows (trial { regexp with limits := tight } subject) relaxes enough
    obtain ⟨-, -, same⟩ := follows id position before before.steps (.ok answer) after (.refl _)
      (Nat.le_refl _) ends
    exact same answer rfl

/-- The negative lookaround of `(?!a*b)a` lets no `a` before a `b` pass within narrow limits, and
none within those that are set by default. -/
theorem negative_lookaround_limited :
    ∃ regexp after,
      Regexp.compile ['(', '?', '!', 'a', '*', 'b', ')', 'a'] {} = .ok regexp ∧
      find { regexp with limits := ⟨2, some 100⟩ } ⟨#['a', 'b', 'a', 'c']⟩ (.initial regexp) =
        .ok (.ok true, after) ∧
      find { regexp with limits := {} } ⟨#['a', 'b', 'a', 'c']⟩ (.initial regexp) =
        .ok (.ok true, after) := by
  let search (regexp : Regexp) :=
    find { regexp with limits := ⟨2, some 100⟩ } ⟨#['a', 'b', 'a', 'c']⟩ (.initial regexp)
  have finds : (Regexp.compile ['(', '?', '!', 'a', '*', 'b', ')', 'a'] {}).toOption.any
      (fun regexp => (search regexp).toOption.any (·.1.toOption == some true)) = true := by
    decide +kernel
  obtain ⟨regexp, after, compiles, found⟩ := exists_found_of_toOption_any finds
  have independent := operations_limitIndependent regexp ⟨#['a', 'b', 'a', 'c']⟩
    (.initial regexp)
  have relaxes : Limits.Relaxes {} ⟨2, some 100⟩ := ⟨by decide, fun _ bounded => by cases bounded⟩
  exact ⟨regexp, after, compiles, found, independent.1.relaxed relaxes found⟩

end MatchState

end Backtracking
