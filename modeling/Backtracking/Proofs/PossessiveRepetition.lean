import Backtracking.Proofs.Contexts
import Backtracking.Proofs.FirstOutcome
import Backtracking.Proofs.Offsets

/-!
# Possessive repetitions

A possessive repetition keeps the first outcome of each of its iterations, and stops at one that
takes nothing, for it could be repeated at will.  A greedy repetition goes back into earlier
iterations as long as more are forced.  So both have the same first outcome where at most one
iteration is forced.  Where more are forced, each iteration is to be tried on its own, and one that
takes nothing must indeed be repeatable.
-/

namespace Backtracking

namespace Matching

/-- If the preferred outcome takes nothing, then it is preferred once more after itself. -/
def Settles (subject : Subject) (body : Matching) : Prop :=
  ∀ position captured, position ≤ subject.size → captured.Valid subject →
    ∀ outcome, (body position captured).head? = some outcome → outcome.stop = position →
      (body position outcome.captured).head? = some outcome

/-- There is at most one way to match at each position. -/
def Single (subject : Subject) (body : Matching) : Prop :=
  ∀ position captured, position ≤ subject.size → captured.Valid subject →
    (body position captured).length ≤ 1

variable {subject : Subject} {body : Matching}

theorem once_single (body : Matching) : body.once.Single subject := by
  intro position captured inside valid
  rw [once]
  cases (body position captured).head? <;> simp

theorem head?_once (body : Matching) (position : Nat) (captured : Captured) :
    (body.once position captured).head? = (body position captured).head? := by
  rw [once]
  cases (body position captured).head? <;> rfl

theorem Settles.once (settles : body.Settles subject) : body.once.Settles subject := by
  intro position captured inside valid outcome found nothing
  rw [head?_once] at found ⊢
  exact settles position captured inside valid outcome found nothing

variable {least : Nat} {most : Option Nat}

theorem le_possessiveIterations (rounds count position : Nat) (captured : Captured) :
    count ≤ (possessiveIterations body least most rounds count position captured).1 := by
  induction rounds generalizing count position captured with
  | zero => exact Nat.le_refl _
  | succ rounds ih =>
      rw [possessiveIterations]
      split
      · split
        · exact Nat.le_refl _
        · next outcome found =>
            split
            · exact Nat.le_max_left _ _
            · exact Nat.le_of_succ_le (ih (count + 1) outcome.stop outcome.captured)
      · exact Nat.le_refl _

/-- Only the first outcomes of the iterations count for a possessive repetition. -/
theorem possessiveIterations_once (rounds count position : Nat) (captured : Captured) :
    possessiveIterations body.once least most rounds count position captured =
      possessiveIterations body least most rounds count position captured := by
  induction rounds generalizing count position captured with
  | zero => rfl
  | succ rounds ih => simp only [possessiveIterations, head?_once, ih]

theorem repeated_possessive_once (size : Nat) :
    body.once.repeated size least most .possessive =
      body.repeated size least most .possessive := by
  funext position captured
  simp only [repeated, possessiveIterations_once]

/-- What takes nothing over and over again leads to nothing else. -/
theorem iterations_settled {position : Nat} {captured : Captured}
    (settled : body position captured = [⟨position, captured⟩]) (greedy : Bool)
    {size rounds count : Nat}
    (enough : roundsLeft size least count (some position) position < rounds) :
    iterations body greedy least most rounds count (some position) position captured =
      [⟨position, captured⟩] := by
  induction rounds generalizing count with
  | zero => omega
  | succ rounds ih =>
      have unmoved : (most.all (count < ·) && some position != some position) = false := by simp
      simp only [iterations, unmoved]
      split
      · next forced =>
          have fewer : roundsLeft size least (count + 1) (some position) position < rounds := by
            simp only [roundsLeft, if_true] at enough ⊢
            omega
          rw [andThen, settled, List.flatMap_singleton]
          exact ih fewer
      · rfl

section Greedy

variable (ordered : ∀ bound, most = some bound → least ≤ bound)

include ordered in
/-- The first outcome of a greedy repetition begins with one more iteration, if one is allowed. -/
theorem head?_iterations {rounds count position : Nat} {start : Option Nat} {captured : Captured}
    (continues : count < least ∨ start ≠ some position) :
    (iterations body true least most (rounds + 1) count start position captured).head? =
      if most.all (count < ·) then
        (andThen body (iterations body true least most rounds (count + 1) (some position))
          position captured).head?.or (if count < least then none else some ⟨position, captured⟩)
      else some ⟨position, captured⟩ := by
  rw [iterations]
  by_cases forced : count < least
  · have allowed : most.all (count < ·) = true := by
      cases most with
      | none => rfl
      | some bound => simpa using Nat.lt_of_lt_of_le forced (ordered bound rfl)
    simp [forced, allowed]
  · have moved : (start != some position) = true := by simpa [forced] using continues
    cases most.all (count < ·) <;> simp [forced, moved, orElse, here]

variable (advances : body.Advances subject)
  (suits : least ≤ 1 ∨ body.Settles subject ∧ body.Single subject)

include advances suits in
/-- An iteration that takes nothing is the last one, or the others are like it. -/
theorem iterations_after_nothing {rounds count position : Nat} {captured : Captured}
    {outcome : Outcome} (inside : position ≤ subject.size) (valid : captured.Valid subject)
    (found : (body position captured).head? = some outcome) (nothing : outcome.stop = position)
    (enough : roundsLeft subject.size least (count + 1) (some position) position < rounds) :
    iterations body true least most rounds (count + 1) (some position) outcome.stop
      outcome.captured = [outcome] := by
  subst nothing
  rcases suits with few | ⟨settles, single⟩
  · cases rounds with
    | zero => omega
    | succ rounds =>
        have reached : ¬ count + 1 < least := by omega
        simp [iterations, reached, here]
  · have again := settles outcome.stop captured inside valid outcome found rfl
    have extended := advances outcome.stop captured inside valid outcome
      (List.mem_of_mem_head? found)
    have one := single outcome.stop outcome.captured inside extended.valid
    have settled : body outcome.stop outcome.captured = [outcome] := by
      obtain ⟨others, whole⟩ := List.head?_eq_some_iff.mp again
      rw [whole] at one ⊢
      rw [List.length_eq_zero_iff.mp (show others.length = 0 by simpa using one)]
    exact iterations_settled settled true enough

include ordered advances suits in
/-- The first outcome of a greedy repetition is that of the possessive one. -/
theorem head?_iterations_eq {room rounds count position : Nat} {start : Option Nat}
    {captured : Captured} (inside : position ≤ subject.size) (valid : captured.Valid subject)
    (continues : count < least ∨ start ≠ some position)
    (roomy : subject.size - position < room)
    (enough : roundsLeft subject.size least count start position < rounds) :
    (iterations body true least most rounds count start position captured).head? =
      if (possessiveIterations body least most room count position captured).1 < least then none
      else some (possessiveIterations body least most room count position captured).2 := by
  -- By induction on the positions that are left, as every iteration but the last takes something.
  induction room generalizing rounds count start position captured with
  | zero => omega
  | succ room ih =>
      obtain ⟨rounds, rfl⟩ : ∃ fewer, rounds = fewer + 1 := ⟨rounds - 1, by omega⟩
      rw [head?_iterations ordered continues, possessiveIterations]
      by_cases allowed : most.all (count < ·)
      swap
      · have reached : ¬ count < least := by
          cases most with
          | none => simp at allowed
          | some bound =>
              have := ordered bound rfl
              simp only [Option.all_some, decide_eq_true_eq] at allowed
              omega
        simp [allowed, reached]
      rw [if_pos allowed, if_pos allowed]
      cases found : (body position captured).head? with
      | none =>
          have none : body position captured = [] := List.head?_eq_none_iff.mp found
          simp [andThen, none]
      | some outcome =>
          have extended := advances position captured inside valid outcome
            (List.mem_of_mem_head? found)
          have fewer := roundsLeft_lt continues extended.le_stop extended.stop_le
          obtain ⟨others, whole⟩ := List.head?_eq_some_iff.mp found
          rw [andThen, whole, List.flatMap_cons, List.head?_append]
          dsimp only
          by_cases nothing : outcome.stop = position
          · have last : iterations body true least most rounds (count + 1) (some position)
                outcome.stop outcome.captured = [outcome] :=
              iterations_after_nothing advances suits inside valid found nothing
                (by rw [nothing] at fewer; omega)
            have reached : ¬ max count least < least := by omega
            rw [last]
            simp only [nothing, if_true, if_neg reached]
            rfl
          · have moved : some position ≠ some outcome.stop := fun same =>
              nothing (Option.some.inj same).symm
            have before := extended.le_stop
            have after := extended.stop_le
            have rest := @ih rounds (count + 1) outcome.stop (some position) outcome.captured
              extended.stop_le extended.valid (.inr moved) (by omega) (by omega)
            have counted : count + 1 ≤ (possessiveIterations body least most room (count + 1)
                outcome.stop outcome.captured).1 :=
              le_possessiveIterations room (count + 1) outcome.stop outcome.captured
            simp only [if_neg nothing, rest]
            split
            · next short =>
                -- More than one iteration is forced, so there is no other outcome to go back to.
                have none : others = [] := by
                  obtain ⟨-, single⟩ := suits.resolve_left (by omega)
                  have one := single position captured inside valid
                  rw [whole] at one
                  simpa using one
                have forced : count < least := by omega
                simp [none, forced]
            · rfl

include ordered advances suits in
/-- A possessive repetition is a greedy one of which only the first outcome counts. -/
theorem repeated_possessive_agree :
    Agree subject (body.repeated subject.size least most .possessive)
      (body.repeated subject.size least most .greedy).once := by
  intro position captured inside valid
  have first : (iterations body true least most
      (roundsLeft subject.size least 0 none position + 1) 0 none position captured).head? = _ :=
    head?_iterations_eq ordered advances suits inside valid (.inr nofun)
      (Nat.lt_succ_self (subject.size - position)) (Nat.lt_succ_self _)
  simp only [once, repeated, first]
  split <;> rfl

end Greedy

end Matching

/-- A possessive repetition may be replaced by a greedy one that is tried on its own.  What is
repeated is the same, or also tried on its own: it makes no difference where no more than one
iteration is forced, or where there is only one way to match. -/
theorem Pattern.possessive_interchangeable {parsed : ParsedPattern} {scene : Scene}
    {body inner : Pattern} {least : Nat} {most : Option Nat}
    (ordered : ∀ bound, most = some bound → least ≤ bound)
    (settles : least ≤ 1 ∨ (body.outcomes parsed scene).Settles scene.subject)
    (repeats : inner = .atomic body ∨
      inner = body ∧ (least ≤ 1 ∨ (body.outcomes parsed scene).Single scene.subject)) :
    Interchangeable parsed scene (.repeated body least most .possessive)
      (.atomic (.repeated inner least most .greedy)) := by
  have advances := outcomes_advances parsed scene body
  rcases repeats with rfl | ⟨rfl, single⟩
  · have suits : least ≤ 1 ∨ (body.outcomes parsed scene).once.Settles scene.subject ∧
        (body.outcomes parsed scene).once.Single scene.subject :=
      settles.imp_right fun settles => ⟨settles.once, Matching.once_single _⟩
    refine .single rfl ?_ rfl rfl
    have agree := Matching.repeated_possessive_agree ordered advances.once suits
    rw [Matching.repeated_possessive_once] at agree
    exact agree
  · have suits : least ≤ 1 ∨ (inner.outcomes parsed scene).Settles scene.subject ∧
        (inner.outcomes parsed scene).Single scene.subject := by
      rcases settles with few | settles
      · exact .inl few
      · exact single.imp_right fun single => ⟨settles, single⟩
    exact .single rfl (Matching.repeated_possessive_agree ordered advances suits) rfl rfl

/-- Two patterns that may stand for one another have the same outcomes, wherever the parts of them
were written. -/
theorem ParsedPattern.outcomes_eq_of_interchangeable {first second : ParsedPattern} {scene : Scene}
    {possessive atomic : Pattern}
    (interchangeable : Pattern.Interchangeable first scene possessive atomic)
    (firstReads : first.pattern.withoutOffsets = possessive.withoutOffsets)
    (secondReads : second.pattern.withoutOffsets = atomic.withoutOffsets)
    (sameGroups : first.groupNames = second.groupNames) {position : Nat}
    (inside : position ≤ scene.subject.size) :
    first.outcomes scene position = second.outcomes scene position := by
  have sameCount : first.groupCount = second.groupCount := congrArg Array.size sameGroups
  have valid := Captured.valid_nothing scene.subject (first.groupCount + 1)
  have unplaced {parsed : ParsedPattern} (same : parsed.groupNames = first.groupNames)
      {pattern : Pattern} (reads : parsed.pattern.withoutOffsets = pattern.withoutOffsets) :
      parsed.pattern.outcomes parsed scene = pattern.outcomes first scene := by
    rw [← Pattern.outcomes_withoutOffsets same.symm, reads, Pattern.outcomes_withoutOffsets rfl]
  rw [outcomes, outcomes, ← sameCount, unplaced rfl firstReads,
    unplaced sameGroups.symm secondReads]
  exact interchangeable.outcomes_agree position _ inside valid

namespace Trial

end Trial

end Backtracking
