import Backtracking.Proofs.AlikeSearches
import Backtracking.Proofs.HintSoundness

/-!
# Positions where no match begins

No match begins where the hints of a pattern refuse a position, or behind a position where they
expect no more matches, or where less is left of the subject than a match takes.
-/

namespace Backtracking

namespace ParsedPattern

variable {parsed : ParsedPattern} {scene : Scene} {position : Nat}

theorem outcomes_eq_nil (numbered : parsed.Numbered) (inside : position ≤ scene.subject.size)
    (refused : ∀ stop ≤ scene.subject.size, ¬ parsed.pattern.mayTake scene position stop) :
    parsed.outcomes scene position = [] := by
  apply List.eq_nil_iff_forall_not_mem.mpr
  intro outcome member
  have valid := Captured.valid_nothing scene.subject (parsed.groupCount + 1)
  have extended :=
    Pattern.outcomes_advances parsed scene parsed.pattern position _ inside valid outcome member
  exact refused outcome.stop extended.stop_le
    (Pattern.outcomes_within_mayTake parsed scene numbered.ordered position _ inside valid outcome
      member)

/-- There is no match at a position that the hints refuse. -/
theorem outcomes_of_refused (numbered : parsed.Numbered) (inside : position ≤ scene.subject.size)
    {candidate : Candidate}
    (said : parsed.pattern.hints.candidate scene.subject position = .ok candidate)
    (refused : candidate ≠ .yes) : parsed.outcomes scene position = [] := by
  refine outcomes_eq_nil numbered inside fun _ reached taken => refused ?_
  have allowed := Pattern.candidate_of_mayTake taken reached (Hints.le_of_candidate said)
  rw [said] at allowed
  exact Except.ok.inj allowed

/-- There is no match behind a position where the hints expect no more matches. -/
theorem outcomes_of_never (numbered : parsed.Numbered) {later : Nat} (before : position ≤ later)
    (inside : later ≤ scene.subject.size)
    (never : parsed.pattern.hints.candidate scene.subject position = .ok .never) :
    parsed.outcomes scene later = [] :=
  outcomes_eq_nil numbered inside fun _ reached taken =>
    Pattern.candidate_ne_never taken reached before never

/-- There is no match where less is left of the subject than the least length. -/
theorem outcomes_of_short (numbered : parsed.Numbered) (inside : position ≤ scene.subject.size)
    (short : scene.subject.size < position + parsed.pattern.hints.minLength) :
    parsed.outcomes scene position = [] :=
  outcomes_eq_nil numbered inside fun _ reached taken =>
    Nat.not_le_of_lt short (Pattern.add_minLength_le taken reached (Nat.le_refl position))

end ParsedPattern

namespace Trial

open Running

/-- An attempt that succeeds ends behind the position where it begins, within the subject. -/
theorem attempt_bounds {parsed : ParsedPattern} {regexp : Regexp}
    (compiled : regexp.CompiledFrom parsed) {trial : Trial}
    (executes : trial.program = regexp.program) {position stop : Nat}
    (inside : position ≤ trial.subject.size) {before after : Execution}
    (sized : before.registers.Sized regexp)
    (succeeds : (trial.attempt position).run.run before = (.ok (some stop), after)) :
    position ≤ stop ∧ stop ≤ trial.subject.size := by
  have first := attempt_gives compiled executes inside sized succeeds
  have member := List.mem_of_mem_head? (Option.mem_def.mpr first.symm)
  have valid := Captured.valid_nothing trial.subject (parsed.groupCount + 1)
  have extended := Pattern.outcomes_advances parsed (trial.scene before.registers) parsed.pattern
    position _ inside valid _ member
  exact ⟨extended.le_stop, extended.stop_le⟩

end Trial

namespace MatchState

open Running

variable {regexp : Regexp} {subject : Subject}

/-- No attempt at a position that comes to an end finds a match. -/
def NoMatchAt (regexp : Regexp) (subject : Subject) (position : Nat) : Prop :=
  ∀ before answer after, before.registers.Sized regexp →
    ((trial regexp subject).attempt position).run.run before = (.ok answer, after) → answer = none

/-- No match begins where the hints refuse a position, or behind a position where they expect no
more matches, or where less is left of the subject than the least length. -/
structure HintsHold (regexp : Regexp) (subject : Subject) : Prop where
  refused : ∀ position ≤ subject.size, ∀ candidate,
    regexp.hints.candidate subject position = .ok candidate → candidate ≠ .yes →
      NoMatchAt regexp subject position
  never : ∀ position, regexp.hints.candidate subject position = .ok .never →
    ∀ later ≤ subject.size, position ≤ later → NoMatchAt regexp subject later
  short : ∀ position ≤ subject.size, subject.size < position + regexp.hints.minLength →
    NoMatchAt regexp subject position

theorem noMatchAt_of_outcomes {parsed : ParsedPattern} (compiled : regexp.CompiledFrom parsed)
    {position : Nat} (inside : position ≤ subject.size)
    (empty : ∀ scene : Scene, scene.subject = subject → parsed.outcomes scene position = []) :
    NoMatchAt regexp subject position := by
  intro before answer after sized ends
  have first := Trial.attempt_gives compiled rfl inside sized ends
  rw [empty _ rfl] at first
  cases answer with
  | none => rfl
  | some stop => cases first

/-- The hints of a compiled pattern hold, whatever the limits are. -/
theorem hintsHold {text : List Char} {flags : Flags}
    (compiles : Regexp.compile text flags = .ok regexp) (limits : Limits) (subject : Subject) :
    HintsHold { regexp with limits := limits } subject := by
  obtain ⟨parsed, -, compiled⟩ := Regexp.exists_compiledFrom compiles
  constructor
  · intro position inside candidate said refused
    refine noMatchAt_of_outcomes (compiled.limited limits) inside ?_
    rintro scene rfl
    rw [compiled.hints_eq] at said
    exact ParsedPattern.outcomes_of_refused compiled.numbered inside said refused
  · intro position never later inside before
    refine noMatchAt_of_outcomes (compiled.limited limits) inside ?_
    rintro scene rfl
    rw [compiled.hints_eq] at never
    exact ParsedPattern.outcomes_of_never compiled.numbered before inside never
  · intro position inside short
    refine noMatchAt_of_outcomes (compiled.limited limits) inside ?_
    rintro scene rfl
    rw [compiled.hints_eq] at short
    exact ParsedPattern.outcomes_of_short compiled.numbered inside short

/-- What a search finds is found by one of its attempts. -/
theorem Scans.found {usesHints : Bool} {room position : Nat} {before after : Execution}
    {span : Span}
    (scans : Scans regexp subject usesHints room position before (.ok (.ok (some span))) after)
    (reaches : room = 0 ∨ position + room ≤ subject.size + 1)
    (sized : before.registers.Sized regexp) :
    position ≤ span.start ∧ span.start ≤ subject.size ∧
      ∃ middle last, middle.registers.Sized regexp ∧
        ((trial regexp subject).attempt span.start).run.run middle =
          (.ok (some span.stop), last) := by
  generalize ended : (Except.ok (Except.ok (some span)) :
    Except MatchError (Except Overflow (Option Span))) = result at scans
  induction scans with
  | done | overflows | never | refusedOnly | exceeds | failsOnly => cases ended
  | refused _ _ _ _ ih =>
      obtain ⟨behind, found⟩ := ih (by omega) sized ended
      exact ⟨Nat.le_of_succ_le behind, found⟩
  | fails _ attempted _ _ ih =>
      have kept := sized.of_alike (Trial.attempt_alike _ attempted)
      obtain ⟨behind, found⟩ := ih (by omega) kept ended
      exact ⟨Nat.le_of_succ_le behind, found⟩
  | @finds room position stop before after _ attempted =>
      cases ended
      have inside : position ≤ subject.size := by omega
      exact ⟨Nat.le_refl _, inside, _, _, sized, attempted⟩

end MatchState

end Backtracking
