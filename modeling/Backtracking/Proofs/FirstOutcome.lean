import Backtracking.Proofs.Compilation
import Backtracking.Proofs.LimitRelaxation
import Backtracking.Proofs.PatternSimulation
import Backtracking.Search.MatchState

/-!
# Attempts give the first outcome

An attempt of a compiled pattern that comes to an end gives the first outcome of the pattern, with
all captures, or fails if there is none.  Without a limit on the steps, and with as many levels as
the pattern takes on the subject, it always comes to an end.
-/

namespace Backtracking

/-- An answer is the first outcome that was expected, with what is captured then. -/
theorem Setting.Answers.first {setting : Setting} {depth : Nat} {before after : Registers}
    {expected : Option Outcome} {answer : Option Nat}
    (answers : setting.Answers depth before expected answer after) :
    after.Alike setting.origin ∧ answer = expected.map Outcome.stop ∧
      after.captured = (expected.map Outcome.captured).getD before.captured := by
  cases answers with
  | fails restored => exact ⟨restored.proper.alike, rfl, restored.captured_eq⟩
  | succeeds proper captured_eq agree => exact ⟨proper.alike, rfl, captured_eq⟩

/-- An execution that begins with some registers gives the answer of the first of some outcomes,
with what is captured then, or fails if there is none. -/
structure GivesFirst (before : Registers) (outcomes : List Outcome) (answer : Option Nat)
    (after : Registers) : Prop where
  alike : after.Alike before
  answer_eq : answer = outcomes.head?.map Outcome.stop
  captured_eq : after.captured = (outcomes.head?.map Outcome.captured).getD before.captured

theorem GivesFirst.head?_eq {before after : Registers} {outcomes : List Outcome}
    {answer : Option Nat} (first : GivesFirst before outcomes answer after) :
    answer.map (fun stop => (⟨stop, after.captured⟩ : Outcome)) = outcomes.head? := by
  obtain ⟨-, answer_eq, captured_eq⟩ := first
  cases found : outcomes.head? with
  | none => simp [answer_eq, found]
  | some outcome => simp [answer_eq, captured_eq, found]

namespace Trial

open Running

variable {parsed : ParsedPattern} {regexp : Regexp} (compiled : regexp.CompiledFrom parsed)
  {trial : Trial} (executes : trial.program = regexp.program) {position : Nat}
  (inside : position ≤ trial.subject.size)

section Parts

variable {part : Pattern} (member : part ∈ parsed.pattern.parts) {loopDepth : Nat → Nat}
  {entry : NodeId} (encodes : Encodes parsed regexp.program loopDepth 0 0 part entry Program.done)

include compiled executes inside member encodes

/-- With more levels than a part of the pattern takes, the execution of nodes of this part that
stand in front of the end of a match comes to an end. -/
theorem run_yields (unlimited : trial.limits.maxSteps = none) {levels : Nat}
    (deep : part.frames trial.subject.size < levels) {before : Registers}
    (sized : before.Sized regexp) (valid : before.captured.Valid trial.subject) :
    (trial.run levels entry position).Yields before
      (GivesFirst before
        (part.outcomes parsed (trial.scene before) position before.captured)) := by
  have opened := sized.opened_size.trans compiled.groupCount_eq
  have loops : before.loops.size = trial.program.loopSlots := by
    rw [sized.loops_size, executes]
  obtain ⟨groupDepth, fits⟩ := compiled.numbered.fits_part member
  have done := (Program.ofPattern_encodes compiled.made).2
  rw [← executes] at encodes done
  let setting : Setting := ⟨trial, unlimited, ⟨loopDepth, groupDepth⟩, before, loops⟩
  have leads : setting.Leads 0 part.groups 0 (part.outcomes parsed setting.scene)
      (part.frames trial.subject.size) entry Program.done := by
    apply Setting.simulates done part encodes
    rw [opened]
    exact fits
  have realizes := leads (.outermost setting.sealing) 0 0 Matching.completed rfl
    (by simp [Frame.Avoids, Frame.outermost]) (.done done)
  have ready : setting.Ready (.outermost setting.sealing) 0 position before :=
    ⟨Nat.zero_le _, inside, ⟨.refl before, valid⟩, by simp [Frame.Holds, Frame.outermost]⟩
  have runs := realizes.runs (show 0 + _ < levels by omega) ready
  rw [Matching.followedBy_completed] at runs
  refine runs.weaken fun answer after answers => ?_
  obtain ⟨alike, answer_eq, captured_eq⟩ := answers.first
  exact ⟨alike, answer_eq, captured_eq⟩

/-- Whenever such an execution comes to an end it gives the first outcome of the part, for more
levels and steps would not change it. -/
theorem run_gives {levels : Nat} {before after : Execution}
    (sized : before.registers.Sized regexp)
    (valid : before.registers.captured.Valid trial.subject) {answer : Option Nat}
    (ends : (trial.run levels entry position).run.run before = (.ok answer, after)) :
    GivesFirst before.registers
      (part.outcomes parsed (trial.scene before.registers) position before.registers.captured)
      answer after.registers := by
  have relaxes : Limits.Relaxes ⟨trial.limits.maxDepth, none⟩ trial.limits :=
    ⟨Nat.le_refl _, fun _ bounded => by cases bounded⟩
  obtain ⟨taken, -, runs⟩ := (trial.run_follows relaxes
    (Nat.le_max_left levels (part.frames trial.subject.size + 1)) entry position before
    before.steps _ after (.refl _) (Nat.le_refl _) ends).2.2 answer rfl
  have executesToo : (trial.limited ⟨trial.limits.maxDepth, none⟩).program = regexp.program :=
    executes
  have deep : part.frames trial.subject.size < max levels (part.frames trial.subject.size + 1) :=
    Nat.le_max_right _ _
  obtain ⟨value, final, finishes, first⟩ :=
    run_yields compiled executesToo inside member encodes rfl deep sized valid before.steps
  rw [runs] at finishes
  cases finishes
  exact first

end Parts

include compiled in
/-- An attempt begins with registers of the right sizes, in which nothing is captured. -/
theorem cleared_captured {before : Registers} (sized : before.Sized regexp) :
    before.cleared.captured = .nothing (parsed.groupCount + 1) := by
  rw [Registers.captured_cleared, sized.captures_size, compiled.groupCount_eq]

include compiled executes inside in
theorem attempt_yields (unlimited : trial.limits.maxSteps = none)
    (deep : parsed.pattern.frames trial.subject.size ≤ trial.limits.maxDepth)
    {before : Registers} (sized : before.Sized regexp) :
    (trial.attempt position).Yields before fun answer after =>
      let first := (parsed.outcomes (trial.scene before) position).head?
      after.Alike before ∧ answer = first.map Outcome.stop ∧
        after.captured = (first.map Outcome.captured).getD (.nothing (parsed.groupCount + 1)) := by
  obtain ⟨⟨loopDepth, encodes⟩, -⟩ := Program.ofPattern_encodes compiled.made
  have captured := cleared_captured compiled sized
  have runs := run_yields compiled executes inside parsed.pattern.mem_parts_self encodes unlimited
    (Nat.lt_succ_of_le deep) (sized.of_alike before.cleared_alike)
    (captured ▸ Captured.valid_nothing _ _)
  rw [captured] at runs
  rw [attempt, executes]
  refine .change (runs.weaken fun answer after first => ?_)
  exact ⟨first.alike.trans before.cleared_alike, first.answer_eq, captured ▸ first.captured_eq⟩

include compiled executes inside in
/-- The answer of an attempt that comes to an end, with what is captured then, is the first outcome
of the pattern. -/
theorem attempt_gives {before after : Execution} (sized : before.registers.Sized regexp)
    {answer : Option Nat} (ends : (trial.attempt position).run.run before = (.ok answer, after)) :
    answer.map (fun stop => (⟨stop, after.registers.captured⟩ : Outcome)) =
      (parsed.outcomes (trial.scene before.registers) position).head? := by
  obtain ⟨⟨loopDepth, encodes⟩, -⟩ := Program.ofPattern_encodes compiled.made
  have captured := cleared_captured compiled sized
  rw [attempt, executes, run_bind, run_change] at ends
  have first := run_gives compiled executes inside parsed.pattern.mem_parts_self encodes
    (sized.of_alike before.registers.cleared_alike) (captured ▸ Captured.valid_nothing _ _) ends
  rw [captured] at first
  exact first.head?_eq

/-- An attempt of a compiled pattern that comes to an end gives the first outcome of the pattern,
with all that is captured, whatever the limits are and wherever the search and the match before this
one were. -/
theorem attempt_eq_head? {text : List Char} {flags : Flags} {parsed : ParsedPattern}
    {regexp : Regexp} (parses : ParsedPattern.parse text flags = .ok parsed)
    (compiles : Regexp.compile text flags = .ok regexp) {trial : Trial}
    (executes : trial.program = regexp.program) {position : Nat}
    (inside : position ≤ trial.subject.size) {before after : Execution}
    (sized : before.registers.Sized regexp) {answer : Option Nat}
    (ends : (trial.attempt position).run.run before = (.ok answer, after)) :
    answer.map (fun stop => (⟨stop, after.registers.captured⟩ : Outcome)) =
      (parsed.outcomes (trial.scene before.registers) position).head? := by
  have compiled := Regexp.compiledFrom parses compiles
  exact attempt_gives compiled executes inside sized ends

/-- In `(a|ab)(b*)` the first branch is preferred, after which the repetition takes both of the
characters that are left. -/
theorem attempt_first_branch :
    ∃ parsed regexp after,
      ParsedPattern.parse ['(', 'a', '|', 'a', 'b', ')', '(', 'b', '*', ')'] {} = .ok parsed ∧
      Regexp.compile ['(', 'a', '|', 'a', 'b', ')', '(', 'b', '*', ')'] {} = .ok regexp ∧
      ((MatchState.trial regexp ⟨#['a', 'b', 'b']⟩).attempt 0).run.run
        ⟨.initial regexp.groupCount regexp.program.loopSlots, 0⟩ = (.ok (some 3), after) ∧
      some (⟨3, after.registers.captured⟩ : Outcome) =
        (parsed.outcomes ⟨⟨#['a', 'b', 'b']⟩, 0, 0⟩ 0).head? := by
  let attempt (regexp : Regexp) := ((MatchState.trial regexp ⟨#['a', 'b', 'b']⟩).attempt 0).run.run
    ⟨.initial regexp.groupCount regexp.program.loopSlots, 0⟩
  have finds : (Regexp.compile ['(', 'a', '|', 'a', 'b', ')', '(', 'b', '*', ')'] {}).toOption.any
      (fun regexp => (attempt regexp).1.toOption == some (some 3)) = true := by
    decide +kernel
  obtain ⟨regexp, compiles, ends⟩ := exists_of_toOption_any finds
  obtain ⟨parsed, parses, -⟩ := Regexp.exists_compiledFrom compiles
  rcases runs : attempt regexp with ⟨_ | answer, after⟩ <;> rw [runs] at ends
  · cases ends
  · obtain rfl : answer = some 3 := by simpa [Except.toOption] using ends
    exact ⟨parsed, regexp, after, parses, compiles, runs, attempt_eq_head? parses compiles rfl
      (Nat.zero_le _) (Registers.initial_sized regexp) runs⟩

end Trial

end Backtracking
