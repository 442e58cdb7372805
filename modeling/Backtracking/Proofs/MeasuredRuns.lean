import Backtracking.Proofs.Enclosure
import Backtracking.Proofs.EnsembleAttempts
import Backtracking.Proofs.FirstOutcome
import Backtracking.Proofs.Widths

/-!
# Executions take what the widths say

On a subject that is shorter than the greatest word, the width of a pattern bounds what an attempt
takes.  A branch of a lookbehind has a fixed width, so if it succeeds from that far before a
position it ends at the position.  Lookbehinds compare these positions, but they need not: they are
true iff one of the branches matches the characters before the position.
-/

namespace Backtracking

namespace Pattern

theorem mem_parts_of_branches {whole body branch : Pattern} {direction : Direction}
    {negated : Bool} {offset : Nat}
    (member : .lookAround direction negated body offset ∈ whole.parts)
    (inside : branch ∈ body.branches) : branch ∈ whole.parts := by
  have within : (Pattern.lookAround direction negated body offset).Throughout (· ∈ whole.parts) :=
    fun _ inner => (parts_sublist member).subset inner
  exact (within.lookAround.ofBranches inside).self

/-- The least and the greatest number of characters are those of every outcome, even where a number
was replaced by the greatest word. -/
theorem outcomes_measured (parsed : ParsedPattern) (scene : Scene) {pattern : Pattern}
    (ordered : pattern.Throughout Ordered) (small : scene.subject.size < Width.greatestWord)
    {position : Nat} {captured : Captured} (inside : position ≤ scene.subject.size)
    (valid : captured.Valid scene.subject) {outcome : Outcome}
    (member : outcome ∈ pattern.outcomes parsed scene position captured) :
    position ≤ outcome.stop ∧ pattern.width.least ≤ outcome.stop - position ∧
      ∀ most, pattern.width.most = some most → outcome.stop - position ≤ most := by
  have extended :=
    outcomes_advances parsed scene pattern position captured inside valid outcome member
  have taken :=
    outcomes_within_mayTake parsed scene ordered position captured inside valid outcome member
  obtain ⟨length, stops, bounds⟩ := mayTake_bounded scene pattern _ _ taken
  have reached := extended.stop_le
  rw [stops, Nat.add_sub_cancel_left]
  refine ⟨Nat.le_add_right _ _, bounds.least_le, fun most equal => ?_⟩
  rcases Nat.lt_or_ge most Width.greatestWord with fits | great
  · exact bounds.le_most most equal fits
  · omega

/-- A branch of fixed width matches the characters before a position. -/
def MatchesBefore (parsed : ParsedPattern) (scene : Scene) (branch : Pattern) (position : Nat)
    (captured : Captured) : Prop :=
  ∃ width, branch.fixedWidth? = some width ∧ width ≤ position ∧
    ∃ outcome ∈ branch.outcomes parsed scene (position - width) captured, outcome.stop = position

theorem matchesBefore_iff {parsed : ParsedPattern} {scene : Scene} {branch : Pattern}
    {position : Nat} {captured : Captured} {width : Nat}
    (fixed : branch.fixedWidth? = some width) :
    branch.MatchesBefore parsed scene position captured ↔ width ≤ position ∧
      ∃ outcome ∈ branch.outcomes parsed scene (position - width) captured,
        outcome.stop = position := by
  simp [MatchesBefore, fixed]

end Pattern

namespace EncodesBehind

variable {parsed : ParsedPattern} {program : Program} {loopDepth : Nat → Nat} {slots depth : Nat}
  {branches : List Pattern} {entries : List (Nat × NodeId)}
  (encodes : EncodesBehind parsed program loopDepth slots depth branches entries)

include encodes

theorem widths_eq : branches.map Pattern.fixedWidth? = entries.map fun entry => some entry.1 := by
  induction branches generalizing entries with
  | nil =>
      cases encodes
      rfl
  | cons branch branches ih =>
      cases encodes with
      | cons fixed _ follows => rw [List.map_cons, List.map_cons, fixed, ih follows]

theorem exists_branch {entry : Nat × NodeId} (member : entry ∈ entries) :
    ∃ branch ∈ branches, branch.fixedWidth? = some branch.width.least ∧
      entry.1 = branch.width.least ∧
      Encodes parsed program loopDepth slots depth branch entry.2 Program.done := by
  induction branches generalizing entries with
  | nil =>
      cases encodes
      cases member
  | cons branch branches ih =>
      cases encodes with
      | cons fixed encodes follows =>
          rcases List.mem_cons.mp member with rfl | later
          · exact ⟨branch, by simp, fixed, rfl, encodes⟩
          · obtain ⟨other, listed, known⟩ := ih follows later
            exact ⟨other, List.mem_cons_of_mem _ listed, known⟩

end EncodesBehind

/-- Every lookbehind of a program was made for one of the pattern: the nodes of its branches lead to
the first node of the program, at which a match is complete. -/
theorem Program.lookBehind_encodes {parsed : ParsedPattern} {program : Program}
    (made : Program.ofPattern parsed = .ok program) {id next : NodeId}
    {entries : List (Nat × NodeId)} {negated : Bool}
    (holds : program.Holds id (.lookBehind entries negated next)) :
    ∃ body offset loopDepth, .lookAround .behind negated body offset ∈ parsed.pattern.parts ∧
      EncodesBehind parsed program loopDepth 0 0 body.branches entries := by
  obtain ⟨body, offset, first, middle, member, runs, startLe, rfl, slotsLe, kept⟩ :=
    (Program.ofPattern_lays made).2 id _ holds entries negated next rfl
  obtain ⟨-, loopDepth, encodes⟩ := Emitting.measured_makes
    (fun branch _ => Emitting.pattern_makes parsed branch) 0 offset startLe entries middle runs
  refine ⟨body, offset, loopDepth, member, encodes 0 loopDepth program (Nat.zero_le _)
    (fun _ _ _ => rfl) ⟨slotsLe, fun inner node behind found => ?_⟩⟩
  have inside := (Array.getElem?_eq_some_iff.mp found).1
  exact (kept inner behind inside).trans found

namespace Trial

open Running

/-- Whether one of the branches before a position succeeds, wherever it ends. -/
def succeedsBehind (deeper : Continuation) (position : Nat) : List (Nat × NodeId) → Running Bool
  | [] => return false
  | (width, body) :: branches => do
      if width ≤ position then
        match ← deeper body (position - width) with
        | some _ => return true
        | none => succeedsBehind deeper position branches
      else
        succeedsBehind deeper position branches

/-- A lookbehind that is tried at a position with some registers does what its branches say.

* `widths`: each branch begins before the position by its fixed width.
* `ends`: a branch that succeeds from there ends at the position.
* `unchecked`: it makes no difference whether the lookbehind looks where its branches end.
* `found_iff`: it finds a match iff one of its branches matches the characters before the
  position. -/
structure ExactBehind (trial : Trial) (parsed : ParsedPattern) (branches : List Pattern)
    (entries : List (Nat × NodeId)) (position : Nat) (registers : Registers) : Prop where
  widths : branches.map Pattern.fixedWidth? = entries.map fun entry => some entry.1
  ends : ∀ entry ∈ entries, entry.1 ≤ position → ∀ levels steps stop after,
    (trial.run levels entry.2 (position - entry.1)).run.run ⟨registers, steps⟩ =
      (.ok (some stop), after) → stop = position
  unchecked : ∀ levels steps,
    (trial.matchesBehind (trial.run levels) registers position entries).run.run
        ⟨registers, steps⟩ =
      (succeedsBehind (trial.run levels) position entries).run.run ⟨registers, steps⟩
  found_iff : ∀ levels steps found after,
    (trial.matchesBehind (trial.run levels) registers position entries).run.run
        ⟨registers, steps⟩ = (.ok found, after) →
      (found = true ↔ ∃ branch ∈ branches,
        branch.MatchesBefore parsed (trial.scene registers) position registers.captured)

/-- If a lookbehind is visited, it stands for one of the pattern, and does what its branches say. -/
def LooksBackExactly (trial : Trial) (parsed : ParsedPattern) (id : NodeId) (position : Nat)
    (registers : Registers) : Prop :=
  ∀ entries negated next, trial.program.Holds id (.lookBehind entries negated next) →
    ∃ body offset, .lookAround .behind negated body offset ∈ parsed.pattern.parts ∧
      trial.ExactBehind parsed body.branches entries position registers

section Branches

variable {parsed : ParsedPattern} {regexp : Regexp} (compiled : regexp.CompiledFrom parsed)
  {trial : Trial} (executes : trial.program = regexp.program) {position : Nat}
  (inside : position ≤ trial.subject.size) (fits : trial.subject.size ≤ Width.greatestWord)
  {registers : Registers} (sized : registers.Sized regexp)
  (valid : registers.captured.Valid trial.subject) {loopDepth : Nat → Nat}

include compiled executes inside fits sized valid

/-- A branch that is tried before a position ends at the position, or fails and leaves everything as
it was.  It depends on its outcomes which of both it is. -/
theorem branch_cases {branch : Pattern} (member : branch ∈ parsed.pattern.parts)
    (fixed : branch.fixedWidth? = some branch.width.least) {entry : NodeId}
    (encodes : Encodes parsed regexp.program loopDepth 0 0 branch entry Program.done)
    (far : branch.width.least ≤ position) {levels : Nat} {before after : Execution}
    (alike : before.registers.Alike registers)
    (same : before.registers.captured = registers.captured) {answer : Option Nat}
    (runs : (trial.run levels entry (position - branch.width.least)).run.run before =
      (.ok answer, after)) :
    (answer = some position ∧
      branch.MatchesBefore parsed (trial.scene registers) position registers.captured) ∨
    (answer = none ∧ after.registers.Alike registers ∧
      after.registers.captured = registers.captured ∧
      ¬ branch.MatchesBefore parsed (trial.scene registers) position registers.captured) := by
  have earlier : position - branch.width.least ≤ trial.subject.size := by omega
  have ordered : branch.Throughout Pattern.Ordered := fun part inner =>
    compiled.numbered.ordered part ((Pattern.parts_sublist member).subset inner)
  have exactly := Pattern.outcomes_fixed (trial.scene registers) parsed ordered fits fixed
    (position - branch.width.least) registers.captured earlier valid
  obtain ⟨kept, answer_eq, captured_eq⟩ := run_gives compiled executes earlier member encodes
    (sized.of_alike alike) (same ▸ valid) runs
  rw [trial.scene_of_alike alike, same] at answer_eq captured_eq
  cases first : branch.outcomes parsed (trial.scene registers) (position - branch.width.least)
    registers.captured with
  | nil =>
      rw [first] at answer_eq captured_eq
      refine .inr ⟨answer_eq, kept.trans alike, captured_eq, ?_⟩
      simp [Pattern.matchesBefore_iff fixed, first]
  | cons outcome others =>
      have reached : outcome ∈ branch.outcomes parsed (trial.scene registers)
          (position - branch.width.least) registers.captured := first ▸ List.mem_cons_self ..
      have stops : outcome.stop = position := by
        rw [exactly outcome reached]
        omega
      rw [first] at answer_eq
      exact .inl ⟨answer_eq.trans (congrArg some stops), _, fixed, far, outcome, reached, stops⟩

/-- Lookbehinds need not look where their branches end. -/
theorem run_matchesBehind {branches : List Pattern} {entries : List (Nat × NodeId)}
    (members : ∀ branch ∈ branches, branch ∈ parsed.pattern.parts)
    (encodes : EncodesBehind parsed regexp.program loopDepth 0 0 branches entries)
    (snapshot : Registers) (levels : Nat) {before : Execution}
    (alike : before.registers.Alike registers)
    (same : before.registers.captured = registers.captured) :
    (trial.matchesBehind (trial.run levels) snapshot position entries).run.run before =
      (succeedsBehind (trial.run levels) position entries).run.run before := by
  induction branches generalizing entries before with
  | nil =>
      cases encodes
      rfl
  | cons branch branches ih =>
      cases encodes with
      | @cons _ _ _ _ entry entries fixed encodes follows =>
          have rest : ∀ other ∈ branches, other ∈ parsed.pattern.parts :=
            fun other member => members other (by simp [member])
          rw [matchesBehind, succeedsBehind]
          split
          · next far =>
              rw [run_bind, run_bind]
              rcases runs : (trial.run levels entry (position - branch.width.least)).run.run before
                with ⟨error | answer, after⟩
              · rfl
              rcases branch_cases compiled executes inside fits sized valid
                (members branch (by simp)) fixed encodes far alike same runs with
                ⟨rfl, -⟩ | ⟨rfl, keptAlike, keptSame, -⟩
              · simp
              · exact ih rest follows keptAlike keptSame
          · exact ih rest follows alike same

/-- Whether one of the branches succeeds depends on what the branches match. -/
theorem succeedsBehind_iff {branches : List Pattern} {entries : List (Nat × NodeId)}
    (members : ∀ branch ∈ branches, branch ∈ parsed.pattern.parts)
    (encodes : EncodesBehind parsed regexp.program loopDepth 0 0 branches entries)
    {levels : Nat} {before after : Execution} (alike : before.registers.Alike registers)
    (same : before.registers.captured = registers.captured) {found : Bool}
    (runs : (succeedsBehind (trial.run levels) position entries).run.run before =
      (.ok found, after)) :
    found = true ↔ ∃ branch ∈ branches,
      branch.MatchesBefore parsed (trial.scene registers) position registers.captured := by
  induction branches generalizing entries before with
  | nil =>
      cases encodes
      cases runs
      simp
  | cons branch branches ih =>
      cases encodes with
      | @cons _ _ _ _ entry entries fixed encodes follows =>
          have rest : ∀ other ∈ branches, other ∈ parsed.pattern.parts :=
            fun other member => members other (by simp [member])
          rw [List.exists_mem_cons_iff]
          rw [succeedsBehind] at runs
          split at runs
          · next far =>
              rw [run_bind] at runs
              rcases tried : (trial.run levels entry (position - branch.width.least)).run.run before
                with ⟨error | answer, middle⟩ <;> rw [tried] at runs
              · cases runs
              rcases branch_cases compiled executes inside fits sized valid
                (members branch (by simp)) fixed encodes far alike same tried with
                ⟨rfl, matched⟩ | ⟨rfl, keptAlike, keptSame, unmatched⟩
              · cases runs
                simp [matched]
              · rw [ih rest follows keptAlike keptSame runs, or_iff_right unmatched]
          · next near =>
              have unmatched : ¬ branch.MatchesBefore parsed (trial.scene registers) position
                  registers.captured := by
                rw [Pattern.matchesBefore_iff fixed]
                exact fun matched => near matched.1
              rw [ih rest follows alike same runs, or_iff_right unmatched]

/-- Wherever a lookbehind may be tried, it does what its branches say. -/
theorem looksBackExactly (id : NodeId) : trial.LooksBackExactly parsed id position registers := by
  intro entries negated next holds
  rw [executes] at holds
  obtain ⟨body, offset, loopDepth, member, encodes⟩ :=
    Program.lookBehind_encodes compiled.made holds
  have members : ∀ branch ∈ body.branches, branch ∈ parsed.pattern.parts :=
    fun branch listed => Pattern.mem_parts_of_branches member listed
  have unchecked (levels steps : Nat) :
      (trial.matchesBehind (trial.run levels) registers position entries).run.run
          ⟨registers, steps⟩ =
        (succeedsBehind (trial.run levels) position entries).run.run ⟨registers, steps⟩ :=
    run_matchesBehind compiled executes inside fits sized valid members encodes registers levels
      (.refl registers) rfl
  refine ⟨body, offset, member, encodes.widths_eq, ?_, unchecked, ?_⟩
  · rintro ⟨width, start⟩ listed far levels steps stop after runs
    obtain ⟨branch, inBody, fixed, rfl, branchEncodes⟩ := encodes.exists_branch listed
    rcases branch_cases compiled executes inside fits sized valid (members branch inBody) fixed
      branchEncodes far (.refl registers) rfl runs with ⟨equal, -⟩ | ⟨impossible, -⟩
    · exact Option.some.inj equal
    · cases impossible
  · intro levels steps found after runs
    rw [unchecked] at runs
    exact succeedsBehind_iff compiled executes inside fits sized valid members encodes
      (.refl registers) rfl runs

end Branches

/-- The widths of an accepted pattern are right on every subject that is shorter than the greatest
word.  An attempt that succeeds takes no fewer characters than the hints say, and no more than the
greatest number of the width.  Lookbehinds do what their branches say at every position, with all
registers that have a place for each group and whose captures lie within the subject.  So they do
wherever an attempt tries them: a watcher who objects only to lookbehinds that do something else
would never object. -/
theorem attempt_measured {text : List Char} {flags : Flags} {parsed : ParsedPattern}
    {regexp : Regexp} (parses : ParsedPattern.parse text flags = .ok parsed)
    (compiles : Regexp.compile text flags = .ok regexp) {trial : Trial}
    (executes : trial.program = regexp.program)
    (small : trial.subject.size < Width.greatestWord) :
    (∀ position ≤ trial.subject.size, ∀ (before after : Execution) (stop : Nat),
      before.registers.Sized regexp →
      (trial.attempt position).run.run before = (.ok (some stop), after) →
        position ≤ stop ∧ regexp.hints.minLength ≤ stop - position ∧
          ∀ most, parsed.pattern.width.most = some most → stop - position ≤ most) ∧
    (∀ position ≤ trial.subject.size, ∀ registers : Registers, registers.Sized regexp →
      registers.captured.Valid trial.subject →
        ∀ id, trial.LooksBackExactly parsed id position registers) ∧
    ∀ watcher : Watcher, watcher.Lets (trial.LooksBackExactly parsed) →
      ∀ position ≤ trial.subject.size, ∀ before : Execution, before.registers.Sized regexp →
        let watched := (trial.watchedAttempt watcher position).run.run before
        let plain := (trial.attempt position).run.run before
        watched.1 = plain.1 ∧
          watched.2.registers.captured = plain.2.registers.captured := by
  have compiled := Regexp.compiledFrom parses compiles
  have fits := Nat.le_of_lt small
  refine ⟨fun position inside before after stop sized ends => ?_, fun position inside registers
    sized valid id => looksBackExactly compiled executes inside fits sized valid id,
    fun watcher lets position inside before sized => ?_⟩
  · have first := attempt_gives compiled executes inside sized ends
    rw [compiled.hints_eq]
    exact Pattern.outcomes_measured parsed _ compiled.numbered.ordered small inside
      (Captured.valid_nothing _ _) (List.mem_of_mem_head? first.symm)
  · have letsVisits : watcher.Lets (trial.Visited before.registers) :=
      lets.weaken fun id position registers visited =>
        looksBackExactly compiled executes visited.le_size fits (sized.of_alike visited.alike)
          visited.coherent.valid id
    obtain ⟨same, captured, -⟩ := attempt_unnoticed compiled executes inside sized letsVisits
    exact ⟨same, captured⟩

/-- The lookbehind of `(?<=ab|c)dd?` has branches of two widths.  It is exact behind `ab`, where an
attempt takes both of the characters that are left, and no pattern of this width takes more. -/
theorem two_branches_measured :
    ∃ parsed regexp after,
      ParsedPattern.parse ['(', '?', '<', '=', 'a', 'b', '|', 'c', ')', 'd', 'd', '?'] {} =
        .ok parsed ∧
      Regexp.compile ['(', '?', '<', '=', 'a', 'b', '|', 'c', ')', 'd', 'd', '?'] {} = .ok regexp ∧
      ((MatchState.trial regexp ⟨#['a', 'b', 'd', 'd']⟩).attempt 2).run.run
        ⟨.initial regexp.groupCount regexp.program.loopSlots, 0⟩ = (.ok (some 4), after) ∧
      parsed.pattern.width.most = some 2 ∧ regexp.hints.minLength ≤ 4 - 2 ∧ 4 - 2 ≤ 2 ∧
      regexp.program.Holds 5 (.lookBehind [(2, 3), (1, 4)] false 2) ∧
      (MatchState.trial regexp ⟨#['a', 'b', 'd', 'd']⟩).LooksBackExactly parsed 5 2
        (.initial regexp.groupCount regexp.program.loopSlots) := by
  have finds : (Regexp.compile ['(', '?', '<', '=', 'a', 'b', '|', 'c', ')', 'd', 'd', '?']
      {}).toOption.any (fun regexp =>
        (((MatchState.trial regexp ⟨#['a', 'b', 'd', 'd']⟩).attempt 2).run.run
          ⟨.initial regexp.groupCount regexp.program.loopSlots, 0⟩).1.toOption ==
            some (some 4)) = true := by
    decide +kernel
  have looksBack : (Regexp.compile ['(', '?', '<', '=', 'a', 'b', '|', 'c', ')', 'd', 'd', '?']
      {}).toOption.any (fun regexp =>
        regexp.program.nodes[5]? == some (.lookBehind [(2, 3), (1, 4)] false 2)) = true := by
    decide +kernel
  have bounded : (ParsedPattern.parse ['(', '?', '<', '=', 'a', 'b', '|', 'c', ')', 'd', 'd', '?']
      {}).toOption.any (fun parsed => parsed.pattern.width.most == some 2) = true := by
    decide +kernel
  obtain ⟨regexp, after, compiles, ends⟩ := exists_run_of_toOption_any finds
  obtain ⟨parsed, parses, most⟩ := exists_of_toOption_any bounded
  rw [compiles] at looksBack
  have holds : regexp.program.Holds 5 (.lookBehind [(2, 3), (1, 4)] false 2) :=
    eq_of_beq looksBack
  have most := eq_of_beq most
  have executes : (MatchState.trial regexp ⟨#['a', 'b', 'd', 'd']⟩).program = regexp.program := rfl
  have small : 4 < Width.greatestWord := by decide
  have inside : 2 ≤ 4 := by decide
  have sized := Registers.initial_sized regexp
  obtain ⟨bounds, exactly, -⟩ := attempt_measured parses compiles executes small
  obtain ⟨-, least, greatest⟩ := bounds 2 inside ⟨_, 0⟩ after 4 sized ends
  exact ⟨parsed, regexp, after, parses, compiles, ends, most, least, greatest 2 most, holds,
    exactly 2 inside _ sized (Captured.valid_nothing _ _) 5⟩

end Trial

end Backtracking
