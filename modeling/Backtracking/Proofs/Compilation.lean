import Backtracking.Proofs.Emission
import Backtracking.Proofs.GroupDepths
import Backtracking.Proofs.GroupNumbers
import Backtracking.Proofs.RegisterUpdates
import Backtracking.Regexp

/-!
# Compiled patterns

What is known of a pattern that was accepted: its groups are numbered in order, its nodes were made,
and the lookbehinds among them have a fixed width.  The limits of the searches may be changed later.
-/

namespace Backtracking

/-- What a test finds of the result of a computation holds of a result. -/
theorem exists_of_toOption_any {error value : Type} {result : Except error value}
    {test : value → Bool} (passes : result.toOption.any test = true) :
    ∃ found, result = .ok found ∧ test found = true := by
  cases result with
  | error failure => cases passes
  | ok found => exact ⟨found, rfl, passes⟩

/-- What a test finds of a run that a result allows is how the run ends. -/
theorem exists_run_of_toOption_any {error failure value answer state : Type} [BEq answer]
    [LawfulBEq answer] {result : Except error value} {run : value → Except failure answer × state}
    {expected : answer}
    (passes : result.toOption.any (fun found => (run found).1.toOption == some expected) = true) :
    ∃ found after, result = .ok found ∧ run found = (.ok expected, after) := by
  obtain ⟨found, succeeds, ends⟩ := exists_of_toOption_any passes
  rcases ran : run found with ⟨_ | given, after⟩ <;> rw [ran] at ends
  · cases ends
  · obtain rfl : given = expected := by simpa [Except.toOption] using ends
    exact ⟨found, after, succeeds, ran⟩

/-- What a test finds of a search that a result allows is how the search ends. -/
theorem exists_found_of_toOption_any {error failure stop value answer state : Type} [BEq answer]
    [LawfulBEq answer] {result : Except error value}
    {search : value → Except stop (Except failure answer × state)} {expected : answer}
    (passes : result.toOption.any (fun found =>
      (search found).toOption.any (·.1.toOption == some expected)) = true) :
    ∃ found after, result = .ok found ∧ search found = .ok (.ok expected, after) := by
  obtain ⟨found, succeeds, ends⟩ := exists_of_toOption_any passes
  obtain ⟨⟨given, after⟩, returns, answers⟩ := exists_of_toOption_any ends
  cases given with
  | error failure => cases answers
  | ok given =>
      obtain rfl : given = expected := by simpa [Except.toOption] using answers
      exact ⟨found, after, succeeds, returns⟩

/-- Every part of a pattern that was read fits on its own. -/
theorem ParsedPattern.Numbered.fits_part {parsed : ParsedPattern} (numbered : parsed.Numbered)
    {part : Pattern} (member : part ∈ parsed.pattern.parts) :
    ∃ groupDepth, part.Fits (parsed.groupCount + 1) groupDepth 0 := by
  have listed := Pattern.parts_sublist member
  have groups : part.groups.Sublist (List.range' 1 parsed.groupCount) := by
    rw [← numbered.groups_eq]
    exact listed.filterMap Pattern.groupIndex?
  have distinct : part.groups.Nodup := List.Nodup.sublist groups List.nodup_range'
  have paired := distinct
  rw [← part.map_fst_groupDepths 0] at paired
  obtain ⟨groupDepth, depths⟩ := Pattern.exists_function paired
  refine ⟨groupDepth, distinct, fun index inside => ?_, depths,
    fun inner inside => numbered.ordered inner (listed.subset inside)⟩
  have bounds := List.mem_range'_1.mp (groups.subset inside)
  omega

theorem ParsedPattern.Numbered.fits {parsed : ParsedPattern} (numbered : parsed.Numbered) :
    ∃ groupDepth, parsed.pattern.Fits (parsed.groupCount + 1) groupDepth 0 :=
  numbered.fits_part parsed.pattern.mem_parts_self

namespace Regexp

/-- A regular expression with the program, the groups and the hints of a parsed pattern. -/
structure CompiledFrom (regexp : Regexp) (parsed : ParsedPattern) : Prop where
  numbered : parsed.Numbered
  made : Program.ofPattern parsed = .ok regexp.program
  groupNames_eq : regexp.groupNames = parsed.groupNames
  hints_eq : regexp.hints = parsed.pattern.hints

variable {text : List Char} {flags : Flags} {parsed : ParsedPattern} {regexp : Regexp}

theorem exists_compiledFrom (compiles : compile text flags = .ok regexp) :
    ∃ parsed, ParsedPattern.parse text flags = .ok parsed ∧ regexp.CompiledFrom parsed := by
  rw [compile] at compiles
  cases parses : ParsedPattern.parse text flags with
  | error error =>
      rw [parses] at compiles
      cases compiles
  | ok parsed =>
      rw [parses] at compiles
      cases made : Program.ofPattern parsed with
      | error error =>
          change (Program.ofPattern parsed >>= _) = _ at compiles
          rw [made] at compiles
          cases compiles
      | ok program =>
          change (Program.ofPattern parsed >>= _) = _ at compiles
          rw [made] at compiles
          cases compiles
          exact ⟨parsed, rfl, ParsedPattern.parse_numbered parses, made, rfl, rfl⟩

theorem compiledFrom (parses : ParsedPattern.parse text flags = .ok parsed)
    (compiles : compile text flags = .ok regexp) : regexp.CompiledFrom parsed := by
  obtain ⟨_, read, compiled⟩ := exists_compiledFrom compiles
  rw [parses] at read
  cases read
  exact compiled

namespace CompiledFrom

variable (compiled : regexp.CompiledFrom parsed)

include compiled

theorem groupCount_eq : regexp.groupCount = parsed.groupCount + 1 :=
  congrArg (·.size + 1) compiled.groupNames_eq

theorem limited (limits : Limits) : { regexp with limits := limits }.CompiledFrom parsed :=
  { compiled with }

/-- The lookbehinds of an accepted pattern have a fixed width. -/
theorem measured : parsed.pattern.Measured := by
  obtain ⟨⟨loopDepth, encodes⟩, -⟩ := Program.ofPattern_encodes compiled.made
  exact encodes.measured

end CompiledFrom

end Regexp

namespace Registers

/-- Registers with a place for each group and each loop of a compiled pattern. -/
structure Sized (regexp : Regexp) (registers : Registers) : Prop where
  captures_size : registers.captures.size = regexp.groupCount
  opened_size : registers.opened.size = regexp.groupCount
  loops_size : registers.loops.size = regexp.program.loopSlots

theorem initial_sized (regexp : Regexp) :
    (initial regexp.groupCount regexp.program.loopSlots).Sized regexp := by
  constructor <;> simp [initial]

theorem Sized.of_alike {regexp : Regexp} {before after : Registers}
    (sized : before.Sized regexp) (alike : after.Alike before) : after.Sized regexp :=
  ⟨alike.captures_size.trans sized.captures_size, alike.opened_size.trans sized.opened_size,
    alike.loops_size.trans sized.loops_size⟩

end Registers

end Backtracking
