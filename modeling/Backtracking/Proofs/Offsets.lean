import Backtracking.Proofs.Outcomes

/-!
# Patterns without the places where they were written

References, conditionals and lookarounds remember where they were written.  What a pattern matches,
and how many characters it takes, has nothing to do with that.
-/

namespace Backtracking

namespace Pattern

mutual

/-- The pattern that was written in one place, at position zero. -/
def withoutOffsets : Pattern → Pattern
  | .empty => .empty
  | .char matcher => .char matcher
  | .assert assertion => .assert assertion
  | .group index body => .group index (withoutOffsets body)
  | .concat items => .concat (allWithoutOffsets items)
  | .alternation branches => .alternation (allWithoutOffsets branches)
  | .repeated body least most mode => .repeated (withoutOffsets body) least most mode
  | .lookAround direction negated body _ => .lookAround direction negated (withoutOffsets body) 0
  | .atomic body => .atomic (withoutOffsets body)
  | .backReference target ignoresCase _ => .backReference target ignoresCase 0
  | .conditional target yes no _ =>
      .conditional target (withoutOffsets yes) (withoutOffsets no) 0

/-- The patterns of a list that were written in one place, at position zero. -/
def allWithoutOffsets : List Pattern → List Pattern
  | [] => []
  | pattern :: patterns => withoutOffsets pattern :: allWithoutOffsets patterns

end

theorem allWithoutOffsets_eq_map (patterns : List Pattern) :
    allWithoutOffsets patterns = patterns.map withoutOffsets := by
  induction patterns with
  | nil => rfl
  | cons pattern patterns ih => rw [allWithoutOffsets, ih, List.map_cons]

theorem branches_withoutOffsets (pattern : Pattern) :
    pattern.withoutOffsets.branches = pattern.branches.map withoutOffsets := by
  cases pattern
  case alternation branches => exact allWithoutOffsets_eq_map branches
  all_goals rfl

theorem width_withoutOffsets (pattern : Pattern) :
    pattern.withoutOffsets.width = pattern.width := by
  induction pattern with
  | empty => rfl
  | char matcher => rfl
  | assert assertion => rfl
  | group index body ih => exact ih
  | concat items ih =>
      show sequenceWidth (allWithoutOffsets items) = sequenceWidth items
      induction items with
      | nil => rfl
      | cons item items rest =>
          rw [allWithoutOffsets, sequenceWidth, sequenceWidth, ih item (by simp),
            rest fun other member => ih other (by simp [member])]
  | alternation branches ih =>
      show choiceWidth (allWithoutOffsets branches) = choiceWidth branches
      induction branches with
      | nil => rfl
      | cons branch branches rest =>
          have later := rest fun other member => ih other (by simp [member])
          cases branches with
          | nil => exact ih branch (by simp)
          | cons second others =>
              show (width _).either (choiceWidth _) = (width _).either (choiceWidth _)
              rw [ih branch (by simp)]
              exact congrArg _ later
  | repeated body least most mode ih => rw [withoutOffsets, width, width, ih]
  | lookAround direction negated body offset ih branchIH => rfl
  | atomic body ih => exact ih
  | backReference target ignoresCase offset => rfl
  | conditional target yes no offset yesIH noIH => rw [withoutOffsets, width, width, yesIH, noIH]

variable {first second : ParsedPattern} (sameGroups : first.groupNames = second.groupNames)
  (scene : Scene)

include sameGroups in
theorem group?_eq (target : GroupRef) : first.group? target = second.group? target := by
  have sameCount : first.groupCount = second.groupCount := congrArg Array.size sameGroups
  cases target with
  | number group => rw [ParsedPattern.group?, ParsedPattern.group?, sameCount]
  | name name =>
      rw [ParsedPattern.group?, ParsedPattern.group?, ParsedPattern.groupNumber?, sameGroups,
        ← ParsedPattern.groupNumber?]

include sameGroups in
/-- A pattern matches in the same ways wherever it was written, and next to whatever else, if its
references name the same groups. -/
theorem outcomes_withoutOffsets (pattern : Pattern) :
    pattern.withoutOffsets.outcomes first scene = pattern.outcomes second scene := by
  induction pattern with
  | empty => rfl
  | char matcher => rfl
  | assert assertion => rfl
  | group index body ih => rw [withoutOffsets, outcomes, outcomes, ih]
  | concat items ih =>
      show sequenceOutcomes first scene (allWithoutOffsets items) =
        sequenceOutcomes second scene items
      induction items with
      | nil => rfl
      | cons item items rest =>
          rw [allWithoutOffsets, sequenceOutcomes, sequenceOutcomes, ih item (by simp),
            rest fun other member => ih other (by simp [member])]
  | alternation branches ih =>
      show choiceOutcomes first scene (allWithoutOffsets branches) =
        choiceOutcomes second scene branches
      induction branches with
      | nil => rfl
      | cons branch branches rest =>
          rw [allWithoutOffsets, choiceOutcomes, choiceOutcomes, ih branch (by simp),
            rest fun other member => ih other (by simp [member])]
  | repeated body least most mode ih => rw [withoutOffsets, outcomes, outcomes, ih]
  | lookAround direction negated body offset ih branchIH =>
      cases direction with
      | ahead => rw [withoutOffsets, outcomes, outcomes, ih]
      | behind =>
          rw [withoutOffsets, outcomes_behind, outcomes_behind, branches_withoutOffsets]
          congr 1
          generalize body.branches = branches at branchIH
          induction branches with
          | nil => rfl
          | cons branch branches rest =>
              rw [List.map_cons, outcomesBehind, outcomesBehind, width_withoutOffsets,
                branchIH branch (by simp),
                rest fun other member => branchIH other (by simp [member])]
  | atomic body ih => rw [withoutOffsets, outcomes, outcomes, ih]
  | backReference target ignoresCase offset =>
      rw [withoutOffsets, outcomes, outcomes, group?_eq sameGroups]
  | conditional target yes no offset yesIH noIH =>
      rw [withoutOffsets, outcomes, outcomes, group?_eq sameGroups, yesIH, noIH]

end Pattern

end Backtracking
