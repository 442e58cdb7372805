import Backtracking.Proofs.GroupDepths
import Backtracking.Proofs.Passages

/-!
# Where a pattern may begin and end

The passages of a pattern as far as they can be told without looking at what is captured, and what
stands before or behind.  All outcomes keep within them, so that whatever is known of these passages
holds of every match.
-/

namespace Backtracking

namespace Pattern

mutual

/-- Where a pattern may begin and end.  Lookarounds may hold or not, references may name any text,
and conditionals may choose either part. -/
def mayTake (scene : Scene) : Pattern → Passage
  | .empty | .lookAround _ _ _ _ => .here
  | .char matcher => .char scene.subject matcher
  | .assert assertion => .assertion scene assertion
  | .group _ body | .atomic body => mayTake scene body
  | .concat items => sequenceMayTake scene items
  | .alternation branches => choiceMayTake scene branches
  | .repeated body least most _ => (mayTake scene body).between least most
  | .backReference _ _ _ => fun start stop => start ≤ stop
  | .conditional _ yes no _ => (mayTake scene yes).orElse (mayTake scene no)

def sequenceMayTake (scene : Scene) : List Pattern → Passage
  | [] => .here
  | item :: items => (mayTake scene item).andThen (sequenceMayTake scene items)

def choiceMayTake (scene : Scene) : List Pattern → Passage
  | [] => .never
  | branch :: branches => (mayTake scene branch).orElse (choiceMayTake scene branches)

end

variable (parsed : ParsedPattern) (scene : Scene)

theorem sequenceOutcomes_within {items : List Pattern}
    (within : ∀ item ∈ items,
      (item.outcomes parsed scene).Within scene.subject (item.mayTake scene)) :
    (sequenceOutcomes parsed scene items).Within scene.subject (sequenceMayTake scene items) := by
  induction items with
  | nil => exact Matching.here_within
  | cons item items ih =>
      exact (within item (by simp)).andThen (outcomes_advances parsed scene item)
        (ih fun other member => within other (by simp [member]))

theorem choiceOutcomes_within {branches : List Pattern}
    (within : ∀ branch ∈ branches,
      (branch.outcomes parsed scene).Within scene.subject (branch.mayTake scene)) :
    (choiceOutcomes parsed scene branches).Within scene.subject (choiceMayTake scene branches) := by
  induction branches with
  | nil => exact Matching.never_within _
  | cons branch branches ih =>
      exact (within branch (by simp)).orElse
        (ih fun other member => within other (by simp [member]))

/-- All outcomes of a pattern begin and end where it may. -/
theorem outcomes_within_mayTake {pattern : Pattern}
    (ordered : pattern.Throughout Ordered) :
    (pattern.outcomes parsed scene).Within scene.subject (pattern.mayTake scene) := by
  induction pattern with
  | empty => exact Matching.here_within
  | char matcher => exact Matching.char_within matcher
  | assert assertion => exact Matching.assertion_within scene assertion
  | group index body ih => exact (ih ordered.group).capturing index
  | concat items ih =>
      exact sequenceOutcomes_within parsed scene fun item member =>
        ih item member (ordered.item member)
  | alternation branches ih =>
      exact choiceOutcomes_within parsed scene fun branch member =>
        ih branch member (ordered.branch member)
  | repeated body least most mode ih =>
      exact (ih ordered.repeated).repeated (outcomes_advances parsed scene body) ordered.self mode
  | lookAround direction negated body offset ih branchIH =>
      cases direction with
      | ahead => exact Matching.looking_within_here negated _
      | behind =>
          rw [outcomes_behind]
          exact Matching.looking_within_here negated _
  | atomic body ih => exact (ih ordered.atomic).once
  | backReference target ignoresCase offset =>
      intro position captured inside valid outcome member
      exact (outcomes_advances parsed scene _ position captured inside valid outcome member).le_stop
  | conditional target yes no offset yesIH noIH =>
      simp only [outcomes]
      split
      · exact Matching.never_within _
      · exact (yesIH ordered.yes).ifCaptured (noIH ordered.no) _

end Pattern

end Backtracking
