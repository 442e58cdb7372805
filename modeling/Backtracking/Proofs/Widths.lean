import Backtracking.Proofs.PossiblePassages

/-!
# Widths bound passages

The width of a pattern bounds the number of characters between the positions where it begins and
ends.  A greatest number that does not fit a machine word was replaced by the greatest word, and
bounds nothing then; the least number bounds every passage even so.
-/

namespace Backtracking

namespace Width

/-- A number of characters lies between the bounds of a width. -/
structure Bounds (width : Width) (length : Nat) : Prop where
  least_le : width.least ≤ length
  le_most : ∀ most, width.most = some most → most < greatestWord → length ≤ most

variable {left right : Width} {leftLength rightLength length : Nat}

theorem zero_bounds : zero.Bounds 0 := ⟨Nat.le_refl 0, fun _ _ _ => Nat.zero_le _⟩

theorem Bounds.append (first : left.Bounds leftLength) (second : right.Bounds rightLength) :
    (left.append right).Bounds (leftLength + rightLength) where
  least_le := Nat.le_trans (Nat.min_le_right _ _) (Nat.add_le_add first.least_le second.least_le)
  le_most most equal fits := by
    simp only [Width.append] at equal
    split at equal
    · next leftMost rightMost leftEqual rightEqual =>
        cases equal
        have sum : leftMost + rightMost < greatestWord := by
          simp only [add] at fits
          omega
        have leftLe := first.le_most leftMost leftEqual (by omega)
        have rightLe := second.le_most rightMost rightEqual (by omega)
        simp only [add]
        omega
    · cases equal

theorem Bounds.either_left (bounds : left.Bounds length) (right : Width) :
    (left.either right).Bounds length where
  least_le := Nat.le_trans (Nat.min_le_left _ _) bounds.least_le
  le_most most equal fits := by
    simp only [either] at equal
    split at equal
    · next leftMost rightMost leftEqual _ =>
        cases equal
        have leftLe := bounds.le_most leftMost leftEqual (by omega)
        omega
    · cases equal

theorem Bounds.either_right (bounds : right.Bounds length) (left : Width) :
    (left.either right).Bounds length where
  least_le := Nat.le_trans (Nat.min_le_right _ _) bounds.least_le
  le_most most equal fits := by
    simp only [either] at equal
    split at equal
    · next leftMost rightMost _ rightEqual =>
        cases equal
        have rightLe := bounds.le_most rightMost rightEqual (by omega)
        omega
    · cases equal

end Width

namespace Passage

/-- The number of characters in a passage lies between the bounds of a width. -/
def Bounded (passage : Passage) (width : Width) : Prop :=
  ∀ start stop, passage start stop → ∃ length, stop = start + length ∧ width.Bounds length

variable {first second body : Passage} {left right width : Width}

theorem here_bounded : here.Bounded .zero := by
  rintro start _ rfl
  exact ⟨0, rfl, Width.zero_bounds⟩

theorem Bounded.andThen (begins : first.Bounded left) (follows : second.Bounded right) :
    (first.andThen second).Bounded (left.append right) := by
  rintro start stop ⟨middle, begun, followed⟩
  obtain ⟨leftLength, rfl, leftBounds⟩ := begins start middle begun
  obtain ⟨rightLength, rfl, rightBounds⟩ := follows _ stop followed
  exact ⟨leftLength + rightLength, Nat.add_assoc .., leftBounds.append rightBounds⟩

theorem Bounded.orElse (preferred : first.Bounded left) (other : second.Bounded right) :
    (first.orElse second).Bounded (left.either right) := by
  rintro start stop (chosen | chosen)
  · obtain ⟨length, equal, bounds⟩ := preferred start stop chosen
    exact ⟨length, equal, bounds.either_left right⟩
  · obtain ⟨length, equal, bounds⟩ := other start stop chosen
    exact ⟨length, equal, bounds.either_right left⟩

theorem Bounded.power (bounded : body.Bounded width) {count start stop : Nat}
    (powers : body.power count start stop) :
    ∃ length, stop = start + length ∧ width.least * count ≤ length ∧
      ∀ most, width.most = some most → most < Width.greatestWord → length ≤ most * count := by
  induction count generalizing start with
  | zero =>
      cases powers
      exact ⟨0, rfl, Nat.le_refl _, fun _ _ _ => Nat.zero_le _⟩
  | succ count ih =>
      obtain ⟨middle, begins, follows⟩ := powers
      obtain ⟨taken, rfl, bounds⟩ := bounded start middle begins
      obtain ⟨rest, rfl, least, greatest⟩ := ih follows
      refine ⟨taken + rest, Nat.add_assoc .., ?_, fun most equal fits => ?_⟩
      · have taken := bounds.least_le
        rw [Nat.mul_succ]
        omega
      · have taken := bounds.le_most most equal fits
        have rest := greatest most equal fits
        rw [Nat.mul_succ]
        omega

theorem Bounded.between (bounded : body.Bounded width) (least : Nat) (most : Option Nat) :
    (body.between least most).Bounded (width.times least most) := by
  rintro start stop ⟨count, enough, below, powers⟩
  obtain ⟨length, rfl, atLeast, atMost⟩ := bounded.power powers
  refine ⟨length, rfl, ?_, fun greatest equal fits => ?_⟩
  · have fewer : width.least * least ≤ width.least * count := Nat.mul_le_mul_left _ enough
    simp only [Width.times, Width.mul]
    omega
  · simp only [Width.times] at equal
    split at equal
    · next nothing =>
        cases equal
        simpa using atMost 0 nothing fits
    · next bodyMost mostTimes _ known =>
        cases equal
        have product : bodyMost * mostTimes < Width.greatestWord := by
          simp only [Width.mul] at fits
          omega
        have few := below mostTimes rfl
        simp only [Width.mul, Nat.min_eq_right (Nat.le_of_lt product)]
        rcases Nat.eq_zero_or_pos mostTimes with never | some
        · obtain rfl : count = 0 := by omega
          have empty : start = start + length := powers
          omega
        · have single : bodyMost ≤ bodyMost * mostTimes := Nat.le_mul_of_pos_right _ some
          have counted := atMost bodyMost known (by omega)
          exact Nat.le_trans counted (Nat.mul_le_mul_left _ few)
    · cases equal

end Passage

namespace Pattern

variable (scene : Scene)

theorem choiceMayTake_bounded {branches : List Pattern}
    (bounded : ∀ branch ∈ branches, (branch.mayTake scene).Bounded branch.width) :
    (choiceMayTake scene branches).Bounded (choiceWidth branches) := by
  induction branches with
  | nil => exact fun _ _ impossible => impossible.elim
  | cons branch branches ih =>
      cases branches with
      | nil =>
          rintro start stop (chosen | impossible)
          · exact bounded branch (by simp) start stop chosen
          · exact impossible.elim
      | cons second rest =>
          exact (bounded branch (by simp)).orElse
            (ih fun other member => bounded other (List.mem_cons_of_mem _ member))

/-- The width of a pattern bounds the number of characters that it takes. -/
theorem mayTake_bounded (pattern : Pattern) : (pattern.mayTake scene).Bounded pattern.width := by
  induction pattern with
  | empty => exact Passage.here_bounded
  | char matcher =>
      rintro start _ ⟨-, rfl⟩
      exact ⟨1, rfl, Nat.le_refl 1, fun most equal _ => by cases equal; exact Nat.le_refl 1⟩
  | assert assertion =>
      rintro start stop ⟨-, equal⟩
      exact Passage.here_bounded start stop equal
  | group index body ih => exact ih
  | concat items ih =>
      show (sequenceMayTake scene items).Bounded (sequenceWidth items)
      induction items with
      | nil => exact Passage.here_bounded
      | cons item items rest =>
          exact (ih item (by simp)).andThen (rest fun other member => ih other (by simp [member]))
  | alternation branches ih => exact choiceMayTake_bounded scene ih
  | repeated body least most mode ih => exact ih.between least most
  | lookAround direction negated body offset => exact Passage.here_bounded
  | atomic body ih => exact ih
  | backReference target ignoresCase offset =>
      intro start stop (taken : start ≤ stop)
      exact ⟨stop - start, by omega, Nat.zero_le _, fun _ impossible _ => by cases impossible⟩
  | conditional target yes no offset yesIH noIH => exact yesIH.orElse noIH

/-- The least number is a machine word. -/
theorem width_least_le (pattern : Pattern) : pattern.width.least ≤ Width.greatestWord := by
  have both (left right : Width) (le : left.least ≤ Width.greatestWord) :
      (left.either right).least ≤ Width.greatestWord :=
    Nat.le_trans (Nat.min_le_left _ _) le
  induction pattern with
  | empty | assert | lookAround | backReference => exact Nat.zero_le _
  | char => exact (by decide : 1 ≤ Width.greatestWord)
  | group _ _ ih | atomic _ ih => exact ih
  | concat items =>
      show (sequenceWidth items).least ≤ Width.greatestWord
      cases items with
      | nil => exact Nat.zero_le _
      | cons => exact Nat.min_le_left _ _
  | alternation branches ih =>
      show (choiceWidth branches).least ≤ Width.greatestWord
      match branches with
      | [] => exact Nat.zero_le _
      | [branch] => exact ih branch (by simp)
      | branch :: _ :: _ => exact both _ _ (ih branch (by simp))
  | repeated => exact Nat.min_le_left _ _
  | conditional _ _ _ _ yesIH _ => exact both _ _ yesIH

/-- On a subject whose positions are machine words, all outcomes of a pattern of fixed width take as
many characters. -/
theorem outcomes_fixed (parsed : ParsedPattern) {pattern : Pattern}
    (ordered : pattern.Throughout Ordered) (fits : scene.subject.size ≤ Width.greatestWord)
    {width : Nat} (fixed : pattern.fixedWidth? = some width) :
    (pattern.outcomes parsed scene).Within scene.subject fun start stop =>
      stop = start + width := by
  intro position captured inside valid outcome member
  have extended :=
    outcomes_advances parsed scene pattern position captured inside valid outcome member
  have taken :=
    outcomes_within_mayTake parsed scene ordered position captured inside valid outcome member
  obtain ⟨length, stops, bounds⟩ := mayTake_bounded scene pattern _ _ taken
  have reached := extended.stop_le
  have atLeast := bounds.least_le
  simp only [fixedWidth?, Width.fixed?] at fixed
  split at fixed
  · next same =>
      cases fixed
      by_cases exactly : pattern.width.least < Width.greatestWord
      · have atMost := bounds.le_most _ same exactly
        omega
      · omega
  · cases fixed

end Pattern

end Backtracking
