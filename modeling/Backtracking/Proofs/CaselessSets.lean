import Backtracking.Proofs.CaseForms

/-!
# Sets that ignore case

A set that ignores case looks for a character and for its two forms among the characters that its
ranges cover.  What it finds equals the character, but it does not find every covered character
that does: the Kelvin sign has the form `k`, which has the forms `k` and `K`.  All are found where
the ranges cover the forms of what they cover.
-/

namespace Backtracking

open CharRange

/-- The ranges cover the forms of the characters that they cover. -/
def CharRange.CaseClosed (ranges : List CharRange) : Prop :=
  ∀ character, covers ranges character = true →
    covers ranges (lowerCase character) = true ∧ covers ranges (upperCase character) = true

namespace CharSet

variable {ranges : List CharRange} {character : Char}

/-- The ranges cover a character or one of its forms. -/
def CoversForm (ranges : List CharRange) (character : Char) : Prop :=
  ∃ member, covers ranges member = true ∧
    (member = character ∨ member = lowerCase character ∨ member = upperCase character)

/-- The ranges cover a character that equals another one without regard to case. -/
def CoversEqual (ranges : List CharRange) (character : Char) : Prop :=
  ∃ member, covers ranges member = true ∧ equalIgnoringCase member character = true

theorem CoversForm.coversEqual (found : CoversForm ranges character) :
    CoversEqual ranges character := by
  obtain ⟨member, covered, rfl | rfl | rfl⟩ := found
  · exact ⟨_, covered, equalIgnoringCase_iff.mpr (.inl rfl)⟩
  · exact ⟨_, covered, equalIgnoringCase_lowerCase character⟩
  · exact ⟨_, covered, equalIgnoringCase_upperCase character⟩

theorem CoversEqual.coversForm (closed : CaseClosed ranges)
    (equal : CoversEqual ranges character) : CoversForm ranges character := by
  obtain ⟨member, covered, equal⟩ := equal
  obtain ⟨lower, upper⟩ := closed member covered
  rcases equalIgnoringCase_iff.mp equal with rfl | same | same
  · exact ⟨_, covered, .inl rfl⟩
  · exact ⟨_, same ▸ lower, .inr (.inl rfl)⟩
  · exact ⟨_, same ▸ upper, .inr (.inr rfl)⟩

theorem contains_iff_coversForm (ranges : List CharRange) (negated : Bool) (character : Char) :
    (ofRanges ranges negated true).contains character = true ↔
      (CoversForm ranges character ↔ negated = false) := by
  have found : CoversForm ranges character ↔ (covers ranges character ||
      (covers ranges (lowerCase character) || covers ranges (upperCase character))) = true := by
    simp only [CoversForm, Bool.or_eq_true]
    constructor
    · rintro ⟨member, covered, rfl | rfl | rfl⟩
      · exact .inl covered
      · exact .inr (.inl covered)
      · exact .inr (.inr covered)
    · rintro (covered | covered | covered)
      · exact ⟨_, covered, .inl rfl⟩
      · exact ⟨_, covered, .inr (.inl rfl)⟩
      · exact ⟨_, covered, .inr (.inr rfl)⟩
  rw [found, contains_ofRanges, Bool.true_and]
  cases negated <;> simp

/-- A set that ignores case has the characters as members of which a form is covered, and these
equal a covered character.  If the forms of covered characters are covered as well, it has all
characters as members that equal a covered one.  A negated set has the others. -/
theorem contains_ignoringCase (ranges : List CharRange) (negated : Bool) (character : Char) :
    ((ofRanges ranges negated true).contains character = true ↔
      (CoversForm ranges character ↔ negated = false)) ∧
    ((ofRanges ranges false true).contains character = true → CoversEqual ranges character) ∧
    (CaseClosed ranges →
      ((ofRanges ranges negated true).contains character = true ↔
        (CoversEqual ranges character ↔ negated = false))) := by
  refine ⟨contains_iff_coversForm ranges negated character, fun accepted => ?_, fun closed => ?_⟩
  · exact (((contains_iff_coversForm ranges false character).mp accepted).mpr rfl).coversEqual
  · have same : CoversForm ranges character ↔ CoversEqual ranges character :=
      ⟨CoversForm.coversEqual, CoversEqual.coversForm closed⟩
    rw [contains_iff_coversForm, same]

/-- The letter `s` is a member with its capital, and so the long s is one, whose capital that is. -/
theorem contains_long_s :
    CaseClosed [.single 's', .single 'S'] ∧
      (ofRanges [.single 's', .single 'S'] false true).contains '\u017F' = true := by
  have closed : CaseClosed [.single 's', .single 'S'] := by
    intro character covered
    simp only [covers_cons, contains_single, covers_nil, Bool.or_false, Bool.or_eq_true,
      beq_iff_eq] at covered
    rcases covered with rfl | rfl <;> decide
  have known := (contains_ignoringCase [.single 's', .single 'S'] false '\u017F').2.2 closed
  exact ⟨closed, known.mpr ⟨fun _ => rfl, fun _ => ⟨'s', by decide, by decide +kernel⟩⟩⟩

/-- The Kelvin sign equals its lower case form, but a set of the sign does not have the form as a
member. -/
theorem kelvin_form_excluded :
    ¬ ((ofRanges [.single '\u212A'] false true).contains 'k' = true ↔
      CoversEqual [.single '\u212A'] 'k') := by
  have equal : CoversEqual [.single '\u212A'] 'k' := ⟨'\u212A', by decide, by decide +kernel⟩
  rw [contains_ofRanges]
  intro same
  exact absurd (same.mpr equal) (by decide +kernel)

end CharSet

end Backtracking
