import Backtracking.Proofs.CaseForms
import Backtracking.Proofs.EscapedTexts

/-!
# Texts that are matched without regard to case

A text that is compiled with the flag for case matches where each of its characters equals that of
the subject, with one exception.  The sharp s has no case forms of its own, as its capital is of two
letters, and so it is compared exactly; but it is the lower case form of another capital, which
equals it.  There are some Greek letters of this kind, and none within ASCII.
-/

namespace Backtracking

open Spelling

/-- A character has no case forms and is one of another character. -/
def IsHiddenForm (character : Char) : Prop :=
  hasCaseForms character = false ∧
    ∃ other, other ≠ character ∧ (lowerCase other = character ∨ upperCase other = character)

section Literals

variable {expected character : Char}

theorem forms_of_hasCaseForms_eq_false (formless : hasCaseForms expected = false) :
    lowerCase expected = expected ∧ upperCase expected = expected := by
  simpa [hasCaseForms] using formless

/-- A character that has no case forms and is none of another one equals nothing else. -/
theorem eq_of_equalIgnoringCase (formless : hasCaseForms expected = false)
    (unhidden : ¬ IsHiddenForm expected)
    (equal : equalIgnoringCase character expected = true) : character = expected := by
  obtain ⟨lower, upper⟩ := forms_of_hasCaseForms_eq_false formless
  by_contra other
  apply unhidden
  refine ⟨formless, character, other, ?_⟩
  rcases equalIgnoringCase_iff.mp equal with same | same | same
  · exact absurd same other
  · exact .inl (same.trans lower)
  · exact .inr (same.trans upper)

/-- A literal that ignores case accepts what equals its character, and nothing but the character
itself if this has no case forms. -/
theorem CharMatcher.accepts_literal :
    (literal expected true).accepts character = true ↔
      equalIgnoringCase character expected = true ∧
        (hasCaseForms expected = true ∨ character = expected) := by
  rw [literal, Bool.true_and]
  split
  · next forms => simp [accepts, forms]
  · next formless =>
      simp only [accepts, beq_iff_eq, formless]
      constructor
      · rintro rfl
        exact ⟨equalIgnoringCase_iff.mpr (.inl rfl), .inr rfl⟩
      · rintro ⟨-, impossible | same⟩
        · cases impossible
        · exact same

theorem CharMatcher.accepts_literal_of_unhidden (unhidden : ¬ IsHiddenForm expected) :
    (literal expected true).accepts character = true ↔
      equalIgnoringCase character expected = true := by
  rw [accepts_literal, and_iff_left_iff_imp]
  intro equal
  cases formless : hasCaseForms expected with
  | true => exact .inl rfl
  | false => exact .inr (eq_of_equalIgnoringCase formless unhidden equal)

end Literals

/-! ## Hidden forms -/

/-- No character within ASCII is a form of another one without having forms. -/
theorem not_isHiddenForm_of_ascii {character : Char} (ascii : character.toNat < 128) :
    ¬ IsHiddenForm character := by
  rintro ⟨formless, other, different, rfl | rfl⟩
  · rw [hasCaseForms_lowerCase different.symm ascii] at formless
    cases formless
  · rw [hasCaseForms_upperCase different.symm ascii] at formless
    cases formless

/-! ## Texts -/

/-- The characters of a subject from a position on agree with those of a text. -/
def Subject.AgreesAt (subject : Subject) (agree : Char → Char → Prop) (text : List Char)
    (position : Nat) : Prop :=
  position + text.length ≤ subject.size ∧ ∀ index, ∀ within : index < text.length,
    ∃ character, subject.char? (position + index) = some character ∧ agree character text[index]

theorem Subject.acceptsAllAt_literals {subject : Subject} {text : List Char} {position : Nat} :
    (position ≤ subject.size ∧
      subject.acceptsAllAt (CharMatcher.literals true text) position = true) ↔
      subject.AgreesAt (fun character expected =>
        (CharMatcher.literal expected true).accepts character = true) text position := by
  have each (index : Nat) (within : index < text.length) :
      subject.acceptsAt (CharMatcher.literal text[index] true) (position + index) = true ↔
        ∃ character, subject.char? (position + index) = some character ∧
          (CharMatcher.literal text[index] true).accepts character = true := acceptsAt_iff
  constructor
  · rintro ⟨inside, accepts⟩
    have fits := le_size_of_acceptsAllAt inside accepts
    refine ⟨by simpa [CharMatcher.literals] using fits, fun index within => ?_⟩
    have known := acceptsAllAt_iff.mp accepts index (by simpa [CharMatcher.literals] using within)
    exact (each index within).mp (by simpa [CharMatcher.literals] using known)
  · rintro ⟨fits, agrees⟩
    refine ⟨Nat.le_trans (Nat.le_add_right _ _) fits, acceptsAllAt_iff.mpr fun index within => ?_⟩
    have listed : index < text.length := by simpa [CharMatcher.literals] using within
    have known := (each index listed).mpr (agrees index listed)
    simpa [CharMatcher.literals] using known

theorem Subject.agreesAt_congr {subject : Subject} {text : List Char} {position : Nat}
    {agree agreeToo : Char → Char → Prop}
    (same : ∀ expected ∈ text, ∀ character,
      agree character expected ↔ agreeToo character expected) :
    subject.AgreesAt agree text position ↔ subject.AgreesAt agreeToo text position := by
  refine and_congr_right fun _ => forall_congr' fun index => forall_congr' fun within => ?_
  exact exists_congr fun character =>
    and_congr_right fun _ => same _ (List.getElem_mem within) character

namespace MatchState

/-- An escaped text is compiled, and with the flag for case it matches at a position where the
characters of the subject equal its characters without regard to case, and are the same for those
that have no case forms.  Unless one of these is a case form of another character, this is where all
characters are equal without regard to case.  A match ends behind as many characters. -/
theorem exec_escaped_ignoringCase (text : List Char) {flags : Flags}
    (ignores : flags.ignoreCase = true) :
    ∃ regexp, Regexp.compile (escaped text) flags = .ok regexp ∧
      ∀ limits : Limits, limits.maxSteps = none → ∀ subject state,
        Reachable { regexp with limits := limits } subject state → ∀ position,
          ∃ answer after,
            exec { regexp with limits := limits } subject position state = (.ok answer, after) ∧
            Tells (subject.AgreesAt (fun character expected =>
                equalIgnoringCase character expected = true ∧
                  (hasCaseForms expected = true ∨ character = expected)) text position)
              position text.length answer after ∧
            ((∀ expected ∈ text, ¬ IsHiddenForm expected) →
              Tells (subject.AgreesAt (equalIgnoringCase · · = true) text position)
                position text.length answer after) := by
  obtain ⟨regexp, compiles, known⟩ := exec_escaped text flags
  rw [ignores] at known
  refine ⟨regexp, compiles, fun limits unlimited subject state reachable position => ?_⟩
  obtain ⟨answer, after, ends, tells⟩ := known limits unlimited subject state reachable position
  have accepted := tells.congr Subject.acceptsAllAt_literals
  refine ⟨answer, after, ends, ?_, fun unhidden => ?_⟩
  · exact accepted.congr (Subject.agreesAt_congr fun _ _ _ => CharMatcher.accepts_literal)
  · refine accepted.congr (Subject.agreesAt_congr fun expected member character => ?_)
    exact CharMatcher.accepts_literal_of_unhidden (unhidden expected member)

/-- The text `k!` stands where there is a Kelvin sign, whose lower case form is `k`. -/
theorem exec_kelvin_sign :
    ∃ regexp after, Regexp.compile (escaped ['k', '!']) { ignoreCase := true } = .ok regexp ∧
      exec { regexp with limits := {} } ⟨#['\u212A', '!']⟩ 0 (.initial regexp) =
        (.ok (some 0), after) ∧
      after.span? 0 = some ⟨0, 2⟩ := by
  have ignores : Flags.ignoreCase { ignoreCase := true } = true := rfl
  obtain ⟨regexp, compiles, known⟩ := exec_escaped_ignoringCase ['k', '!'] ignores
  obtain ⟨answer, after, ends, -, tells⟩ :=
    known {} rfl ⟨#['\u212A', '!']⟩ (.initial regexp) .initial 0
  have unhidden : ∀ expected ∈ ['k', '!'], ¬ IsHiddenForm expected := by
    intro expected member
    have ascii := List.all_eq_true.mp (show ['k', '!'].all (·.toNat < 128) = true from rfl)
    exact not_isHiddenForm_of_ascii (by simpa using ascii expected member)
  have equal : equalIgnoringCase '\u212A' 'k' = true := by decide +kernel
  have stands :
      Subject.AgreesAt ⟨#['\u212A', '!']⟩ (equalIgnoringCase · · = true) ['k', '!'] 0 := by
    refine ⟨Nat.le_refl 2, fun index within => ?_⟩
    rcases index with _ | _ | index
    · exact ⟨'\u212A', rfl, equal⟩
    · exact ⟨'!', rfl, rfl⟩
    · have within : index + 2 < 2 := within
      omega
  obtain ⟨rfl, span⟩ := (tells unhidden).holds stands
  exact ⟨regexp, after, compiles, ends, span⟩

/-- The sharp s equals its capital without regard to case, but does not match it. -/
theorem exec_sharp_s :
    ∃ regexp after, Regexp.compile (escaped ['\u00DF']) { ignoreCase := true } = .ok regexp ∧
      exec regexp ⟨#['\u1E9E']⟩ 0 (.initial regexp) = (.ok none, after) ∧
      Subject.AgreesAt ⟨#['\u1E9E']⟩ (equalIgnoringCase · · = true) ['\u00DF'] 0 := by
  have fails : (Regexp.compile (escaped ['\u00DF']) { ignoreCase := true }).toOption.any
      (fun regexp => (exec regexp ⟨#['\u1E9E']⟩ 0 (.initial regexp)).1.toOption == some none) =
        true := by
    decide +kernel
  have equal : equalIgnoringCase '\u1E9E' '\u00DF' = true := by decide +kernel
  obtain ⟨regexp, after, compiles, ends⟩ := exists_run_of_toOption_any fails
  refine ⟨regexp, after, compiles, ends, Nat.le_refl 1, fun index within => ?_⟩
  rcases index with _ | index
  · exact ⟨'\u1E9E', rfl, equal⟩
  · simp at within

end MatchState

end Backtracking
