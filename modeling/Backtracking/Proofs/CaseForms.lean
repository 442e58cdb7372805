import Backtracking.Chars.Matcher
import Backtracking.Proofs.RangeLists

/-!
# Case forms

The case form of a case form is the form itself, so that a character equals both of its forms when
case is ignored.  This is checked on the tables: no run maps a character to one that is mapped in
turn.
-/

namespace Backtracking

namespace CaseRun

variable {runs : List CaseRun} {run other : CaseRun} {character : Char}

/-- The greatest code point that a run maps to. -/
def greatest (run : CaseRun) : Nat := run.target + (run.last - run.first)

/-- Whether the code points that a run maps to lie beside those that another one maps, or between
them. -/
def avoids (run other : CaseRun) : Bool :=
  run.greatest.blt other.first || other.last.blt run.target ||
    other.stride == 2 && (run.stride == 2 || run.first == run.last) &&
      (run.target + other.first) % 2 == 1

/-- Whether all code points that a run maps to are characters. -/
def isProper (run : CaseRun) : Bool :=
  run.greatest.blt 0xD800 || (0xE000).ble run.target && run.greatest.blt 0x110000

/-- Whether characters are mapped to others that are not mapped. -/
def settled (runs : List CaseRun) : Bool :=
  runs.all fun run => run.isProper && runs.all run.avoids

/-- Whether only runs of one character lead to ASCII, and to what meets a condition. -/
def landsIn (runs : List CaseRun) (condition : Char → Bool) : Bool :=
  runs.all fun run =>
    (128).ble run.target || run.first == run.last && condition (Char.ofNat run.target)

theorem settled_toLowercase : settled toLowercase = true := by decide +kernel

theorem settled_toUppercase : settled toUppercase = true := by decide +kernel

theorem covers_iff {code : Nat} :
    run.covers code = true ↔
      run.first ≤ code ∧ code ≤ run.last ∧ (code - run.first) % run.stride = 0 := by
  simp [covers, and_assoc]

theorem map_cases (runs : List CaseRun) (character : Char) :
    map runs character = character ∨ ∃ run ∈ runs, run.covers character.toNat = true ∧
      map runs character = Char.ofNat (run.target + (character.toNat - run.first)) := by
  rw [map]
  split
  · next run found =>
      have covered : run.covers character.toNat = true :=
        List.find?_some (p := fun other : CaseRun => other.covers character.toNat) found
      exact .inr ⟨run, List.mem_of_find?_eq_some found, covered, rfl⟩
  · exact .inl rfl

theorem toNat_image (proper : run.isProper = true) (covered : run.covers character.toNat = true) :
    (Char.ofNat (run.target + (character.toNat - run.first))).toNat =
      run.target + (character.toNat - run.first) := by
  obtain ⟨above, below, -⟩ := covers_iff.mp covered
  apply CharRange.toNat_ofNat
  simp only [isProper, greatest, Bool.or_eq_true, Bool.and_eq_true, Nat.blt_eq, Nat.ble_eq]
    at proper
  rw [Nat.isValidChar]
  omega

theorem not_covers_of_avoids (avoids : run.avoids other = true)
    (covered : run.covers character.toNat = true) :
    other.covers (run.target + (character.toNat - run.first)) = false := by
  obtain ⟨above, below, aligned⟩ := covers_iff.mp covered
  simp only [CaseRun.avoids, greatest, Bool.or_eq_true, Bool.and_eq_true, Nat.blt_eq, beq_iff_eq]
    at avoids
  rw [← Bool.not_eq_true, covers_iff]
  rintro ⟨from_first, to_last, alignedToo⟩
  obtain (beside | beside) | ⟨⟨stride, step⟩, odd⟩ := avoids
  · omega
  · omega
  · -- Both are every other code point, from an even and from an odd one.
    rw [stride] at alignedToo
    rcases step with step | single
    · rw [step] at aligned
      omega
    · omega

theorem map_map (settles : settled runs = true) (character : Char) :
    map runs (map runs character) = map runs character := by
  obtain same | ⟨run, member, covered, image⟩ := map_cases runs character
  · rw [same, same]
  · have known := List.all_eq_true.mp settles run member
    simp only [Bool.and_eq_true] at known
    obtain ⟨proper, avoidsAll⟩ := known
    rw [image]
    obtain same | ⟨other, otherMember, otherCovers, -⟩ := map_cases runs
      (Char.ofNat (run.target + (character.toNat - run.first)))
    · exact same
    · rw [toNat_image proper covered] at otherCovers
      have avoids := List.all_eq_true.mp avoidsAll other otherMember
      rw [not_covers_of_avoids avoids covered] at otherCovers
      cases otherCovers

/-- An image within ASCII of another character is one that a run leads to. -/
theorem map_of_low {condition : Char → Bool} (settles : settled runs = true)
    (lands : landsIn runs condition = true) (moved : map runs character ≠ character)
    (low : (map runs character).toNat < 128) : condition (map runs character) = true := by
  obtain same | ⟨run, member, covered, image⟩ := map_cases runs character
  · exact absurd same moved
  · have proper : run.isProper = true :=
      (Bool.and_eq_true_iff.mp (List.all_eq_true.mp settles run member)).1
    have bounds := covers_iff.mp covered
    rw [image, toNat_image proper covered] at low
    have landed := List.all_eq_true.mp lands run member
    simp only [Bool.or_eq_true, Bool.and_eq_true, Nat.ble_eq, beq_iff_eq] at landed
    obtain beyond | ⟨single, holds⟩ := landed
    · omega
    · rw [image, show run.target + (character.toNat - run.first) = run.target by omega]
      exact holds

end CaseRun

/-! ## Forms of forms -/

/-- The form of a character, where one function is for ASCII and runs are for what is beyond. -/
def formWith (ascii : Char → Char) (runs : List CaseRun) (character : Char) : Char :=
  if character.toNat < 128 then ascii character else CaseRun.map runs character

section Forms

variable {ascii : Char → Char} {runs : List CaseRun} {character left right : Char}

/-- A form is its own form, if this is so within ASCII and the runs that lead there come down to
such a form. -/
theorem formWith_formWith (settles : CaseRun.settled runs = true)
    (within : ∀ code < 128, (ascii (Char.ofNat code)).toNat < 128 ∧
      ascii (ascii (Char.ofNat code)) = ascii (Char.ofNat code))
    (lands : CaseRun.landsIn runs (fun landed => ascii landed == landed) = true)
    (character : Char) :
    formWith ascii runs (formWith ascii runs character) = formWith ascii runs character := by
  by_cases low : character.toNat < 128
  · have known := within character.toNat low
    rw [Char.ofNat_toNat] at known
    simp [formWith, low, known]
  · have image : formWith ascii runs character = CaseRun.map runs character := by
      rw [formWith, if_neg low]
    rw [image, formWith]
    split
    · next landed =>
        have moved : CaseRun.map runs character ≠ character := fun same => low (same ▸ landed)
        have fixed := CaseRun.map_of_low settles lands moved landed
        exact beq_iff_eq.mp fixed
    · exact CaseRun.map_map settles character

/-- A form within ASCII of another character has case forms, if this is so for the forms of ASCII
and for those that the runs lead to. -/
theorem hasCaseForms_formWith (settles : CaseRun.settled runs = true)
    (within : ∀ code < 128, ascii (Char.ofNat code) = Char.ofNat code ∨
      hasCaseForms (ascii (Char.ofNat code)) = true)
    (lands : CaseRun.landsIn runs hasCaseForms = true)
    (moved : formWith ascii runs character ≠ character)
    (low : (formWith ascii runs character).toNat < 128) :
    hasCaseForms (formWith ascii runs character) = true := by
  by_cases here : character.toNat < 128
  · have known := within character.toNat here
    rw [Char.ofNat_toNat] at known
    rw [formWith, if_pos here] at moved ⊢
    exact known.resolve_left moved
  · rw [formWith, if_neg here] at moved low ⊢
    exact CaseRun.map_of_low settles lands moved low

theorem lowerCase_lowerCase (character : Char) :
    lowerCase (lowerCase character) = lowerCase character :=
  formWith_formWith CaseRun.settled_toLowercase (by decide) (by decide +kernel) character

theorem upperCase_upperCase (character : Char) :
    upperCase (upperCase character) = upperCase character :=
  formWith_formWith CaseRun.settled_toUppercase (by decide) (by decide +kernel) character

/-- A form within ASCII of another character has case forms. -/
theorem hasCaseForms_lowerCase (moved : lowerCase character ≠ character)
    (low : (lowerCase character).toNat < 128) : hasCaseForms (lowerCase character) = true :=
  hasCaseForms_formWith CaseRun.settled_toLowercase (by decide) (by decide +kernel) moved low

theorem hasCaseForms_upperCase (moved : upperCase character ≠ character)
    (low : (upperCase character).toNat < 128) : hasCaseForms (upperCase character) = true :=
  hasCaseForms_formWith CaseRun.settled_toUppercase (by decide) (by decide +kernel) moved low

/-! ## Equality without regard to case -/

theorem equalIgnoringCase_iff :
    equalIgnoringCase left right = true ↔
      left = right ∨ lowerCase left = lowerCase right ∨ upperCase left = upperCase right := by
  simp [equalIgnoringCase, or_assoc]

theorem equalIgnoringCase_lowerCase (character : Char) :
    equalIgnoringCase (lowerCase character) character = true :=
  equalIgnoringCase_iff.mpr (.inr (.inl (lowerCase_lowerCase character)))

theorem equalIgnoringCase_upperCase (character : Char) :
    equalIgnoringCase (upperCase character) character = true :=
  equalIgnoringCase_iff.mpr (.inr (.inr (upperCase_upperCase character)))

end Forms

end Backtracking
