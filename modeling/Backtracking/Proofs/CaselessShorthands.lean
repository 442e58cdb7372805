import Backtracking.Pattern.NamedClass
import Backtracking.Proofs.CaselessSets

/-!
# Shorthands without case

Digits, white space, blanks and line ends have no case forms and are none, so that their shorthands
are the same with regard to case and without it.  This is checked on the tables: none of their
ranges meets a run of the case mappings, nor what a run leads to.  The characters of words in ASCII
have forms of their own kind, but they are forms of others as well.
-/

namespace Backtracking

open CharRange

/-- The ranges cover the forms of the characters that they cover, and of no others. -/
def CharRange.Caseless (ranges : List CharRange) : Prop :=
  ∀ character, covers ranges (lowerCase character) = covers ranges character ∧
    covers ranges (upperCase character) = covers ranges character

theorem CharRange.contains_iff_toNat {range : CharRange} {character : Char} :
    range.contains character = true ↔
      range.first.toNat ≤ character.toNat ∧ character.toNat ≤ range.last.toNat :=
  contains_iff

namespace CaseRun

variable {runs : List CaseRun} {ranges : List CharRange}

/-- Whether a range holds no character that a run maps, and none that it leads to. -/
def misses (run : CaseRun) (range : CharRange) : Bool :=
  (run.last.blt range.first.toNat || range.last.toNat.blt run.first) &&
    (run.greatest.blt range.first.toNat || range.last.toNat.blt run.target)

/-- Whether ranges hold nothing that runs map, and nothing that they lead to. -/
def allMiss (runs : List CaseRun) (ranges : List CharRange) : Bool :=
  runs.all fun run => ranges.all run.misses

theorem not_contains_of_misses {run : CaseRun} {range : CharRange} {character : Char}
    (misses : run.misses range = true) (proper : run.isProper = true)
    (covered : run.covers character.toNat = true) :
    range.contains character = false ∧
      range.contains (Char.ofNat (run.target + (character.toNat - run.first))) = false := by
  obtain ⟨above, below, -⟩ := covers_iff.mp covered
  have image := toNat_image proper covered
  simp only [CaseRun.misses, greatest, Bool.or_eq_true, Bool.and_eq_true, Nat.blt_eq] at misses
  constructor
  · rw [← Bool.not_eq_true, contains_iff_toNat]
    omega
  · rw [← Bool.not_eq_true, contains_iff_toNat, image]
    omega

theorem covers_map (settles : settled runs = true) (misses : allMiss runs ranges = true)
    (character : Char) : CharRange.covers ranges (map runs character) =
      CharRange.covers ranges character := by
  obtain same | ⟨run, member, covered, image⟩ := map_cases runs character
  · rw [same]
  · have proper : run.isProper = true :=
      (Bool.and_eq_true_iff.mp (List.all_eq_true.mp settles run member)).1
    have missed (range : CharRange) (listed : range ∈ ranges) :=
      not_contains_of_misses
        (List.all_eq_true.mp (List.all_eq_true.mp misses run member) range listed) proper covered
    have none (landed : Char) (absent : ∀ range ∈ ranges, range.contains landed = false) :
        CharRange.covers ranges landed = false := by
      rw [CharRange.covers, List.any_eq_false]
      simpa using absent
    rw [image, none _ fun range listed => (missed range listed).2,
      none _ fun range listed => (missed range listed).1]

end CaseRun

namespace CharRange

variable {ranges : List CharRange}

/-- Whether ranges hold both an ASCII character and its form or neither of them. -/
def holdAlike (ranges : List CharRange) (form : Char → Char) : Bool :=
  (List.range 128).all fun code =>
    form (Char.ofNat code) == Char.ofNat code ||
      covers ranges (form (Char.ofNat code)) == covers ranges (Char.ofNat code)

theorem covers_of_holdAlike {form : Char → Char} (alike : holdAlike ranges form = true)
    {character : Char} (low : character.toNat < 128) :
    covers ranges (form character) = covers ranges character := by
  have known := List.all_eq_true.mp alike character.toNat (List.mem_range.mpr low)
  rw [Char.ofNat_toNat, Bool.or_eq_true, beq_iff_eq, beq_iff_eq] at known
  rcases known with same | same
  · rw [same]
  · exact same

theorem caseless_of_allMiss
    (misses : CaseRun.allMiss (CaseRun.toLowercase ++ CaseRun.toUppercase) ranges = true)
    (lower : holdAlike ranges Char.toLower = true) (upper : holdAlike ranges Char.toUpper = true) :
    Caseless ranges := by
  rw [CaseRun.allMiss, List.all_append, Bool.and_eq_true] at misses
  intro character
  rw [lowerCase, upperCase]
  split
  · next low => exact ⟨covers_of_holdAlike lower low, covers_of_holdAlike upper low⟩
  · exact ⟨CaseRun.covers_map CaseRun.settled_toLowercase misses.1 character,
      CaseRun.covers_map CaseRun.settled_toUppercase misses.2 character⟩

/-- Ranges of ASCII that cover the forms of what they cover within ASCII do so of all. -/
theorem caseClosed_of_ascii (low : ranges.all (·.last.toNat < 128) = true)
    (within : ∀ code < 128, covers ranges (Char.ofNat code) = true →
      covers ranges (Char.ofNat code).toLower = true ∧
      covers ranges (Char.ofNat code).toUpper = true) :
    CaseClosed ranges := by
  intro character covered
  obtain ⟨range, listed, contains⟩ := covers_iff.mp covered
  have below : character.toNat < 128 := by
    have last := List.all_eq_true.mp low range listed
    have bounds := contains_iff_toNat.mp contains
    rw [decide_eq_true_iff] at last
    omega
  rw [lowerCase, upperCase, if_pos below, if_pos below]
  have known := within character.toNat below
  rw [Char.ofNat_toNat] at known
  exact known covered

theorem ofText_ofList {text : String} {characters : List Char}
    (spelt : text = String.ofList characters) : ofText text = readText none none characters := by
  rw [spelt, ofText, String.toList_ofList]

end CharRange

theorem GeneralCategory.covers_union_singleton (category : GeneralCategory) (character : Char) :
    covers (union [category]) character = covers category.ranges character := by
  rw [union, covers_merge, List.flatMap_singleton]

namespace NamedClass

/-! ## The tables -/

set_option maxRecDepth 10000 in
theorem caseless_decimalNumber : Caseless GeneralCategory.decimalNumber.ranges := by
  rw [GeneralCategory.ranges, GeneralCategory.rangeText, ofText_ofList rfl]
  exact caseless_of_allMiss (by decide +kernel) (by decide +kernel) (by decide +kernel)

set_option maxRecDepth 10000 in
theorem caseless_spaces : Caseless Unicode.spaces := by
  rw [Unicode.spaces, BinaryProperty.ranges, ListedProperty.ranges, ListedProperty.rangeText,
    ofText_ofList rfl]
  exact caseless_of_allMiss (by decide +kernel) (by decide +kernel) (by decide +kernel)

theorem caseless_digits : Caseless Unicode.digits := by
  intro character
  simp only [Unicode.digits, GeneralCategory.covers_union_singleton]
  exact caseless_decimalNumber character

theorem caseless_shorthand {letter : Char} (unicode : Bool)
    (known : letter.toLower ∈ ['d', 's', 'h', 'v']) : Caseless (shorthand letter unicode) := by
  simp only [List.mem_cons, List.not_mem_nil, or_false] at known
  rw [shorthand]
  rcases known with digits | spaces | blanks | lineEnds
  · rw [digits]
    change Caseless (if unicode then Unicode.digits else _)
    split
    · exact caseless_digits
    · exact caseless_of_allMiss (by decide +kernel) (by decide +kernel) (by decide +kernel)
  · rw [spaces]
    change Caseless (if unicode then Unicode.spaces else _)
    split
    · exact caseless_spaces
    · exact caseless_of_allMiss (by decide +kernel) (by decide +kernel) (by decide +kernel)
  · rw [blanks]
    change Caseless horizontalSpace
    exact caseless_of_allMiss (by decide +kernel) (by decide +kernel) (by decide +kernel)
  · rw [lineEnds]
    change Caseless verticalSpace
    exact caseless_of_allMiss (by decide +kernel) (by decide +kernel) (by decide +kernel)

/-- The characters of words in ASCII.  The long s has the form `S`, which is one of them, but is
itself none. -/
theorem caseClosed_word : CaseClosed (shorthand 'W' false) :=
  caseClosed_of_ascii (by decide +kernel) (by decide +kernel)

end NamedClass

end Backtracking
