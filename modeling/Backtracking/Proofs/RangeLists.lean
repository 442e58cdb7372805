import Backtracking.Chars.Set

/-!
# What lists of ranges cover

The operations on lists of ranges are exact: merging them covers no other characters than before,
and the complement covers those that were not covered.  Merged ranges ascend, with gaps between
them, so that halving finds the range that contains a character.  A set that is made of ranges has
the characters as members that they cover, in whatever order the ranges come and however they
overlap.
-/

namespace Backtracking

namespace CharRange

variable {ranges rest : List CharRange} {range current : CharRange} {character : Char}

theorem contains_iff :
    range.contains character = true ↔ range.first ≤ character ∧ character ≤ range.last := by
  simp [contains]

theorem covers_iff :
    covers ranges character = true ↔ ∃ range ∈ ranges, range.contains character = true := by
  simp [covers]

@[simp]
theorem covers_nil (character : Char) : covers [] character = false := rfl

@[simp]
theorem covers_cons (range : CharRange) (ranges : List CharRange) (character : Char) :
    covers (range :: ranges) character = (range.contains character || covers ranges character) :=
  rfl

@[simp]
theorem covers_append (ranges others : List CharRange) (character : Char) :
    covers (ranges ++ others) character = (covers ranges character || covers others character) := by
  simp [covers]

theorem covers_of_perm {others : List CharRange} (permuted : ranges.Perm others)
    (character : Char) : covers ranges character = covers others character := by
  rw [Bool.eq_iff_iff, covers_iff, covers_iff]
  simp only [permuted.mem_iff]

@[simp]
theorem contains_single (member character : Char) :
    (single member).contains character = (character == member) := by
  rw [Bool.eq_iff_iff, contains_iff, beq_iff_eq]
  exact ⟨fun bounds => Char.le_antisymm bounds.2 bounds.1, fun same => same ▸ by simp [single]⟩

/-! ## Ranges in order -/

theorem covers_sort (ranges : List CharRange) (character : Char) :
    covers (sort ranges) character = covers ranges character :=
  covers_of_perm (List.mergeSort_perm _ _) character

/-- No range begins before one that comes earlier. -/
def Ascending (ranges : List CharRange) : Prop := ranges.Pairwise (·.first ≤ ·.first)

/-- The order is kept when a range is merged into the one before it. -/
theorem Ascending.merged (ascending : Ascending (current :: range :: rest)) (last : Char) :
    Ascending (⟨current.first, last⟩ :: rest) := by
  obtain ⟨before, ascends⟩ := List.pairwise_cons.mp ascending
  exact List.pairwise_cons.mpr ⟨fun other member => before other (by simp [member]),
    (List.pairwise_cons.mp ascends).2⟩

theorem first_le_of_precedes {left right : CharRange} (order : precedes left right = true) :
    left.first ≤ right.first := by
  simp only [precedes, Bool.or_eq_true, Bool.and_eq_true, decide_eq_true_eq, beq_iff_eq] at order
  grind

theorem sort_ascending (ranges : List CharRange) : Ascending (sort ranges) := by
  have sorted : (sort ranges).Pairwise (precedes · ·) := by
    apply List.pairwise_mergeSort
    · intro first second third before after
      simp only [precedes, Bool.or_eq_true, Bool.and_eq_true, decide_eq_true_eq, beq_iff_eq]
        at before after ⊢
      grind
    · intro left right
      simp only [precedes, Bool.or_eq_true, Bool.and_eq_true, decide_eq_true_eq, beq_iff_eq]
      grind
  exact sorted.imp first_le_of_precedes

theorem Ascending.covers_eq_false (ascending : Ascending (range :: rest))
    (before : character < range.first) : covers rest character = false := by
  rw [Bool.eq_false_iff]
  intro covered
  obtain ⟨other, member, contained⟩ := covers_iff.mp covered
  have later := List.rel_of_pairwise_cons ascending member
  have bounds := contains_iff.mp contained
  grind

/-! ## Merged ranges -/

/-- Ranges that are not empty, each of which begins behind the one before, with a gap between. -/
structure Spaced (ranges : List CharRange) : Prop where
  proper : ∀ range ∈ ranges, range.first ≤ range.last
  gaps : ranges.Pairwise fun left right => left.last.toNat + 1 < right.first.toNat

theorem covers_mergeInto (ascending : Ascending (current :: ranges)) :
    covers (mergeInto current ranges) character =
      (current.contains character || covers ranges character) := by
  induction ranges generalizing current with
  | nil => rfl
  | cons range rest ih =>
      obtain ⟨before, ascends⟩ := List.pairwise_cons.mp ascending
      have later := before range (by simp)
      rw [mergeInto]
      split
      · next touches =>
          rw [ih (ascending.merged _), covers_cons, ← Bool.or_assoc]
          congr 1
          -- What lies behind the first of two ranges that touch is in the second one.
          rw [Bool.eq_iff_iff, Bool.or_eq_true, contains_iff, contains_iff, contains_iff]
          simp only [CharRange.later]
          have between (behind : current.last < character) : range.first ≤ character :=
            Nat.le_trans touches behind
          grind
      · rw [covers_cons, ih ascends, covers_cons]

theorem first_le_of_mem_mergeInto (ascending : Ascending (current :: ranges)) :
    ∀ member ∈ mergeInto current ranges, current.first ≤ member.first := by
  induction ranges generalizing current with
  | nil => simp [mergeInto]
  | cons range rest ih =>
      obtain ⟨before, ascends⟩ := List.pairwise_cons.mp ascending
      rw [mergeInto]
      split
      · exact ih (ascending.merged _)
      · intro member listed
        rcases List.mem_cons.mp listed with rfl | listed
        · exact Char.le_refl _
        · exact Char.le_trans (before range (by simp)) (ih ascends member listed)

theorem mergeInto_spaced (ascending : Ascending (current :: ranges))
    (proper : ∀ range ∈ current :: ranges, range.first ≤ range.last) :
    Spaced (mergeInto current ranges) := by
  induction ranges generalizing current with
  | nil => exact ⟨proper, List.pairwise_singleton _ _⟩
  | cons range rest ih =>
      obtain ⟨before, ascends⟩ := List.pairwise_cons.mp ascending
      have currentProper := proper current (by simp)
      rw [mergeInto]
      split
      · refine ih (ascending.merged _) fun other member => ?_
        rcases List.mem_cons.mp member with rfl | member
        · simp only [later]
          grind
        · exact proper other (by simp [member])
      · next apart =>
          have spaced := ih ascends fun other member => proper other (by simp [member])
          refine ⟨fun other member => ?_, List.pairwise_cons.mpr ⟨fun other member => ?_,
            spaced.gaps⟩⟩
          · rcases List.mem_cons.mp member with rfl | member
            · exact currentProper
            · exact spaced.proper other member
          · exact Nat.lt_of_lt_of_le (Nat.lt_of_not_le apart)
              (first_le_of_mem_mergeInto ascends other member)

theorem covers_merge (ranges : List CharRange) (character : Char) :
    covers (merge ranges) character = covers ranges character := by
  have ascending := sort_ascending ranges
  have same := covers_sort ranges character
  rw [merge]
  cases sorted : sort ranges with
  | nil =>
      rw [sorted] at same
      exact same
  | cons range rest =>
      rw [sorted] at ascending same
      rw [← same]
      exact covers_mergeInto ascending

theorem merge_spaced (proper : ∀ range ∈ ranges, range.first ≤ range.last) :
    Spaced (merge ranges) := by
  have ascending := sort_ascending ranges
  have permuted : (sort ranges).Perm ranges := List.mergeSort_perm _ _
  rw [merge]
  cases sorted : sort ranges with
  | nil => exact ⟨by simp, .nil⟩
  | cons range rest =>
      rw [sorted] at ascending permuted
      exact mergeInto_spaced ascending fun other member => proper other (permuted.mem_iff.mp member)

/-! ## Complements -/

/-- The code points from D800 to DFFF belong to no character. -/
theorem toNat_valid (character : Char) :
    character.toNat < 0xD800 ∨ 0xDFFF < character.toNat ∧ character.toNat < 0x110000 :=
  character.valid

theorem toNat_ofNat {code : Nat} (valid : code.isValidChar) : (Char.ofNat code).toNat = code := by
  rw [Char.ofNat, dif_pos valid]
  rfl

/-- No character lies between one and the next. -/
theorem le_iff_of_next? {following : Char} (next : next? character = some following)
    (other : Char) : following ≤ other ↔ character < other := by
  have here := toNat_valid character
  have there := toNat_valid other
  show following.toNat ≤ other.toNat ↔ character.toNat < other.toNat
  unfold next? at next
  split at next
  · next last =>
      cases next
      subst last
      simp only [Char.reduceToNat] at there ⊢
      omega
  split at next
  · cases next
  · next notLast notMax =>
      cases next
      have notLast : character.toNat ≠ 0xD7FF := fun same => notLast (Char.toNat_inj.mp same)
      have notMax : character.toNat ≠ 0x10FFFF := fun same => notMax (Char.toNat_inj.mp same)
      rw [toNat_ofNat (by rw [Nat.isValidChar]; omega)]
      omega

theorem not_lt_of_next?_eq_none (last : next? character = none) (other : Char) :
    ¬ character < other := by
  have there := toNat_valid other
  show ¬ character.toNat < other.toNat
  unfold next? at last
  split at last
  · cases last
  split at last
  · next same =>
      subst same
      have value : maxChar.toNat = 0x10FFFF := rfl
      omega
  · cases last

/-- No character lies between one and the one before it. -/
theorem le_iff_of_previous? {preceding : Char} (previous : previous? character = some preceding)
    (other : Char) : other ≤ preceding ↔ other < character := by
  have here := toNat_valid character
  have there := toNat_valid other
  show other.toNat ≤ preceding.toNat ↔ other.toNat < character.toNat
  unfold previous? at previous
  split at previous
  · next first =>
      cases previous
      subst first
      simp only [Char.reduceToNat] at there ⊢
      omega
  split at previous
  · cases previous
  · next notFirst notMin =>
      cases previous
      have notFirst : character.toNat ≠ 0xE000 := fun same => notFirst (Char.toNat_inj.mp same)
      have notMin : character.toNat ≠ 0 := fun same => notMin (Char.toNat_inj.mp same)
      rw [toNat_ofNat (by rw [Nat.isValidChar]; omega)]
      omega

theorem not_lt_of_previous?_eq_none (first : previous? character = none) (other : Char) :
    ¬ other < character := by
  show ¬ other.toNat < character.toNat
  unfold previous? at first
  split at first
  · cases first
  split at first
  · next same =>
      subst same
      exact Nat.not_lt_zero _
  · cases first

theorem le_maxChar (character : Char) : character ≤ maxChar := by
  have here := toNat_valid character
  have value : maxChar.toNat = 0x10FFFF := rfl
  show character.toNat ≤ maxChar.toNat
  omega

theorem covers_gap (start : Char) :
    covers (if start < range.first then (previous? range.first).map (⟨start, ·⟩)
      else none).toList character = decide (start ≤ character ∧ character < range.first) := by
  rw [Bool.eq_iff_iff, decide_eq_true_iff]
  split
  · next before =>
      cases previous : previous? range.first with
      | none => exact absurd before (not_lt_of_previous?_eq_none previous start)
      | some preceding =>
          simp [contains_iff, le_iff_of_previous? previous]
  · next behind =>
      simp only [Option.toList_none, covers_nil, Bool.false_eq_true, false_iff]
      grind

theorem covers_gapsFrom (ascending : Ascending ranges) (start? : Option Char) :
    covers (gapsFrom start? ranges) character = true ↔
      (∃ start, start? = some start ∧ start ≤ character) ∧ covers ranges character = false := by
  induction ranges generalizing start? with
  | nil => cases start? <;> simp [gapsFrom, contains_iff, le_maxChar]
  | cons range rest ih =>
      cases start? with
      | none => simp [gapsFrom]
      | some start =>
          have resumes : (∃ resume,
              (if start ≤ range.last then next? range.last else some start) = some resume ∧
                resume ≤ character) ↔ start ≤ character ∧ range.last < character := by
            split
            · next reaches =>
                cases next : next? range.last with
                | none => simp [not_lt_of_next?_eq_none next]
                | some following =>
                    simp only [Option.some.injEq, exists_eq_left', le_iff_of_next? next]
                    grind
            · next short =>
                simp only [Option.some.injEq, exists_eq_left']
                grind
          have outside : character < range.first → covers rest character = false :=
            ascending.covers_eq_false
          rw [gapsFrom, covers_append, Bool.or_eq_true, covers_gap, decide_eq_true_iff,
            ih (List.pairwise_cons.mp ascending).2, resumes]
          simp only [Option.some.injEq, exists_eq_left', covers_cons, Bool.or_eq_false_iff,
            ← Bool.not_eq_true (range.contains character), contains_iff]
          grind

theorem covers_complement (ranges : List CharRange) (character : Char) :
    covers (complement ranges) character = !covers ranges character := by
  have least : '\x00' ≤ character := Nat.zero_le character.toNat
  rw [complement, Bool.eq_iff_iff, covers_gapsFrom (sort_ascending ranges), covers_sort]
  simp [least]

end CharRange

namespace CharSet

open CharRange

/-! ## Halving -/

section Halving

variable {ranges : Array CharRange} {character : Char} {middle other low high : Nat}

/-- A range does not contain what is covered by one behind it, or lies still further behind. -/
theorem not_contains_of_lt (spaced : Spaced ranges.toList) (order : other < middle)
    (within : middle < ranges.size) (behind : ranges[middle].first ≤ character) :
    ranges[other].contains character = false := by
  have apart := List.pairwise_iff_getElem.mp spaced.gaps other middle
    (by simpa using Nat.lt_trans order within) (by simpa using within) order
  simp only [Array.getElem_toList] at apart
  have before : ranges[other].last < ranges[middle].first := Nat.lt_of_succ_lt apart
  rw [← Bool.not_eq_true, contains_iff]
  grind

theorem not_contains_of_gt (spaced : Spaced ranges.toList) (order : middle < other)
    (within : other < ranges.size) (before : character ≤ ranges[middle].last) :
    ranges[other].contains character = false := by
  have apart := List.pairwise_iff_getElem.mp spaced.gaps middle other
    (by simpa using Nat.lt_trans order within) (by simpa using within) order
  simp only [Array.getElem_toList] at apart
  have behind : ranges[middle].last < ranges[other].first := Nat.lt_of_succ_lt apart
  rw [← Bool.not_eq_true, contains_iff]
  grind

/-- Halving finds the range that contains a character, if there is one between the positions. -/
theorem searchBetween_iff (spaced : Spaced ranges.toList) (inside : high ≤ ranges.size) :
    searchBetween ranges character low high = true ↔
      ∃ index, ∃ within : index < ranges.size, low ≤ index ∧ index < high ∧
        ranges[index].contains character = true := by
  have nonempty {index : Nat} (within : index < ranges.size) :
      ranges[index].first ≤ ranges[index].last :=
    spaced.proper _ (by simp)
  fun_induction searchBetween ranges character low high with
  | case1 low high order middle missing =>
      have within : middle < ranges.size := by omega
      simp [within] at missing
  | case2 low high order middle range found before ih =>
      obtain ⟨within, rfl⟩ := Array.getElem?_eq_some_iff.mp found
      refine (ih inside).trans ?_
      constructor
      · rintro ⟨index, inRange, above, below, contained⟩
        exact ⟨index, inRange, by omega, below, contained⟩
      · rintro ⟨index, inRange, above, below, contained⟩
        refine ⟨index, inRange, Nat.lt_of_not_le fun early => ?_, below, contained⟩
        rcases Nat.lt_or_eq_of_le early with earlier | rfl
        · have reached := nonempty within
          rw [not_contains_of_lt spaced earlier within (by grind)] at contained
          cases contained
        · have bounds := contains_iff.mp contained
          grind
  | case3 low high order middle range found notBefore behind ih =>
      obtain ⟨within, rfl⟩ := Array.getElem?_eq_some_iff.mp found
      refine (ih (by omega)).trans ?_
      constructor
      · rintro ⟨index, inRange, above, below, contained⟩
        exact ⟨index, inRange, above, by omega, contained⟩
      · rintro ⟨index, inRange, above, below, contained⟩
        refine ⟨index, inRange, above, Nat.lt_of_not_le fun late => ?_, contained⟩
        rcases Nat.lt_or_eq_of_le late with later | rfl
        · have reached := nonempty within
          rw [not_contains_of_gt spaced later inRange (by grind)] at contained
          cases contained
        · have bounds := contains_iff.mp contained
          grind
  | case4 low high order middle range found notBefore notBehind =>
      obtain ⟨within, rfl⟩ := Array.getElem?_eq_some_iff.mp found
      simp only [true_iff]
      exact ⟨middle, within, by omega, by omega, contains_iff.mpr ⟨by grind, by grind⟩⟩
  | case5 low high empty =>
      simp only [Bool.false_eq_true, false_iff]
      rintro ⟨index, -, above, below, -⟩
      omega

end Halving

theorem searchBetween_eq_covers {ranges : List CharRange} (spaced : Spaced ranges)
    (character : Char) :
    searchBetween ranges.toArray character 0 ranges.toArray.size = covers ranges character := by
  rw [Bool.eq_iff_iff, searchBetween_iff (by simpa using spaced) (Nat.le_refl _), covers_iff]
  constructor
  · rintro ⟨index, within, -, -, contained⟩
    exact ⟨_, by simp, contained⟩
  · rintro ⟨range, member, contained⟩
    obtain ⟨index, within, rfl⟩ := List.mem_iff_getElem.mp member
    exact ⟨index, by simpa using within, Nat.zero_le _, by simpa using within, by simpa⟩

/-! ## Sets of ranges -/

theorem clipToHigh_proper (ranges : List CharRange) :
    ∀ range ∈ clipToHigh ranges, range.first ≤ range.last := by
  intro range member
  simp only [clipToHigh, List.mem_map, List.mem_filter, Bool.and_eq_true, decide_eq_true_eq]
    at member
  obtain ⟨whole, ⟨-, proper, high⟩, rfl⟩ := member
  simp only [later]
  grind

theorem covers_clipToHigh (ranges : List CharRange) {character : Char}
    (high : firstHigh ≤ character) :
    covers (clipToHigh ranges) character = covers ranges character := by
  rw [Bool.eq_iff_iff, covers_iff, covers_iff]
  simp only [clipToHigh, List.mem_map, List.mem_filter, Bool.and_eq_true, decide_eq_true_eq,
    contains_iff]
  constructor
  · rintro ⟨_, ⟨range, ⟨member, -, -⟩, rfl⟩, above, below⟩
    simp only [later] at above
    exact ⟨range, member, by grind, below⟩
  · rintro ⟨range, member, above, below⟩
    refine ⟨_, ⟨range, ⟨member, by grind, by grind⟩, rfl⟩, ?_, below⟩
    simp only [later]
    grind

/-- A set of ranges has the characters that they cover. -/
theorem containsExactly_ofRanges (ranges : List CharRange) (negated ignoresCase : Bool)
    (character : Char) :
    (ofRanges ranges negated ignoresCase).containsExactly character = covers ranges character := by
  rw [containsExactly]
  split
  · next low =>
      have ascii : character.toNat < 128 := low
      simp only [ofRanges, AsciiSet.contains, AsciiSet.ofTest, ascii, dif_pos, Vector.getElem_ofFn,
        Char.ofNat_toNat]
      rw [Bool.eq_iff_iff, covers_iff, covers_iff]
      simp only [List.mem_filter, decide_eq_true_eq, contains_iff]
      constructor
      · rintro ⟨range, ⟨member, -⟩, contained⟩
        exact ⟨range, member, contained⟩
      · rintro ⟨range, member, contained⟩
        exact ⟨range, ⟨member, by grind⟩, contained⟩
  · next high =>
      simp only [ofRanges]
      rw [searchBetween_eq_covers (merge_spaced (clipToHigh_proper ranges)), covers_merge,
        covers_clipToHigh ranges (Char.not_lt.mp high)]

theorem contains_ofRanges (ranges : List CharRange) (negated ignoresCase : Bool)
    (character : Char) :
    (ofRanges ranges negated ignoresCase).contains character =
      ((covers ranges character || ignoresCase && (covers ranges (lowerCase character) ||
        covers ranges (upperCase character))) != negated) := by
  simp only [contains, containsExactly_ofRanges]
  rfl

end CharSet

end Backtracking
