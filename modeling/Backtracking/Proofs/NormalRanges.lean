import Backtracking.Proofs.RangeLists

/-!
# Normal forms of lists of ranges

Many lists of ranges cover the same characters, but only one of them is in normal form: its ranges
ascend, and some character lies between any two of them.  The complement of a list is in normal
form, in whatever order the ranges of the list come and however they overlap.  So the complement of
the complement is the normal form of a list.  The code points that are no characters separate
nothing.
-/

namespace Backtracking

namespace CharRange

variable {ranges others rest : List CharRange} {range other : CharRange}

/-- Ranges that are not empty and ascend, with a character between any two of them. -/
structure Normal (ranges : List CharRange) : Prop where
  proper : ∀ range ∈ ranges, range.first ≤ range.last
  apart : ranges.Pairwise fun left right => ∃ between, left.last < between ∧ between < right.first

namespace Normal

theorem nil : Normal [] := ⟨by simp, .nil⟩

theorem head_proper (normal : Normal (range :: rest)) : range.first ≤ range.last :=
  normal.proper range (by simp)

theorem tail (normal : Normal (range :: rest)) : Normal rest :=
  ⟨fun other member => normal.proper other (by simp [member]), (List.pairwise_cons.mp normal.apart).2⟩

theorem cons (proper : range.first ≤ range.last)
    (apart : ∀ other ∈ rest, ∃ between, range.last < between ∧ between < other.first)
    (normal : Normal rest) : Normal (range :: rest) :=
  ⟨List.forall_mem_cons.mpr ⟨proper, normal.proper⟩, List.pairwise_cons.mpr ⟨apart, normal.apart⟩⟩

/-- No range covers what lies before the first of them. -/
theorem first_le (normal : Normal (range :: rest)) {character : Char}
    (covered : covers (range :: rest) character = true) : range.first ≤ character := by
  have proper := normal.head_proper
  obtain ⟨other, member, contained⟩ := covers_iff.mp covered
  have bounds := contains_iff.mp contained
  rcases List.mem_cons.mp member with rfl | behind
  · exact bounds.1
  · obtain ⟨between, above, below⟩ := List.rel_of_pairwise_cons normal.apart behind
    grind

/-- What the first range does not reach is covered by those behind it. -/
theorem covers_tail (normal : Normal (range :: rest)) (character : Char) :
    covers rest character = true ↔
      covers (range :: rest) character = true ∧ range.last < character := by
  rw [covers_cons, Bool.or_eq_true, contains_iff]
  constructor
  · intro covered
    obtain ⟨other, member, contained⟩ := covers_iff.mp covered
    have bounds := contains_iff.mp contained
    obtain ⟨between, above, below⟩ := List.rel_of_pairwise_cons normal.apart member
    exact ⟨.inr covered, by grind⟩
  · rintro ⟨contained | covered, beyond⟩
    · grind
    · exact covered

/-- Some character right behind the first range is not covered: there is one that does not lie
beyond a given one. -/
theorem exists_uncovered (normal : Normal (range :: rest)) {character : Char}
    (beyond : range.last < character) :
    ∃ uncovered, range.last < uncovered ∧ uncovered ≤ character ∧
      covers (range :: rest) uncovered = false := by
  have tail := normal.covers_tail
  cases rest with
  | nil =>
      refine ⟨character, beyond, Char.le_refl _, ?_⟩
      rw [← Bool.not_eq_true, covers_cons, Bool.or_eq_true, contains_iff, covers_nil]
      grind
  | cons next rest =>
      obtain ⟨between, above, below⟩ :=
        List.rel_of_pairwise_cons normal.apart (List.mem_cons_self ..)
      -- The lesser of the two lies in the gap, and still not beyond the given one.
      obtain ⟨lesser, within, reached, inGap⟩ : ∃ lesser, range.last < lesser ∧
          lesser ≤ character ∧ lesser < next.first := by
        rcases Char.le_total between character with order | order
        · exact ⟨between, above, order, below⟩
        · exact ⟨character, beyond, Char.le_refl _, by grind⟩
      refine ⟨lesser, within, reached, ?_⟩
      rw [← Bool.not_eq_true]
      intro covered
      have behind := normal.tail.first_le ((tail lesser).mpr ⟨covered, within⟩)
      grind

end Normal

/-- The first range of a list in normal form ends no later than that of another list that covers the
same characters. -/
theorem last_le_of_covers_eq (normal : Normal (range :: ranges)) (normalToo : Normal (other :: others))
    (same : ∀ character, covers (range :: ranges) character = covers (other :: others) character)
    (first_eq : range.first = other.first) : range.last ≤ other.last := by
  have proper := normal.head_proper
  rw [← Char.not_lt]
  intro beyond
  obtain ⟨uncovered, above, below, missing⟩ := normalToo.exists_uncovered beyond
  have properToo := normalToo.head_proper
  rw [← same, covers_cons, Bool.or_eq_false_iff, ← Bool.not_eq_true, contains_iff] at missing
  exact missing.1 ⟨by grind, below⟩

/-- A list in normal form is determined by the characters that it covers. -/
theorem eq_of_covers_eq (normal : Normal ranges) (normalToo : Normal others)
    (same : ∀ character, covers ranges character = covers others character) : ranges = others := by
  have begins {range : CharRange} {rest : List CharRange} (normal : Normal (range :: rest)) :
      covers (range :: rest) range.first = true := by
    have proper := normal.head_proper
    rw [covers_cons, Bool.or_eq_true, contains_iff]
    exact .inl ⟨Char.le_refl _, proper⟩
  induction ranges generalizing others with
  | nil =>
      cases others with
      | nil => rfl
      | cons other others =>
          have covered := begins normalToo
          rw [← same] at covered
          cases covered
  | cons range ranges ih =>
      cases others with
      | nil =>
          have covered := begins normal
          rw [same] at covered
          cases covered
      | cons other others =>
          have first_eq : range.first = other.first :=
            Char.le_antisymm (normal.first_le (same other.first ▸ begins normalToo))
              (normalToo.first_le (same range.first ▸ begins normal))
          have last_eq : range.last = other.last :=
            Char.le_antisymm (last_le_of_covers_eq normal normalToo same first_eq)
              (last_le_of_covers_eq normalToo normal (fun character => (same character).symm)
                first_eq.symm)
          have head_eq : range = other := by
            cases range
            cases other
            simp_all
          subst head_eq
          rw [ih normal.tail normalToo.tail fun character => ?_]
          rw [Bool.eq_iff_iff, normal.covers_tail, normalToo.covers_tail, same]

/-! ## Complements -/

theorem lt_first_of_mem_gapsFrom {last : Char} {gap : CharRange}
    (reached : ∀ start, gap ∈ gapsFrom (some start) ranges → start ≤ gap.first)
    (member : gap ∈ gapsFrom (next? last) ranges) : last < gap.first := by
  cases resumes : next? last with
  | none => cases ranges <;> simp [resumes, gapsFrom] at member
  | some resume =>
      rw [resumes] at member
      have passed := (le_iff_of_next? resumes resume).mp (Char.le_refl _)
      have further := reached resume member
      grind

theorem le_first_of_mem_gapsFrom {start : Char} {gap : CharRange}
    (member : gap ∈ gapsFrom (some start) ranges) : start ≤ gap.first := by
  induction ranges generalizing start with
  | nil =>
      simp only [gapsFrom, Option.map_some, Option.toList_some, List.mem_singleton] at member
      subst member
      exact Char.le_refl _
  | cons range rest ih =>
      rw [gapsFrom] at member
      rcases List.mem_append.mp member with here | behind
      · split at here
        · obtain ⟨preceding, -, rfl⟩ := Option.map_eq_some_iff.mp (Option.mem_toList.mp here)
          exact Char.le_refl _
        · simp at here
      · split at behind
        · next reaches =>
            have passed := lt_first_of_mem_gapsFrom (fun _ => ih) behind
            grind
        · exact ih behind

/-- The gaps between ascending ranges are in normal form, for the ranges lie between them. -/
theorem gapsFrom_normal (proper : ∀ range ∈ ranges, range.first ≤ range.last)
    (start? : Option Char) : Normal (gapsFrom start? ranges) := by
  induction ranges generalizing start? with
  | nil =>
      cases start? with
      | none => exact .nil
      | some start => exact .cons (le_maxChar start) (by simp) .nil
  | cons range rest ih =>
      have first_le := proper range (by simp)
      replace ih := ih fun other member => proper other (by simp [member])
      cases start? with
      | none => exact .nil
      | some start =>
          rw [gapsFrom]
          split
          · next before =>
              have reaches : start ≤ range.last := by grind
              rw [if_pos reaches]
              cases previous : previous? range.first with
              | none => exact absurd before (not_lt_of_previous?_eq_none previous start)
              | some preceding =>
                  refine .cons ((le_iff_of_previous? previous start).mpr before)
                    (fun gap member => ⟨range.first, ?_, ?_⟩) (ih _)
                  · exact (le_iff_of_previous? previous preceding).mp (Char.le_refl _)
                  · have passed := lt_first_of_mem_gapsFrom (fun _ => le_first_of_mem_gapsFrom) member
                    grind
          · exact ih _

theorem complement_normal (proper : ∀ range ∈ ranges, range.first ≤ range.last) :
    Normal (complement ranges) := by
  have permuted : (sort ranges).Perm ranges := List.mergeSort_perm _ _
  exact gapsFrom_normal (fun range member => proper range (permuted.mem_iff.mp member)) _

theorem le_first_of_mem_merge {least : Char} (bounded : ∀ range ∈ ranges, least ≤ range.first) :
    ∀ range ∈ merge ranges, least ≤ range.first := by
  have ascending := sort_ascending ranges
  have permuted : (sort ranges).Perm ranges := List.mergeSort_perm _ _
  rw [merge]
  cases sorted : sort ranges with
  | nil => simp
  | cons range rest =>
      rw [sorted] at ascending permuted
      have begins := bounded range (permuted.mem_iff.mp (by simp))
      exact fun merged member =>
        Char.le_trans begins (first_le_of_mem_mergeInto ascending merged member)

end CharRange

namespace CharSet

open CharRange

variable {ranges : List CharRange}

/-- The ranges above ASCII of a set hold no ASCII character. -/
theorem firstHigh_le_of_mem_high (negated ignoresCase : Bool) :
    ∀ range ∈ (ofRanges ranges negated ignoresCase).high, firstHigh ≤ range.first := by
  have clipped : ∀ range ∈ clipToHigh ranges, firstHigh ≤ range.first := by
    intro range member
    obtain ⟨whole, -, rfl⟩ := List.mem_map.mp member
    simp only [later]
    grind
  intro range member
  exact le_first_of_mem_merge clipped range (by simpa [ofRanges] using member)

/-- The table of a set has the ASCII characters that its ranges cover. -/
theorem contains_ascii_ofRanges (negated ignoresCase : Bool) (character : Char) :
    (ofRanges ranges negated ignoresCase).ascii.contains character =
      (decide (character < firstHigh) && covers ranges character) := by
  have exactly := containsExactly_ofRanges ranges negated ignoresCase character
  rw [containsExactly] at exactly
  split at exactly
  · next low => rw [exactly, decide_eq_true low, Bool.true_and]
  · next high =>
      have above : ¬ character.toNat < 128 := high
      rw [decide_eq_false high, Bool.false_and, AsciiSet.contains, dif_neg above]

/-- Lists of ranges that are not empty are turned into others exactly, in whatever order they come
and however they overlap.  The complement is in normal form and covers what the list does not; the
complement of the complement is the only list in normal form that covers what the list does; and a
set of the ranges holds, in its table and in ascending ranges above ASCII, what the list covers, so
that halving finds it. -/
theorem ranges_exact (proper : ∀ range ∈ ranges, range.first ≤ range.last) :
    Normal (complement ranges) ∧
    (∀ character, covers (complement ranges) character = !covers ranges character) ∧
    (∀ normal, (Normal normal ∧ ∀ character, covers normal character = covers ranges character) ↔
      normal = complement (complement ranges)) ∧
    ∀ negated ignoresCase, let set := ofRanges ranges negated ignoresCase
      Spaced set.high.toList ∧ (∀ range ∈ set.high, firstHigh ≤ range.first) ∧
      (∀ character, set.ascii.contains character =
        (decide (character < firstHigh) && covers ranges character)) ∧
      ∀ character, set.containsExactly character = covers ranges character := by
  have normal := complement_normal proper
  have twice : Normal (complement (complement ranges)) := complement_normal normal.proper
  have same (character : Char) :
      covers (complement (complement ranges)) character = covers ranges character := by
    rw [covers_complement, covers_complement, Bool.not_not]
  refine ⟨normal, covers_complement ranges, fun other => ⟨?_, ?_⟩, fun negated ignoresCase =>
    ⟨?_, firstHigh_le_of_mem_high negated ignoresCase, contains_ascii_ofRanges negated ignoresCase,
      containsExactly_ofRanges ranges negated ignoresCase⟩⟩
  · rintro ⟨otherNormal, covers_eq⟩
    exact eq_of_covers_eq otherNormal twice fun character =>
      (covers_eq character).trans (same character).symm
  · rintro rfl
    exact ⟨twice, same⟩
  · simpa only [ofRanges] using merge_spaced (clipToHigh_proper ranges)

/-- Ranges that overlap, and ranges that touch where the code points are no characters, are joined
by two complements. -/
theorem complement_complement_joined :
    (∀ range ∈ [⟨'\uE000', '\uE001'⟩, ⟨'b', 'd'⟩, ⟨'\uD000', '\uD7FF'⟩, ⟨'a', 'c'⟩],
      (range : CharRange).first ≤ range.last) ∧
    complement (complement
        [⟨'\uE000', '\uE001'⟩, ⟨'b', 'd'⟩, ⟨'\uD000', '\uD7FF'⟩, ⟨'a', 'c'⟩]) =
      [⟨'a', 'd'⟩, ⟨'\uD000', '\uE001'⟩] := by
  have proper : ∀ range ∈ [⟨'\uE000', '\uE001'⟩, ⟨'b', 'd'⟩, ⟨'\uD000', '\uD7FF'⟩, ⟨'a', 'c'⟩],
      (range : CharRange).first ≤ range.last := by
    simp
  refine ⟨proper, (((ranges_exact proper).2.2.1 _).mp ⟨⟨by simp, ?_⟩, fun character => ?_⟩).symm⟩
  · exact List.pairwise_cons.mpr ⟨by simpa using ⟨'e', by decide, by decide⟩,
      List.pairwise_singleton _ _⟩
  · have valid := toNat_valid character
    have le_iff (left right : Char) : left ≤ right ↔ left.toNat ≤ right.toNat := Iff.rfl
    rw [Bool.eq_iff_iff]
    simp only [covers_cons, covers_nil, Bool.or_false, Bool.or_eq_true, contains_iff, le_iff,
      Char.reduceToNat]
    omega

end CharSet

end Backtracking
