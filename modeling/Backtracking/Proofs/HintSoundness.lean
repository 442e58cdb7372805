import Backtracking.Proofs.Widths
import Backtracking.Search.Candidate

/-!
# Hints are sound

Whatever the hints of a pattern say holds of each of its passages: its first character, the text
that it begins with, its least length, and that it begins at the start of the subject.  So no match
begins at a position that the hints refuse, nor behind one where they expect no more matches.
-/

namespace Backtracking

namespace AsciiSet

theorem contains_ofTest {test : Char → Bool} {character : Char} (ascii : character.toNat < 128) :
    (ofTest test).contains character = test character := by
  simp [contains, ofTest, ascii]

theorem contains_union {left right : AsciiSet} {character : Char} (ascii : character.toNat < 128) :
    (left.union right).contains character =
      (left.contains character || right.contains character) := by
  simp [contains, union, ascii]

end AsciiSet

theorem Hints.standsAt_append (subject : Subject) (front back : List Char) (position : Nat) :
    standsAt subject (front ++ back) position =
      (standsAt subject front position && standsAt subject back (position + front.length)) := by
  induction front generalizing position with
  | nil => simp [standsAt]
  | cons expected rest ih =>
      rw [List.cons_append, standsAt, standsAt, ih, List.length_cons, Bool.and_assoc]
      congr 3
      omega

theorem Hints.add_length_le_of_standsAt {subject : Subject} {text : List Char} {position : Nat}
    (inside : position ≤ subject.size) (stands : standsAt subject text position = true) :
    position + text.length ≤ subject.size := by
  induction text generalizing position with
  | nil => exact inside
  | cons expected rest ih =>
      simp only [standsAt, Bool.and_eq_true, beq_iff_eq] at stands
      have next := ih (Subject.lt_size_of_char? stands.1) stands.2
      simp only [List.length_cons]
      omega

namespace Passage

variable {body : Passage} {start stop : Nat}

theorem power_le (advances : ∀ start stop, body start stop → start ≤ stop) {count : Nat}
    (powers : body.power count start stop) : start ≤ stop := by
  induction count generalizing start with
  | zero => exact Nat.le_of_eq powers
  | succ count ih =>
      obtain ⟨middle, begins, follows⟩ := powers
      exact Nat.le_trans (advances start middle begins) (ih follows)

/-- Of several times, at least one, the first begins where all of them do. -/
theorem between_begins {least : Nat} {most : Option Nat} (positive : 0 < least)
    (passes : body.between least most start stop) :
    ∃ middle count, body start middle ∧ body.power count middle stop := by
  obtain ⟨count, enough, -, powers⟩ := passes
  cases count with
  | zero => omega
  | succ count =>
      obtain ⟨middle, begins, follows⟩ := powers
      exact ⟨middle, count, begins, follows⟩

end Passage

namespace Pattern

variable {scene : Scene} {start stop : Nat}

theorem le_of_mayTake {pattern : Pattern} (taken : pattern.mayTake scene start stop) :
    start ≤ stop := by
  obtain ⟨length, rfl, -⟩ := mayTake_bounded scene pattern start stop taken
  exact Nat.le_add_right _ _

theorem sequenceMayTake_le {items : List Pattern} (taken : sequenceMayTake scene items start stop) :
    start ≤ stop := by
  have whole : (Pattern.concat items).mayTake scene start stop := taken
  exact le_of_mayTake whole

/-! ## The first character -/

theorem char?_of_acceptsAt {character : Char}
    (accepted : scene.subject.acceptsAt (.char character) start = true) :
    scene.subject.char? start = some character := by
  obtain ⟨found, stands, same⟩ := Subject.acceptsAt_iff.mp accepted
  rw [stands, beq_iff_eq.mp same]

/-- A pattern always begins with a character. -/
def BeginsWith (scene : Scene) (pattern : Pattern) (character : Char) : Prop :=
  ∀ start stop, pattern.mayTake scene start stop → scene.subject.char? start = some character

theorem sequenceFirstChar?_begins {items : List Pattern}
    (known : ∀ item ∈ items, ∀ character, item.firstChar? = some character →
      item.BeginsWith scene character)
    {character : Char} (first : sequenceFirstChar? items = some character) :
    (Pattern.concat items).BeginsWith scene character := by
  induction items with
  | nil => cases first
  | cons item items ih =>
      rintro start stop ⟨middle, begins, follows⟩
      have rest := ih fun other member => known other (by simp [member])
      have other (least : ¬ item.width.least = 0) (begun : item.firstChar? = some character) :
          scene.subject.char? start = some character :=
        known item (by simp) character begun start middle begins
      cases item
      case assert assertion =>
        obtain ⟨-, rfl⟩ := begins
        exact rest first start stop follows
      all_goals
        simp only [sequenceFirstChar?] at first
        split at first
        · cases first
        · next least => exact other least first

theorem choiceFirstChar?_begins {branches : List Pattern}
    (known : ∀ branch ∈ branches, ∀ character, branch.firstChar? = some character →
      branch.BeginsWith scene character)
    {character : Char} (first : choiceFirstChar? branches = some character) :
    (Pattern.alternation branches).BeginsWith scene character := by
  induction branches with
  | nil => cases first
  | cons branch branches ih =>
      have rest := ih fun other member => known other (by simp [member])
      cases branches with
      | nil =>
          rintro start stop (chosen | impossible)
          · exact known branch (by simp) character first start stop chosen
          · exact impossible.elim
      | cons second others =>
          simp only [choiceFirstChar?] at first
          split at first
          · next left right leftFirst rightFirst =>
              split at first
              · next same =>
                  subst same
                  cases first
                  rintro start stop (chosen | chosen)
                  · exact known branch (by simp) _ leftFirst start stop chosen
                  · exact rest rightFirst start stop chosen
              · cases first
          · cases first

theorem firstChar?_begins (pattern : Pattern) : ∀ character,
    pattern.firstChar? = some character → pattern.BeginsWith scene character := by
  induction pattern with
  | char matcher =>
      rintro character first start stop ⟨accepted, -⟩
      cases matcher with
      | char expected =>
          cases first
          exact char?_of_acceptsAt accepted
      | any | anyExceptNewline | charIgnoringCase | set => cases first
  | group index body ih | atomic body ih => exact ih
  | concat items ih => exact fun character first => sequenceFirstChar?_begins ih first
  | alternation branches ih => exact fun character first => choiceFirstChar?_begins ih first
  | repeated body least most mode ih =>
      intro character first start stop passes
      simp only [firstChar?] at first
      split at first
      · next positive =>
          obtain ⟨middle, count, begins, -⟩ := Passage.between_begins positive passes
          exact ih character first start middle begins
      · cases first
  | empty | assert | lookAround | backReference | conditional =>
      intro character first
      cases first

/-! ## The characters that may come first -/

/-- What may come first in a pattern is known, and whether it always takes something. -/
structure StartsIn (scene : Scene) (pattern : Pattern) (first : FirstSet) : Prop where
  takes : first.nullable = false → ∀ start stop, pattern.mayTake scene start stop → start < stop
  begins : ∀ start stop, pattern.mayTake scene start stop → start < stop →
    ∃ character, scene.subject.char? start = some character ∧
      (character.toNat < 128 → first.members.contains character = true)

theorem startsIn_nothing {pattern : Pattern}
    (idle : ∀ start stop, pattern.mayTake scene start stop → start = stop) :
    pattern.StartsIn scene .nothing where
  takes nullable := by cases nullable
  begins start stop taken moves := absurd (idle start stop taken) (Nat.ne_of_lt moves)

theorem char_startsIn (matcher : CharMatcher) :
    (Pattern.char matcher).StartsIn scene ⟨AsciiSet.ofTest matcher.accepts, false⟩ where
  takes _ start stop := by
    rintro ⟨-, rfl⟩
    exact Nat.lt_succ_self start
  begins start stop := by
    rintro ⟨accepted, -⟩ -
    obtain ⟨character, stands, accepts⟩ := Subject.acceptsAt_iff.mp accepted
    exact ⟨character, stands, fun ascii => by rw [AsciiSet.contains_ofTest ascii, accepts]⟩

theorem repeated_startsIn {body : Pattern} {first : FirstSet} (known : body.StartsIn scene first)
    (least : Nat) (most : Option Nat) (mode : RepeatMode) :
    (Pattern.repeated body least most mode).StartsIn scene
      { first with nullable := first.nullable || least == 0 } where
  takes nullable start stop passes := by
    simp only [Bool.or_eq_false_iff, beq_eq_false_iff_ne] at nullable
    obtain ⟨middle, count, begins, follows⟩ :=
      Passage.between_begins (Nat.pos_of_ne_zero nullable.2) passes
    have moves := known.takes nullable.1 start middle begins
    have advances := Passage.power_le (fun _ _ => le_of_mayTake) follows
    omega
  begins start stop := by
    rintro ⟨count, -, -, powers⟩ moves
    rcases Passage.power_moves powers with stays | ⟨middle, taken, moves⟩
    · omega
    · have advances := le_of_mayTake taken
      exact known.begins start middle taken (by omega)

theorem sequenceFirst?_startsIn {items : List Pattern}
    (known : ∀ item ∈ items, ∀ first, item.first? = some first → item.StartsIn scene first)
    {first : FirstSet} (told : sequenceFirst? items = some first) :
    (Pattern.concat items).StartsIn scene first := by
  induction items generalizing first with
  | nil =>
      obtain rfl : FirstSet.nothing = first := Option.some.inj told
      exact startsIn_nothing fun _ _ idle => idle
  | cons item items ih =>
      simp only [sequenceFirst?] at told
      split at told
      · cases told
      next itemFirst itemTold =>
      have begins := known item (by simp) itemFirst itemTold
      split at told
      · obtain ⟨rest, restTold, rfl⟩ := Option.map_eq_some_iff.mp told
        have follows := ih (fun other member => known other (by simp [member])) restTold
        constructor
        · rintro nullable start stop ⟨middle, first, second⟩
          have before := le_of_mayTake first
          have behind := follows.takes nullable middle stop second
          omega
        · rintro start stop ⟨middle, first, second⟩ moves
          by_cases stays : start = middle
          · subst stays
            obtain ⟨character, stands, member⟩ := follows.begins start stop second moves
            refine ⟨character, stands, fun ascii => ?_⟩
            rw [AsciiSet.contains_union ascii, member ascii, Bool.or_true]
          · have before := le_of_mayTake first
            obtain ⟨character, stands, member⟩ := begins.begins start middle first (by omega)
            refine ⟨character, stands, fun ascii => ?_⟩
            rw [AsciiSet.contains_union ascii, member ascii, Bool.true_or]
      · next nullable =>
          cases told
          have moving {start stop : Nat} (taken : item.mayTake scene start stop) : start < stop :=
            begins.takes (by simpa using nullable) start stop taken
          constructor
          · rintro - start stop ⟨middle, first, second⟩
            have behind := sequenceMayTake_le second
            exact Nat.lt_of_lt_of_le (moving first) behind
          · rintro start stop ⟨middle, first, second⟩ -
            exact begins.begins start middle first (moving first)

theorem choiceFirst?_startsIn {branches : List Pattern}
    (known : ∀ branch ∈ branches, ∀ first, branch.first? = some first → branch.StartsIn scene first)
    {first : FirstSet} (told : choiceFirst? branches = some first) :
    (Pattern.alternation branches).StartsIn scene first := by
  induction branches generalizing first with
  | nil => exact ⟨fun _ _ _ impossible => impossible.elim, fun _ _ impossible => impossible.elim⟩
  | cons branch branches ih =>
      simp only [choiceFirst?] at told
      split at told
      · cases told
      next branchFirst branchTold =>
      have preferred := known branch (by simp) branchFirst branchTold
      obtain ⟨rest, restTold, rfl⟩ := Option.map_eq_some_iff.mp told
      have others := ih (fun other member => known other (by simp [member])) restTold
      constructor
      · intro nullable start stop
        simp only [FirstSet.either, Bool.or_eq_false_iff] at nullable
        rintro (chosen | chosen)
        · exact preferred.takes nullable.1 start stop chosen
        · exact others.takes nullable.2 start stop chosen
      · rintro start stop (chosen | chosen) moves
        · obtain ⟨character, stands, member⟩ := preferred.begins start stop chosen moves
          refine ⟨character, stands, fun ascii => ?_⟩
          rw [FirstSet.either, AsciiSet.contains_union ascii, member ascii, Bool.true_or]
        · obtain ⟨character, stands, member⟩ := others.begins start stop chosen moves
          refine ⟨character, stands, fun ascii => ?_⟩
          rw [FirstSet.either, AsciiSet.contains_union ascii, member ascii, Bool.or_true]

theorem first?_startsIn (pattern : Pattern) : ∀ first,
    pattern.first? = some first → pattern.StartsIn scene first := by
  induction pattern with
  | empty =>
      intro first told
      obtain rfl : FirstSet.nothing = first := Option.some.inj told
      exact startsIn_nothing fun _ _ idle => idle
  | assert assertion =>
      intro first told
      obtain rfl : FirstSet.nothing = first := Option.some.inj told
      exact startsIn_nothing fun _ _ holds => holds.2
  | char matcher =>
      intro first told
      obtain rfl : ⟨AsciiSet.ofTest matcher.accepts, false⟩ = first := Option.some.inj told
      exact char_startsIn matcher
  | group index body ih | atomic body ih =>
      intro first told
      have known := ih first told
      exact ⟨known.takes, known.begins⟩
  | concat items ih => exact fun first told => sequenceFirst?_startsIn ih told
  | alternation branches ih => exact fun first told => choiceFirst?_startsIn ih told
  | repeated body least most mode ih =>
      intro first told
      simp only [first?] at told
      split at told
      · next never =>
          obtain rfl : FirstSet.nothing = first := Option.some.inj told
          refine startsIn_nothing fun start stop passes => ?_
          obtain ⟨count, -, below, powers⟩ := passes
          obtain rfl : count = 0 := Nat.le_zero.mp (below 0 never)
          exact powers
      · obtain ⟨bodyFirst, bodyTold, rfl⟩ := Option.map_eq_some_iff.mp told
        exact repeated_startsIn (ih bodyFirst bodyTold) least most mode
  | lookAround | backReference | conditional =>
      intro first told
      cases told

/-! ## The leading text -/

/-- A pattern always begins with a text, and takes no more than that if this is the whole text. -/
def LeadsWith (scene : Scene) (pattern : Pattern) (leading : Leading) : Prop :=
  ∀ start stop, pattern.mayTake scene start stop →
    Hints.standsAt scene.subject leading.text start = true ∧
      (leading.whole = true → stop = start + leading.text.length)

theorem leadsWith_nothing (pattern : Pattern) : pattern.LeadsWith scene ⟨[], false⟩ :=
  fun _ _ _ => ⟨rfl, fun whole => by cases whole⟩

theorem sequenceLeading_leadsWith {items : List Pattern}
    (known : ∀ item ∈ items, item.LeadsWith scene item.leading) :
    (Pattern.concat items).LeadsWith scene (sequenceLeading items) := by
  induction items with
  | nil =>
      rintro start _ rfl
      exact ⟨rfl, fun _ => rfl⟩
  | cons item items ih =>
      rintro start stop ⟨middle, first, second⟩
      obtain ⟨stands, ends⟩ := known item (by simp) start middle first
      simp only [sequenceLeading]
      split
      · next whole =>
          obtain rfl := ends whole
          obtain ⟨follows, finishes⟩ :=
            ih (fun other member => known other (by simp [member])) _ stop second
          refine ⟨by rw [Hints.standsAt_append, stands, follows]; rfl, fun wholeToo => ?_⟩
          rw [finishes wholeToo, List.length_append, Nat.add_assoc]
      · next more => exact ⟨stands, fun whole => absurd whole more⟩

theorem leading_leadsWith (pattern : Pattern) : pattern.LeadsWith scene pattern.leading := by
  induction pattern with
  | empty =>
      rintro start _ rfl
      exact ⟨rfl, fun _ => rfl⟩
  | assert assertion =>
      rintro start _ ⟨-, rfl⟩
      exact ⟨rfl, fun _ => rfl⟩
  | char matcher =>
      cases matcher with
      | char expected =>
          rintro start _ ⟨accepted, rfl⟩
          have stands := char?_of_acceptsAt accepted
          exact ⟨by simp [leading, Hints.standsAt, stands], fun _ => rfl⟩
      | any | anyExceptNewline | charIgnoringCase | set => exact leadsWith_nothing _
  | group index body ih | atomic body ih => exact ih
  | concat items ih => exact sequenceLeading_leadsWith ih
  | repeated body least most mode ih =>
      simp only [leading]
      split
      · next positive =>
          intro start stop passes
          obtain ⟨middle, count, begins, -⟩ := Passage.between_begins positive passes
          exact ⟨(ih start middle begins).1, fun whole => by cases whole⟩
      · exact leadsWith_nothing _
  | alternation | lookAround | backReference | conditional => exact leadsWith_nothing _

/-! ## The start of the subject -/

/-- A pattern always begins at the start of the subject. -/
def BeginsAtStart (scene : Scene) (pattern : Pattern) : Prop :=
  ∀ start stop, pattern.mayTake scene start stop → start = 0

theorem allStartAtInputStart_begins {branches : List Pattern}
    (known : ∀ branch ∈ branches, branch.startsAtInputStart = true → branch.BeginsAtStart scene)
    (anchored : allStartAtInputStart branches = true) :
    (Pattern.alternation branches).BeginsAtStart scene := by
  induction branches with
  | nil => exact fun _ _ impossible => impossible.elim
  | cons branch branches ih =>
      simp only [allStartAtInputStart, Bool.and_eq_true] at anchored
      rintro start stop (chosen | chosen)
      · exact known branch (by simp) anchored.1 start stop chosen
      · exact ih (fun other member => known other (by simp [member])) anchored.2 start stop chosen

theorem startsAtInputStart_begins (pattern : Pattern)
    (anchored : pattern.startsAtInputStart = true) : pattern.BeginsAtStart scene := by
  induction pattern with
  | assert assertion =>
      rintro start stop ⟨holds, -⟩
      cases assertion
      case startOfInput => simpa [Scene.holds] using holds
      all_goals cases anchored
  | group index body ih | atomic body ih => exact ih anchored
  | concat items ih =>
      cases items with
      | nil => cases anchored
      | cons item items =>
          rintro start stop ⟨middle, first, -⟩
          exact ih item (by simp) anchored start middle first
  | alternation branches ih => exact allStartAtInputStart_begins ih anchored
  | empty | char | repeated | lookAround | backReference | conditional => cases anchored

/-! ## Candidates -/

section Candidates

variable {pattern : Pattern} (taken : pattern.mayTake scene start stop)

include taken

theorem not_anchored_behind {position : Nat} (before : position ≤ start) :
    ¬ (pattern.hints.anchoredStart && position > 0) = true := by
  simp only [Bool.and_eq_true, decide_eq_true_eq, not_and]
  intro anchored
  have begins := startsAtInputStart_begins pattern anchored start stop taken
  omega

theorem char?_of_firstSet {set : AsciiSet} (known : pattern.hints.firstSet = some set) :
    ∃ character, scene.subject.char? start = some character ∧
      (character.toNat < 128 → set.contains character = true) := by
  obtain ⟨first, told, chosen⟩ := Option.bind_eq_some_iff.mp known
  split at chosen
  · cases chosen
  · next takes =>
      obtain rfl := Option.some.inj chosen
      have startsIn : pattern.StartsIn scene first := first?_startsIn pattern first told
      have moves := startsIn.takes (by simpa using takes) start stop taken
      exact startsIn.begins start stop taken moves

theorem admits_of_char? {character : Char} (stands : scene.subject.char? start = some character) :
    pattern.hints.admits character = true := by
  rw [Hints.admits, Bool.and_eq_true, Option.all_eq_true, Option.all_eq_true]
  constructor
  · intro first known
    have begins := firstChar?_begins pattern first known start stop taken
    rw [stands] at begins
    simpa using (Option.some.inj begins).symm
  · intro set known
    obtain ⟨other, standsToo, member⟩ := char?_of_firstSet taken known
    rw [stands] at standsToo
    cases standsToo
    by_cases ascii : character.toNat < 128
    · simp [member ascii]
    · simp [Nat.le_of_not_lt ascii]

variable (inside : stop ≤ scene.subject.size)

include inside

theorem add_minLength_le {position : Nat} (before : position ≤ start) :
    position + pattern.hints.minLength ≤ scene.subject.size := by
  obtain ⟨length, rfl, bounds⟩ := mayTake_bounded scene pattern start stop taken
  have least : pattern.hints.minLength ≤ length := bounds.least_le
  omega

theorem standsAt_leading : Hints.standsAt scene.subject pattern.hints.leading start = true ∧
    start + pattern.hints.leading.length ≤ scene.subject.size := by
  have stands := (leading_leadsWith pattern start stop taken).1
  have before := le_of_mayTake taken
  exact ⟨stands, Hints.add_length_le_of_standsAt (Nat.le_trans before inside) stands⟩

/-- Where a pattern may begin, its hints allow a match, if they say anything. -/
theorem candidate_of_mayTake (fits : start + pattern.hints.minLength ≤ Width.greatestWord) :
    pattern.hints.candidate scene.subject start = .ok .yes := by
  have reached := add_minLength_le taken inside (Nat.le_refl start)
  obtain ⟨stands, within⟩ := standsAt_leading taken inside
  have anchored := not_anchored_behind taken (Nat.le_refl start)
  rw [Hints.candidate, Hints.reach_of_le fits, Except.map, if_neg (by simp; omega),
    if_neg anchored, Except.ok.injEq]
  split
  · next character found =>
      rw [admits_of_char? taken found, stands]
      rfl
  · next missing =>
      have noSet : pattern.hints.firstSet = none := by
        refine Option.eq_none_iff_forall_ne_some.mpr fun set known => ?_
        obtain ⟨character, found, -⟩ := char?_of_firstSet taken known
        rw [missing] at found
        cases found
      have noChar : pattern.hints.firstChar = none := by
        refine Option.eq_none_iff_forall_ne_some.mpr fun character known => ?_
        have found := firstChar?_begins pattern character known start stop taken
        rw [missing] at found
        cases found
      rw [noSet, noChar, stands]
      rfl

/-- Where the hints expect no more matches, the pattern may begin at no later position either. -/
theorem candidate_ne_never {position : Nat} (before : position ≤ start) :
    pattern.hints.candidate scene.subject position ≠ .ok .never := by
  intro never
  have fits := Hints.le_of_candidate never
  have reached := add_minLength_le taken inside before
  obtain ⟨-, within⟩ := standsAt_leading taken inside
  have anchored := not_anchored_behind taken before
  have stands {character : Char} (found : scene.subject.char? start = some character) :
      scene.subject.char? position ≠ none := by
    have later := Subject.lt_size_of_char? found
    simp only [Subject.char?, Subject.size, ne_eq, Array.getElem?_eq_none_iff] at later ⊢
    omega
  rw [Hints.candidate, Hints.reach_of_le fits, Except.map, if_neg (by simp; omega),
    if_neg anchored] at never
  revert never
  rw [imp_false]
  split
  · split <;> simp
  · next missing =>
      split
      · next known =>
          rcases Bool.or_eq_true_iff.mp known with known | known
          · obtain ⟨set, known⟩ := Option.isSome_iff_exists.mp known
            obtain ⟨character, found, -⟩ := char?_of_firstSet taken known
            exact absurd missing (stands found)
          · obtain ⟨character, known⟩ := Option.isSome_iff_exists.mp known
            have found := firstChar?_begins pattern character known start stop taken
            exact absurd missing (stands found)
      · split <;> simp

end Candidates

end Pattern

end Backtracking
