import Backtracking.Proofs.ClassItems
import Backtracking.Proofs.EscapedTexts
import Backtracking.Proofs.SuccessiveSearches

/-!
# Quoted texts

A text is quoted by escaping its characters or by writing it between `\Q` and `\E`.  Both patterns
are compiled alike, and a search with them is a search for the text: it finds the first place of a
subject where the text stands, whether hints are used or not.
-/

namespace Backtracking

open Reading Spelling

namespace Spelling

/-- A text between the signs that begin and end quoted text. -/
def quoted (text : List Char) : List Char := '\\' :: 'Q' :: (text ++ ['\\', 'E'])

/-- The patterns that quote a text.  Between `\Q` and `\E` it must not hold the sign of its end. -/
inductive Quotes (text : List Char) : List Char → Prop where
  | escaped : Quotes text (escaped text)
  | quoted (unended : ¬ ['\\', 'E'] <:+: text) : Quotes text (quoted text)

end Spelling

/-! ## Reading -/

namespace Reader

variable {flags : Flags} {names : Array (Option String)} {tail : List Char}

theorem literals_reads (text : List Char) :
    Reads flags (text.mapM literal) tail tail names names
      (· = (CharMatcher.literals flags.ignoreCase text).map .char) := by
  induction text with
  | nil => exact .pure rfl
  | cons character text ih =>
      rw [List.mapM_cons]
      apply (literal_reads character).bind
      rintro _ rfl
      apply ih.bind
      rintro _ rfl
      exact .pure rfl

/-- Quoted text is read as the literals of its characters if no quantifier follows. -/
theorem readQuoted_reads {text : List Char} (unended : ¬ ['\\', 'E'] <:+: text)
    (settled : Settled tail) :
    Reads flags readQuoted (quoted text ++ tail) tail names names
      (· = (CharMatcher.literals flags.ignoreCase text).map .char) := by
  have whole : quoted text ++ tail = '\\' :: 'Q' :: (text ++ '\\' :: 'E' :: tail) := by
    simp [quoted]
  have behind : (text ++ '\\' :: 'E' :: tail).drop (text.length + 2) = tail := by
    rw [← List.drop_drop, List.drop_left]
    rfl
  have opened : ('\\' :: 'Q' :: (text ++ '\\' :: 'E' :: tail)).drop 2 =
      text ++ '\\' :: 'E' :: tail := rfl
  rw [whole]
  apply (Reads.skip opened).bind
  rintro _ -
  apply Reads.get
  intro position
  simp only [ClassItem.quoted_of_unended unended]
  apply (Reads.skip behind).bind
  rintro _ -
  rcases List.eq_nil_or_concat text with rfl | ⟨before, last, rfl⟩
  · exact .pure rfl
  · simp only [List.concat_eq_append, List.getLast?_concat, List.dropLast_concat]
    apply (literals_reads before).bind
    rintro _ rfl
    apply (literal_reads last).bind
    rintro _ rfl
    apply (readQuantifier_none _ _ (.inl rfl) settled).bind
    rintro _ rfl
    exact .pure (by simp [CharMatcher.literals])

theorem readSequence_quoted {inner : Inner} {text : List Char}
    (unended : ¬ ['\\', 'E'] <:+: text) :
    Reads flags (readSequence inner) (quoted text) [] names names
      (· = Pattern.sequence ((CharMatcher.literals flags.ignoreCase text).map .char)) := by
  have read : Reads flags readQuoted (quoted text ++ []) [] names names _ :=
    readQuoted_reads unended ends_nil.settled
  rw [List.append_nil] at read
  apply readSequence_piece rfl
  apply Reads.get
  intro position
  exact read

end Reader

namespace Spelling.Quotes

variable {text pattern : List Char} (quotes : Quotes text pattern)

include quotes

/-- However a text is quoted, the literals of its characters are read. -/
theorem parseWithin_eq (limit : Nat) (flags : Flags) :
    ParsedPattern.parseWithin limit pattern flags =
      .ok ⟨Pattern.sequence ((CharMatcher.literals flags.ignoreCase text).map .char), #[]⟩ := by
  cases quotes with
  | escaped => exact ParsedPattern.parseWithin_escaped limit text flags
  | quoted unended =>
      exact ParsedPattern.parseWithin_sequence (fun _ => Reader.readSequence_quoted unended) limit

end Spelling.Quotes

/-- The patterns that quote a text differ in nothing once they are compiled. -/
theorem Regexp.compile_quoted (text : List Char) (flags : Flags) :
    ∃ (regexp : Regexp) (parsed : ParsedPattern), regexp.flags = flags ∧ parsed.pattern =
        Pattern.sequence ((CharMatcher.literals flags.ignoreCase text).map .char) ∧
      ∀ pattern, Quotes text pattern →
        compile pattern flags = .ok { regexp with pattern := pattern } ∧
        { regexp with pattern := pattern }.CompiledFrom parsed := by
  obtain ⟨parsed, parsed_eq⟩ : ∃ parsed : ParsedPattern, parsed =
    ⟨Pattern.sequence ((CharMatcher.literals flags.ignoreCase text).map .char), #[]⟩ := ⟨_, rfl⟩
  have admitted : ∀ part ∈ parsed.pattern.keptParts, parsed.Admits part := by
    rw [parsed_eq]
    exact Pattern.admits_sequence_chars _ _
  obtain ⟨program, made⟩ := (Program.ofPattern_succeeds parsed).mpr admitted
  refine ⟨⟨text, flags, program, parsed.pattern.hints, parsed.groupNames, {}⟩, parsed, rfl,
    by rw [parsed_eq], ?_⟩
  intro pattern quotes
  have parses : ParsedPattern.parse pattern flags = .ok parsed := by
    rw [parsed_eq]
    exact quotes.parseWithin_eq Reader.nestingLimit flags
  have compiles := compile_of_made parses made
  exact ⟨compiles, compiledFrom parses compiles⟩

/-! ## Searching for characters -/

/-- Literals that do not ignore case are accepted where their text stands. -/
theorem Subject.acceptsAllAt_iff_prefix {subject : Subject} {text : List Char} {position : Nat} :
    subject.acceptsAllAt (CharMatcher.literals false text) position = true ↔
      text <+: subject.chars.toList.drop position := by
  induction text generalizing position with
  | nil => simp [CharMatcher.literals, acceptsAllAt]
  | cons character text ih =>
      have here : subject.acceptsAt (CharMatcher.literal character false) position = true ↔
          subject.char? position = some character := by
        simp [acceptsAt_iff, CharMatcher.literal, CharMatcher.accepts]
      rw [CharMatcher.literals] at ih
      rw [CharMatcher.literals, List.map_cons, acceptsAllAt, Bool.and_eq_true, here, ih]
      rcases Nat.lt_or_ge position subject.chars.toList.length with before | behind
      · have found : subject.char? position = some subject.chars.toList[position] := by
          simp [char?]
        rw [List.drop_eq_getElem_cons before, List.cons_prefix_cons, found, Option.some.injEq,
          eq_comm]
      · have nothing : subject.char? position = none := by
          simpa [char?] using behind
        simp [List.drop_of_length_le behind, nothing]

theorem infix_iff_exists_drop {text whole : List Char} :
    text <:+: whole ↔ ∃ start ≤ whole.length, text <+: whole.drop start := by
  rw [List.infix_iff_prefix_suffix]
  constructor
  · rintro ⟨rest, stands, ends⟩
    rw [List.suffix_iff_eq_drop] at ends
    rw [ends] at stands
    exact ⟨_, Nat.sub_le _ _, stands⟩
  · rintro ⟨start, -, stands⟩
    exact ⟨_, stands, List.drop_suffix start whole⟩

namespace MatchState

/-- The answer to a search tells whether a text is part of the subject, and if it is, the match is
the first place where the text stands. -/
structure FindsText (text : List Char) (subject : Subject) (found : Bool) (after : MatchState) :
    Prop where
  found_iff : found = true ↔ text <:+: subject.chars.toList
  first : found = true → ∃ start ≤ subject.size,
    after.span? 0 = some ⟨start, start + text.length⟩ ∧
    text <+: subject.chars.toList.drop start ∧
    ∀ earlier < start, ¬ text <+: subject.chars.toList.drop earlier

section Chars

variable {parsed : ParsedPattern} {regexp : Regexp} (compiled : regexp.CompiledFrom parsed)
  {matchers : List CharMatcher}
  (consists : parsed.pattern = Pattern.sequence (matchers.map .char))
  (unlimited : regexp.limits.maxSteps = none) {subject : Subject}

include compiled consists unlimited

theorem matchesAt_chars {registers : Registers} (sized : registers.Sized regexp)
    {position stop : Nat} (inside : position ≤ subject.size) :
    MatchesAt regexp subject registers position stop ↔
      subject.acceptsAllAt matchers position = true ∧ stop = position + matchers.length := by
  obtain ⟨answer, after, runs, -, answer_eq⟩ :=
    attempt_chars compiled consists unlimited sized inside 0
  rw [MatchesAt, runs, answer_eq]
  constructor
  · rintro ⟨last, same⟩
    split at same
    · next accepted =>
        cases same
        exact ⟨accepted, rfl⟩
    · cases same
  · rintro ⟨accepted, rfl⟩
    rw [if_pos accepted]
    exact ⟨after, rfl⟩

/-- A search that is not anchored finds the first place where the characters are accepted. -/
theorem find_chars (floating : regexp.flags.anchored = false) (hold : HintsHold regexp subject)
    (addressable : subject.size < Width.greatestWord) (state : MatchState)
    (sized : state.registers.Sized regexp) (fresh : state.origin = 0) :
    ∃ found after, find regexp subject state = .ok (.ok found, after) ∧
      (found = true ↔
        ∃ start ≤ subject.size, subject.acceptsAllAt matchers start = true) ∧
      (found = true → ∃ start ≤ subject.size,
        after.span? 0 = some ⟨start, start + matchers.length⟩ ∧
        subject.acceptsAllAt matchers start = true ∧
        ∀ earlier < start, ¬ subject.acceptsAllAt matchers earlier = true) := by
  have tried {position : Nat} (inside : position ≤ subject.size) :
      Tried regexp subject state.origin position :=
    ⟨by omega, inside, by simp [floating]⟩
  have matches_iff {position stop : Nat} (inside : position ≤ subject.size) :
      MatchesAt regexp subject state.registers position stop ↔ _ :=
    matchesAt_chars compiled consists unlimited sized inside
  have enough : Suffices regexp subject := by
    intro position inside registers sized
    exact (attempt_chars compiled consists unlimited sized inside).weaken fun _ _ known => known.1
  have fits : ¬ Overflows regexp subject state.usesHints state.origin := by
    rw [fresh]
    exact not_overflows_zero compiled subject state.usesHints
  obtain ⟨found, after, finds⟩ := find_ends enough addressable sized fits
  refine ⟨found, after, finds, ?_⟩
  rcases find_cases compiled hold sized with
    ⟨overflow, fails⟩ | ⟨error, last, fails, -⟩ | ⟨last, fails, -, none⟩ | ⟨span, last, known⟩
  · cases fails.symm.trans finds
  · cases fails.symm.trans finds
  · cases fails.symm.trans finds
    refine ⟨⟨by simp, ?_⟩, by simp⟩
    rintro ⟨start, inside, accepted⟩
    exact absurd ((matches_iff inside).mpr ⟨accepted, rfl⟩) (none start (tried inside) _)
  · cases known.returns.symm.trans finds
    have span_eq := known.span_eq
    obtain ⟨first, matched, least⟩ := known.leftmost
    obtain ⟨accepted, stop_eq⟩ := (matches_iff first.le_size).mp matched
    refine ⟨⟨fun _ => ⟨_, first.le_size, accepted⟩, fun _ => rfl⟩, fun _ =>
      ⟨span.start, first.le_size, ?_, accepted, fun earlier before acceptedToo => ?_⟩⟩
    · rw [← stop_eq]
      exact span_eq
    · have inside := Nat.le_trans (Nat.le_of_lt before) first.le_size
      exact least earlier before (tried inside) _ ((matches_iff inside).mpr ⟨acceptedToo, rfl⟩)

end Chars

/-- The patterns that quote a text are compiled alike, under all flags but those that ignore case or
anchor matches, and a first search with them finds the text.  Without a limit on the steps it comes
to an end, however small the limit on the depth is, whether hints are used or not, on subjects that
are as short as arrays are. -/
theorem find_quoted (text : List Char) (flags : Flags) (exactly : flags.ignoreCase = false)
    (floating : flags.anchored = false) :
    ∃ regexp : Regexp, ∀ pattern, Quotes text pattern →
      Regexp.compile pattern flags = .ok { regexp with pattern := pattern } ∧
      ∀ limits : Limits, limits.maxSteps = none → ∀ subject : Subject, subject.size < 2 ^ 63 →
        ∀ usesHints,
        let limited : Regexp := { regexp with pattern := pattern, limits := limits }
        ∃ found after,
          find limited subject { MatchState.initial limited with usesHints := usesHints } =
            .ok (.ok found, after) ∧
          FindsText text subject found after := by
  obtain ⟨regexp, parsed, flags_eq, consists, compile⟩ := Regexp.compile_quoted text flags
  rw [exactly] at consists
  rw [← flags_eq] at floating
  refine ⟨regexp, fun pattern quotes => ?_⟩
  obtain ⟨compiles, compiled⟩ := compile pattern quotes
  refine ⟨compiles, fun limits unlimited subject addressable usesHints => ?_⟩
  intro limited
  have words : subject.size < Width.greatestWord := Nat.lt_trans addressable (by decide)
  obtain ⟨found, after, finds, found_iff, first⟩ :=
    find_chars (compiled.limited limits) consists unlimited floating
      (hintsHold compiles limits subject) words
      { MatchState.initial limited with usesHints := usesHints } (Registers.initial_sized _) rfl
  simp only [Subject.acceptsAllAt_iff_prefix] at found_iff first
  rw [CharMatcher.literals, List.length_map] at first
  refine ⟨found, after, finds, ?_, first⟩
  rw [found_iff, infix_iff_exists_drop]
  rfl

/-- A blank and a backslash, between `\Q` and `\E` in an extended pattern, are found behind a
letter. -/
theorem find_quoted_blank :
    ∃ regexp after,
      Regexp.compile ['\\', 'Q', ' ', '\\', '\\', 'E'] { extended := true } = .ok regexp ∧
      find { regexp with limits := ⟨0, none⟩ } ⟨#['a', ' ', '\\']⟩
        { MatchState.initial regexp with usesHints := false } = .ok (.ok true, after) ∧
      after.span? 0 = some ⟨1, 3⟩ := by
  obtain ⟨regexp, quoting⟩ := find_quoted [' ', '\\'] { extended := true } rfl rfl
  obtain ⟨compiles, searches⟩ := quoting _ (.quoted (by decide))
  obtain ⟨found, after, finds, found_iff, first⟩ :=
    searches ⟨0, none⟩ rfl ⟨#['a', ' ', '\\']⟩ (by decide) false
  obtain rfl : found = true := found_iff.mpr (by decide)
  obtain ⟨start, inside, span_eq, stands, least⟩ := first rfl
  have known : start = 1 := by
    have behind : ¬ start = 0 ∧ ¬ 1 < start := by
      refine ⟨?_, fun later => least 1 later (by decide)⟩
      rintro rfl
      exact absurd stands (by decide)
    omega
  subst known
  exact ⟨_, after, compiles, finds, span_eq⟩

end MatchState

end Backtracking
