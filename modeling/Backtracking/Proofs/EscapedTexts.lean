import Backtracking.Proofs.Acceptance
import Backtracking.Proofs.Rereading
import Backtracking.Proofs.SearchTermination

/-!
# Escaped texts

A text in which every character that could mean something else has a backslash in front of it is
read as the literals of its characters, under any flags.  It matches where these accept one
character after another.
-/

namespace Backtracking

namespace Spelling

/-- A character, with a backslash in front of it if it could mean something else. -/
def escapedChar (character : Char) : List Char :=
  if isOrdinary character then [character] else ['\\', character]

/-- A text whose characters stand for themselves. -/
def escaped (text : List Char) : List Char := text.flatMap escapedChar

theorem escapedChar_spells (Enclosed : List Pattern → List Char → Prop) (character : Char) :
    Atom Enclosed (.char (.char character)) (escapedChar character) := by
  rw [escapedChar]
  split
  · next ordinary => exact .ordinary ordinary
  · next special => exact .escaped (by simpa using special)

/-- An escaped character begins an item, and does not begin quoted text. -/
theorem escapedChar_begins (character : Char) :
    ∃ first rest, escapedChar character = first :: rest ∧ startsItem first = true ∧
      ∀ tail more, first :: rest ++ tail ≠ '\\' :: 'Q' :: more :=
  (escapedChar_spells (fun _ _ => False) character).begins

theorem length_le_escaped (text : List Char) : text.length ≤ (escaped text).length := by
  induction text with
  | nil => exact Nat.le_refl _
  | cons character text ih =>
      obtain ⟨first, rest, begins, -⟩ := escapedChar_begins character
      rw [escaped, List.flatMap_cons, begins]
      simp only [List.length_cons, List.length_append]
      exact Nat.le_trans (Nat.succ_le_succ ih) (by rw [escaped]; omega)

/-- Nothing in front of an escaped text is ignored, and no quantifier stands there. -/
theorem settled_escaped (text : List Char) {tail : List Char} (ends : Ends tail) :
    Settled (escaped text ++ tail) := by
  cases text with
  | nil => exact ends.settled
  | cons character text =>
      obtain ⟨first, rest, begins, starts, -⟩ := escapedChar_begins character
      rw [escaped, List.flatMap_cons, begins]
      exact settled_cons starts _

end Spelling

open Reading Spelling Pattern

def CharMatcher.literals (ignoresCase : Bool) (text : List Char) : List CharMatcher :=
  text.map (literal · ignoresCase)

/-! ## Reading -/

namespace Reader

section Sequences

variable {flags : Flags} {names : Array (Option String)} {inner : Inner} {tail : List Char}

theorem readPiece_single {first : Char} {rest : List Char} {atom : Pattern}
    (unquoted : ∀ quoted, first :: rest ≠ '\\' :: 'Q' :: quoted)
    (read : Reads flags (readAtom inner first) (first :: rest) tail names names (· = some atom))
    (settled : Settled tail) :
    Reads flags (readPiece inner first) (first :: rest) tail names names (· = [atom]) := by
  apply Reads.get
  intro position
  dsimp only
  split
  · next equal => exact absurd equal (unquoted _)
  · apply read.bind
    rintro _ rfl
    have unrepeated (inParentheses : Bool) :
        Reads flags (readQuantifier atom inParentheses) tail tail names names (· = atom) :=
      readQuantifier_none atom inParentheses (.inl rfl) settled
    apply (unrepeated _).bind
    rintro _ rfl
    exact .pure rfl

/-- Items are read one after another, where what begins an item stands at the front. -/
theorem readItems_starts {first : Char} {rest left : List Char} {piece before : List Pattern}
    {fuel : Nat} {property : List Pattern → Prop} (starts : startsItem first = true)
    (read : Reads flags (readPiece inner first) (first :: rest) left names names (· = piece))
    (others : Reads flags (readItems inner fuel (piece.reverse ++ before)) left tail names names
      property) :
    Reads flags (readItems inner (fuel + 1) before) (first :: rest) tail names names property := by
  have front : Settled (first :: rest) := settled_cons starts _
  have goesOn := not_ends_of_startsItem starts
  have noTrivia : Reads flags skipTrivia (first :: rest) (first :: rest) names names
      fun _ => True :=
    skipTrivia_reads (.inl rfl) front.triviaLength_eq
  apply noTrivia.bind
  rintro _ -
  apply Reads.get
  intro position
  simp only [goesOn, front.startsWithQuantifier_eq]
  apply read.bind
  rintro _ rfl
  exact others

/-- A text that is read at once, as what stands in one place, is read as a sequence. -/
theorem readSequence_piece {first : Char} {rest : List Char} {piece : List Pattern}
    (starts : startsItem first = true)
    (read : Reads flags (readPiece inner first) (first :: rest) [] names names (· = piece)) :
    Reads flags (readSequence inner) (first :: rest) [] names names
      (· = Pattern.sequence piece) := by
  have items : Reads flags (readItems inner ((first :: rest).length + 1) []) (first :: rest) []
      names names (· = piece.reverse ++ []) :=
    readItems_starts starts read (readItems_ends (.inl rfl) ends_nil _ _)
  apply Reads.get
  intro position
  apply items.bind
  rintro _ rfl
  exact .pure (by simp)

theorem readBranchesWith_sequence {text : List Char} {pattern : Pattern}
    (read : Reads flags (readSequence inner) text [] names names (· = pattern)) :
    Reads flags (readBranchesWith inner) text [] names names (· = [pattern]) := by
  apply read.bind
  rintro _ rfl
  apply Reads.get
  intro position
  apply (readMoreBranches_stops (by simp) _ _).bind
  rintro _ rfl
  exact .pure rfl

end Sequences

section Reading

variable {flags : Flags} {names : Array (Option String)} {inner : Inner} {tail : List Char}

theorem readAtom_escaped {character first : Char} {rest : List Char}
    (begins : escapedChar character = first :: rest) :
    Reads flags (readAtom inner first) (first :: (rest ++ tail)) tail names names
      (· = some (.char (CharMatcher.literal character flags.ignoreCase))) := by
  have drops : (first :: (rest ++ tail)).drop 1 = rest ++ tail := rfl
  apply Reads.get
  intro start
  apply Reads.get
  intro position
  apply (Reads.skip drops).bind
  rintro _ -
  rw [escapedChar] at begins
  split at begins
  · next ordinary =>
      obtain ⟨rfl, rfl⟩ := List.cons.inj begins
      dsimp only
      split
      case h_7 =>
        apply (literal_reads character).bind
        rintro _ rfl
        exact .pure rfl
      all_goals cases ordinary
  · next special =>
      obtain ⟨rfl, rfl⟩ := List.cons.inj begins
      exact readEscape_special (by simpa using special) start

theorem readPiece_escaped {character first : Char} {rest : List Char}
    (begins : escapedChar character = first :: rest) (settled : Settled tail) :
    Reads flags (readPiece inner first) (first :: (rest ++ tail)) tail names names
      (· = [.char (CharMatcher.literal character flags.ignoreCase)]) := by
  have notQuoted (quoted : List Char) : first :: (rest ++ tail) ≠ '\\' :: 'Q' :: quoted := by
    obtain ⟨_, _, equal, -, unquoted⟩ := escapedChar_begins character
    cases begins.symm.trans equal
    exact unquoted tail quoted
  exact readPiece_single notQuoted (readAtom_escaped begins) settled

theorem readItems_escaped (text : List Char) (ends : Ends tail) {fuel : Nat}
    (enough : text.length < fuel) (before : List Pattern) :
    Reads flags (readItems inner fuel before) (escaped text ++ tail) tail names names
      (· = ((CharMatcher.literals flags.ignoreCase text).map Pattern.char).reverse ++ before) := by
  induction text generalizing fuel before with
  | nil =>
      obtain _ | fuel := fuel
      · simp at enough
      exact readItems_ends (.inl rfl) ends fuel before
  | cons character text ih =>
      obtain _ | fuel := fuel
      · simp at enough
      obtain ⟨first, rest, begins, starts, -⟩ := escapedChar_begins character
      have whole :
          escaped (character :: text) ++ tail = first :: (rest ++ (escaped text ++ tail)) := by
        simp [escaped, begins]
      rw [whole]
      apply readItems_starts starts (readPiece_escaped begins (settled_escaped text ends))
      apply (ih (Nat.lt_of_succ_lt_succ enough) _).weaken
      rintro _ rfl
      simp [CharMatcher.literals]

theorem readSequence_escaped (text : List Char) (ends : Ends tail) :
    Reads flags (readSequence inner) (escaped text ++ tail) tail names names
      (· = Pattern.sequence ((CharMatcher.literals flags.ignoreCase text).map .char)) := by
  have enough : text.length < (escaped text ++ tail).length + 1 := by
    have shorter := length_le_escaped text
    rw [List.length_append]
    omega
  apply Reads.get
  intro position
  apply (readItems_escaped text ends enough []).bind
  rintro _ rfl
  exact .pure (by simp)

end Reading

end Reader

namespace ParsedPattern

/-- A text that is read as a sequence at every depth is the whole pattern. -/
theorem parseWithin_sequence {text : List Char} {flags : Flags} {pattern : Pattern}
    (read : ∀ inner,
      Reads flags (Reader.readSequence inner) text [] #[] #[] (· = pattern)) (limit : Nat) :
    parseWithin limit text flags = .ok ⟨pattern, #[]⟩ := by
  obtain ⟨inner, same⟩ : ∃ inner,
      Reader.readBranches limit limit = Reader.readBranchesWith inner := by
    cases limit <;> exact ⟨_, rfl⟩
  obtain ⟨branches, position, runs, rfl⟩ := Reader.readBranchesWith_sequence (read inner) 0
  rw [parseWithin, same, runs]
  rfl

/-- An escaped text is read as the literals of its characters. -/
theorem parseWithin_escaped (limit : Nat) (text : List Char) (flags : Flags) :
    parseWithin limit (escaped text) flags =
      .ok ⟨Pattern.sequence ((CharMatcher.literals flags.ignoreCase text).map .char), #[]⟩ := by
  apply parseWithin_sequence
  intro inner
  have read : Reads flags (Reader.readSequence inner) (escaped text ++ []) [] #[] #[] _ :=
    Reader.readSequence_escaped text ends_nil
  rwa [List.append_nil] at read

end ParsedPattern

/-! ## Characters one after another -/

/-- Matchers accept the characters of a subject from a position on, each of them one. -/
def Subject.acceptsAllAt (subject : Subject) : List CharMatcher → (position : Nat) → Bool
  | [], _ => true
  | matcher :: matchers, position =>
      subject.acceptsAt matcher position && acceptsAllAt subject matchers (position + 1)

theorem Subject.acceptsAllAt_iff {subject : Subject} {matchers : List CharMatcher}
    {position : Nat} :
    subject.acceptsAllAt matchers position = true ↔
      ∀ index, ∀ within : index < matchers.length,
        subject.acceptsAt matchers[index] (position + index) = true := by
  induction matchers generalizing position with
  | nil => simp [acceptsAllAt]
  | cons matcher matchers ih =>
      rw [acceptsAllAt, Bool.and_eq_true, ih]
      constructor
      · rintro ⟨first, later⟩ (_ | index) within
        · exact first
        · have known := later index (by simpa using within)
          rwa [Nat.succ_add_eq_add_succ] at known
      · intro all
        refine ⟨all 0 (by simp), fun index within => ?_⟩
        have known := all (index + 1) (by simpa using within)
        rwa [Nat.succ_add_eq_add_succ]

theorem Subject.le_size_of_acceptsAllAt {subject : Subject} {matchers : List CharMatcher}
    {position : Nat} (inside : position ≤ subject.size)
    (accepts : subject.acceptsAllAt matchers position = true) :
    position + matchers.length ≤ subject.size := by
  induction matchers generalizing position with
  | nil => exact inside
  | cons matcher matchers ih =>
      rw [acceptsAllAt, Bool.and_eq_true] at accepts
      have later := ih (lt_size_of_acceptsAt accepts.1) accepts.2
      rw [List.length_cons]
      omega

namespace Pattern

variable (parsed : ParsedPattern) (scene : Scene)

theorem outcomes_sequence (items : List Pattern) :
    (sequence items).outcomes parsed scene = sequenceOutcomes parsed scene items := by
  rcases items with _ | ⟨item, _ | ⟨second, rest⟩⟩
  · rfl
  · exact (Matching.andThen_here _).symm
  · rfl

theorem sequenceOutcomes_chars (matchers : List CharMatcher) (position : Nat)
    (captured : Captured) :
    sequenceOutcomes parsed scene (matchers.map .char) position captured =
      if scene.subject.acceptsAllAt matchers position then
        [⟨position + matchers.length, captured⟩]
      else [] := by
  induction matchers generalizing position with
  | nil => rfl
  | cons matcher matchers ih =>
      rw [List.map_cons, sequenceOutcomes, Matching.andThen, outcomes, Matching.char,
        Subject.acceptsAllAt]
      cases scene.subject.acceptsAt matcher position with
      | false => rfl
      | true =>
          simp only [if_true, List.flatMap_singleton, ih, Bool.true_and, List.length_cons,
            Nat.add_assoc, Nat.add_comm 1]

theorem frames_sequence_chars (size : Nat) (matchers : List CharMatcher) :
    (sequence (matchers.map .char)).frames size = 0 := by
  have all : framesOfAll size (matchers.map .char) = 0 := by
    induction matchers with
    | nil => rfl
    | cons matcher matchers ih => rw [List.map_cons, framesOfAll, ih, frames]
  rcases matchers with _ | ⟨matcher, _ | ⟨second, rest⟩⟩
  · rfl
  · rfl
  · exact all

theorem admits_sequence_chars (matchers : List CharMatcher) :
    ∀ part ∈ (sequence (matchers.map .char)).keptParts, parsed.Admits part := by
  have all : ∀ part ∈ keptPartsOfAll (matchers.map .char), parsed.Admits part := by
    intro part member
    rw [keptPartsOfAll_eq_flatMap] at member
    obtain ⟨_, listed, kept⟩ := List.mem_flatMap.mp member
    obtain ⟨matcher, -, rfl⟩ := List.mem_map.mp listed
    obtain rfl := List.mem_singleton.mp kept
    exact trivial
  rcases matchers with _ | ⟨matcher, _ | ⟨second, rest⟩⟩
  · simp [sequence, keptParts, ParsedPattern.Admits]
  · simp [sequence, keptParts, ParsedPattern.Admits]
  · intro part member
    rcases List.mem_cons.mp member with rfl | member
    · exact trivial
    · exact all part member

end Pattern

theorem Regexp.exists_compile_of_chars {text : List Char} {flags : Flags}
    {matchers : List CharMatcher}
    (parses : ParsedPattern.parse text flags =
      .ok ⟨Pattern.sequence (matchers.map .char), #[]⟩) :
    ∃ regexp, compile text flags = .ok regexp ∧
      regexp.CompiledFrom ⟨Pattern.sequence (matchers.map .char), #[]⟩ := by
  obtain ⟨program, made⟩ :=
    (Program.ofPattern_succeeds ⟨_, #[]⟩).mpr (Pattern.admits_sequence_chars _ matchers)
  obtain ⟨regexp, compiles⟩ := exists_compile_of_made parses made
  exact ⟨regexp, compiles, compiledFrom parses compiles⟩

namespace MatchState

/-- What a single attempt at a position gives back tells whether a condition holds, and if it does
the match has a given length. -/
structure Tells (condition : Prop) (position length : Nat) (answer : Option Nat)
    (after : MatchState) : Prop where
  holds : condition → answer = some position ∧ after.span? 0 = some ⟨position, position + length⟩
  fails : ¬ condition → answer = none

theorem Tells.congr {condition conditionToo : Prop} {position length : Nat} {answer : Option Nat}
    {after : MatchState} (tells : Tells condition position length answer after)
    (same : condition ↔ conditionToo) : Tells conditionToo position length answer after :=
  ⟨fun holds => tells.holds (same.mpr holds), fun fails => tells.fails fun holds =>
    fails (same.mp holds)⟩

/-- An attempt at a position accepts the characters that a pattern consists of, if they are there,
however small the limit on the depth. -/
theorem attempt_chars {parsed : ParsedPattern} {regexp : Regexp}
    (compiled : regexp.CompiledFrom parsed) {matchers : List CharMatcher}
    (consists : parsed.pattern = Pattern.sequence (matchers.map .char))
    (unlimited : regexp.limits.maxSteps = none) {subject : Subject} {registers : Registers}
    (sized : registers.Sized regexp) {position : Nat} (inside : position ≤ subject.size) :
    ((trial regexp subject).attempt position).Yields registers fun answer after =>
      after.Alike registers ∧
      answer = if subject.acceptsAllAt matchers position = true then
        some (position + matchers.length) else none := by
  have shallow : parsed.pattern.frames subject.size ≤ regexp.limits.maxDepth := by
    rw [consists, Pattern.frames_sequence_chars]
    exact Nat.zero_le _
  have attempted : ((trial regexp subject).attempt position).Yields registers _ :=
    Trial.attempt_yields compiled rfl inside unlimited shallow sized
  apply attempted.weaken
  rintro answer after ⟨alike, answer_eq, -⟩
  refine ⟨alike, ?_⟩
  rw [ParsedPattern.outcomes, consists, Pattern.outcomes_sequence,
    Pattern.sequenceOutcomes_chars] at answer_eq
  change answer = Option.map Outcome.stop (List.head? (if subject.acceptsAllAt matchers position
    then _ else _)) at answer_eq
  rw [answer_eq]
  split <;> rfl

/-- An attempt at a position finds the characters that a pattern consists of, if they are there. -/
theorem exec_chars {parsed : ParsedPattern} {regexp : Regexp}
    (compiled : regexp.CompiledFrom parsed) {matchers : List CharMatcher}
    (consists : parsed.pattern = Pattern.sequence (matchers.map .char))
    (unlimited : regexp.limits.maxSteps = none) (subject : Subject) {state : MatchState}
    (sized : state.registers.Sized regexp) (position : Nat) :
    ∃ answer after, exec regexp subject position state = (.ok answer, after) ∧
      Tells (position ≤ subject.size ∧ subject.acceptsAllAt matchers position = true) position
        matchers.length answer after := by
  rw [exec]
  split
  · next beyond =>
      exact ⟨_, _, rfl, fun both => absurd both.1 (Nat.not_le_of_gt beyond), fun _ => rfl⟩
  · next within =>
      have inside : position ≤ subject.size := Nat.le_of_not_lt within
      obtain ⟨answer, after, runs, alike, answer_eq⟩ :=
        attempt_chars compiled consists unlimited sized inside 0
      rw [runs]
      by_cases accepted : subject.acceptsAllAt matchers position = true
      · rw [if_pos accepted] at answer_eq
        subst answer_eq
        have zeroth : 0 < after.registers.captures.size := by
          rw [(sized.of_alike alike).captures_size]
          exact Nat.succ_pos _
        refine ⟨_, _, rfl, fun _ => ⟨rfl, ?_⟩, fun fails => absurd ⟨inside, accepted⟩ fails⟩
        simp only [accept, span?, Registers.capture?, Registers.setCapture]
        simp [zeroth]
      · rw [if_neg accepted] at answer_eq
        subst answer_eq
        exact ⟨_, _, rfl, fun both => absurd both.2 accepted, fun _ => rfl⟩

/-- An escaped text is compiled, and matches where the literals of its characters accept those of
the subject. -/
theorem exec_escaped (text : List Char) (flags : Flags) :
    ∃ regexp, Regexp.compile (escaped text) flags = .ok regexp ∧
      ∀ limits : Limits, limits.maxSteps = none → ∀ subject state,
        Reachable { regexp with limits := limits } subject state → ∀ position,
          ∃ answer after,
            exec { regexp with limits := limits } subject position state = (.ok answer, after) ∧
            Tells (position ≤ subject.size ∧ subject.acceptsAllAt
                (CharMatcher.literals flags.ignoreCase text) position = true)
              position text.length answer after := by
  obtain ⟨regexp, compiles, compiled⟩ := Regexp.exists_compile_of_chars
    (ParsedPattern.parseWithin_escaped Reader.nestingLimit text flags)
  refine ⟨regexp, compiles, fun limits unlimited subject state reachable position => ?_⟩
  have known :=
    exec_chars (compiled.limited limits) rfl unlimited subject reachable.sized position
  rwa [CharMatcher.literals, List.length_map] at known

end MatchState

end Backtracking
