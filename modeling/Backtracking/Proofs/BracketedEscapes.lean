import Backtracking.Proofs.CaselessShorthands
import Backtracking.Proofs.ClassReading
import Backtracking.Proofs.EscapedTexts

/-!
# Escapes within brackets

A shorthand or a property stands for a set of characters, outside brackets as well as within.  What
is meant may be the other characters: outside the set is negated, and within it is complemented,
which comes to the same.  But only a bracketed class ignores case: it accepts a character as well if
the escape accepts one of the character's forms.
-/

namespace Backtracking

open Reading CharRange ClassItem

/-! ## Sets -/

/-- Whether a set of ranges, or its complement, has a character as a member. -/
def Escape.ClassRef.denotes (reference : Escape.ClassRef) (character : Char) : Bool :=
  covers reference.ranges character != reference.negated

/-- Whether a test accepts a character or, if case is ignored, one of its forms. -/
def testsForms (ignoresCase : Bool) (test : Char → Bool) (character : Char) : Bool :=
  test character || ignoresCase && (test (lowerCase character) || test (upperCase character))

/-- Where forms pass a test only if their characters do, nothing more is accepted with them. -/
theorem testsForms_eq {test : Char → Bool} {ignoresCase : Bool}
    (known : ignoresCase = false ∨ ∀ character, test character = false →
      test (lowerCase character) = false ∧ test (upperCase character) = false) :
    testsForms ignoresCase test = test := by
  funext character
  rcases known with rfl | fails
  · simp [testsForms]
  · cases passes : test character with
    | true => simp [testsForms, passes]
    | false => simp [testsForms, passes, fails character passes]

/-- The escapes that stand for a set of characters, as they are written behind a backslash. -/
inductive SetEscape (unicode : Bool) : Escape.ClassRef → List Char → Prop where
  | shorthand {letter : Char} (known : NamedClass.isShorthand letter = true) :
      SetEscape unicode
        ⟨NamedClass.shorthand letter unicode, NamedClass.isNegatedShorthand letter⟩ [letter]
  | property {letter : Char} (known : letter = 'p' ∨ letter = 'P') {name : List Char}
      {ranges : List CharRange} (named : PropertyName.ranges? name = some ranges)
      (negated : Bool) :
      SetEscape unicode ⟨ranges, decide (letter = 'P') != negated⟩
        (letter :: '{' :: (caret negated ++ (name ++ ['}'])))
  | initial {letter : Char} (known : letter = 'p' ∨ letter = 'P') {name : Char}
      {ranges : List CharRange} (named : PropertyName.ranges? [name] = some ranges) :
      SetEscape unicode ⟨ranges, decide (letter = 'P')⟩ [letter, name]

/-- The shorthands whose sets hold no form of a character that they do not hold themselves.  That of
the characters that are not those of words is one of them in ASCII only. -/
inductive CaselessShorthand (unicode : Bool) : List Char → Prop where
  | either {letter : Char} (known : letter ∈ ['d', 'D', 's', 'S', 'h', 'H', 'v', 'V']) :
      CaselessShorthand unicode [letter]
  | word (ascii : unicode = false) : CaselessShorthand unicode ['W']

namespace SetEscape

variable {unicode : Bool} {reference : Escape.ClassRef} {escape : List Char}

/-- A form of a character belongs to the set of such a shorthand only if the character does. -/
theorem denotes_forms (stands : SetEscape unicode reference escape)
    (caseless : CaselessShorthand unicode escape) (character : Char)
    (outside : reference.denotes character = false) :
    reference.denotes (lowerCase character) = false ∧
      reference.denotes (upperCase character) = false := by
  cases caseless with
  | @either letter known =>
      cases stands
      have same : Caseless (NamedClass.shorthand letter unicode) := by
        apply NamedClass.caseless_shorthand
        simp only [List.mem_cons, List.not_mem_nil, or_false] at known ⊢
        rcases known with rfl | rfl | rfl | rfl | rfl | rfl | rfl | rfl <;> decide
      rw [Escape.ClassRef.denotes] at outside ⊢
      rw [Escape.ClassRef.denotes, (same character).1, (same character).2]
      exact ⟨outside, outside⟩
  | word ascii =>
      subst ascii
      cases stands
      have closed := NamedClass.caseClosed_word character
      simpa [Escape.ClassRef.denotes, NamedClass.isNegatedShorthand] using
        closed (by simpa [Escape.ClassRef.denotes, NamedClass.isNegatedShorthand] using outside)

end SetEscape

/-! ## Reading -/

namespace SetEscape

variable {flags : Flags} {names : Array (Option String)} {tail : List Char}
  {reference : Escape.ClassRef} {escape : List Char}

theorem reads_reference (stands : SetEscape flags.unicode reference escape) :
    ∃ letter rest, escape = letter :: rest ∧
      (NamedClass.isShorthand letter = true ∧ (∀ names tail,
        Reads flags (Escape.readShorthand letter) (rest ++ tail) tail names names (· = reference)) ∨
      (letter = 'p' ∨ letter = 'P') ∧ ∀ start names tail,
        Reads flags (Escape.readProperty letter start) (rest ++ tail) tail names names
          (· = reference)) := by
  cases stands with
  | @shorthand letter known =>
      exact ⟨letter, [], rfl, .inl ⟨known, fun _ _ => Bracket.readShorthand_reads letter⟩⟩
  | @property letter known name ranges named negated =>
      refine ⟨letter, _, rfl, .inr ⟨known, fun start names tail => ?_⟩⟩
      have read : Reads flags (Escape.readProperty letter start) _ tail names names _ :=
        Bracket.readProperty_reads named negated start
      simpa using read
  | @initial letter known name ranges named =>
      refine ⟨letter, [name], rfl, .inr ⟨known, fun start names tail => ?_⟩⟩
      have unbraced : ([name] ++ tail).head? ≠ some '{' := by
        rintro ⟨⟩
        cases Escape.isNameChar_of_ranges? named (List.mem_singleton.mpr rfl)
      have nameRead : Reads flags (Escape.readPropertyName start) ([name] ++ tail) tail names names
          (· = ([name], false)) := by
        apply (Reads.refused unbraced).bind
        rintro _ rfl
        apply Reads.next?.bind
        rintro _ rfl
        exact .pure rfl
      apply nameRead.bind
      rintro _ rfl
      simp only [named]
      exact .pure (by simp)

theorem reads_alone (stands : SetEscape flags.unicode reference escape) (start : Nat) :
    Reads flags (Reader.readEscape start) (escape ++ tail) tail names names
      (· = some (Reader.classPattern reference)) := by
  obtain ⟨letter, rest, rfl, ⟨known, reads⟩ | ⟨known, reads⟩⟩ := stands.reads_reference
  · apply Reads.next?.bind
    rintro _ rfl
    apply Reads.get
    intro position
    dsimp only
    split
    case h_14 =>
      rw [if_pos known]
      apply (reads names tail).bind
      rintro _ rfl
      exact .pure rfl
    all_goals cases known
  · apply Reads.next?.bind
    rintro _ rfl
    apply Reads.get
    intro position
    rcases known with rfl | rfl
    · apply (reads start names tail).bind
      rintro _ rfl
      exact .pure rfl
    · apply (reads start names tail).bind
      rintro _ rfl
      exact .pure rfl

theorem reads_item (stands : SetEscape flags.unicode reference escape) (start : Nat) :
    Reads flags (Bracket.readEscape start) (escape ++ tail) tail names names
      (· = .set reference.members) := by
  obtain ⟨letter, rest, rfl, ⟨known, reads⟩ | ⟨known, reads⟩⟩ := stands.reads_reference
  · exact Bracket.readEscape_shorthand known (reads names tail) start
  · exact Bracket.readEscape_property known (reads start names tail)

end SetEscape

/-- A class of a single set has its members, or with a caret all other characters. -/
theorem Bracket.read_set {flags : Flags} {names : Array (Option String)} {text tail : List Char}
    {members : List CharRange}
    (item : ∀ start, Reads flags (readEscape start) (text ++ ']' :: tail) (']' :: tail) names names
      (· = .set members)) (negated : Bool) (start : Nat) :
    Reads flags (read start) (caret negated ++ '\\' :: (text ++ ']' :: tail)) tail names names
      (· = CharSet.ofRanges (members ++ []) negated flags.ignoreCase) := by
  have unnamed :
      (Scan.posixName? (caret negated ++ '\\' :: (text ++ ']' :: tail))).isSome = false := by
    cases negated <;> rfl
  obtain ⟨fuel, enough⟩ : ∃ fuel,
      (caret negated ++ '\\' :: (text ++ ']' :: tail)).length + 1 = fuel + 2 := by
    simp only [List.length_append, List.length_cons]
    exact ⟨_, rfl⟩
  have items : Reads flags (readItems start (fuel + 2) true []) ('\\' :: (text ++ ']' :: tail)) tail
      names names (· = members ++ []) := by
    apply Reads.get
    intro position
    apply Reads.next?.bind
    rintro _ rfl
    apply (item position).bind
    rintro _ rfl
    apply Reads.get
    intro position
    apply Reads.next?.bind
    rintro _ rfl
    exact .pure rfl
  apply Reads.get
  intro position
  dsimp only
  rw [unnamed, enough]
  apply (accept_caret (by simp)).bind
  rintro _ rfl
  apply items.bind
  rintro _ rfl
  exact .pure rfl

/-! ## Patterns of one character -/

namespace MatchState

/-- An attempt at any position, whatever was searched for before, succeeds where a character stands
that passes a test, and then the match is this character. -/
def Accepts (regexp : Regexp) (test : Char → Bool) : Prop :=
  ∀ limits : Limits, limits.maxSteps = none → ∀ subject state,
    Reachable { regexp with limits := limits } subject state → ∀ position,
      ∃ answer after,
        exec { regexp with limits := limits } subject position state = (.ok answer, after) ∧
        Tells ((subject.char? position).any test = true) position 1 answer after

/-- A text that is read as one matcher is compiled, and accepts what the matcher accepts. -/
theorem accepts_of_reads {first : Char} {rest : List Char} {flags : Flags} {matcher : CharMatcher}
    (starts : Spelling.startsItem first = true)
    (unquoted : ∀ quoted, first :: rest ≠ '\\' :: 'Q' :: quoted)
    (atom : ∀ inner, Reads flags (Reader.readAtom inner first) (first :: rest) [] #[] #[]
      (· = some (.char matcher))) :
    ∃ regexp, Regexp.compile (first :: rest) flags = .ok regexp ∧
      Accepts regexp matcher.accepts := by
  have read (inner : Reader.Inner) : Reads flags (Reader.readSequence inner) (first :: rest) [] #[]
      #[] (· = Pattern.sequence ([matcher].map .char)) :=
    Reader.readSequence_piece starts
      (Reader.readPiece_single unquoted (atom inner) Spelling.ends_nil.settled)
  obtain ⟨regexp, compiles, compiled⟩ := Regexp.exists_compile_of_chars
    (ParsedPattern.parseWithin_sequence read Reader.nestingLimit)
  refine ⟨regexp, compiles, fun limits unlimited subject state reachable position => ?_⟩
  obtain ⟨answer, after, runs, tells⟩ : ∃ answer after,
      exec { regexp with limits := limits } subject position state = (.ok answer, after) ∧
      Tells (position ≤ subject.size ∧ subject.acceptsAllAt [matcher] position = true) position 1
        answer after :=
    exec_chars (compiled.limited limits) rfl unlimited subject reachable.sized position
  refine ⟨answer, after, runs, tells.congr ?_⟩
  rw [Subject.acceptsAllAt, Subject.acceptsAllAt, Bool.and_true]
  constructor
  · rintro ⟨-, accepts⟩
    exact accepts
  · intro accepts
    exact ⟨Nat.le_of_lt (Subject.lt_size_of_acceptsAt accepts), accepts⟩

theorem Accepts.congr {regexp : Regexp} {test testToo : Char → Bool}
    (accepts : Accepts regexp test) (same : ∀ character, test character = testToo character) :
    Accepts regexp testToo := by
  rwa [← funext same]

end MatchState

namespace SetEscape

open MatchState

variable {flags : Flags} {reference : Escape.ClassRef} {escape : List Char}

theorem compile_alone (stands : SetEscape flags.unicode reference escape) :
    ∃ regexp, Regexp.compile ('\\' :: escape) flags = .ok regexp ∧
      Accepts regexp reference.denotes := by
  have unquoted (quoted : List Char) : '\\' :: escape ≠ '\\' :: 'Q' :: quoted := by
    rintro ⟨⟩
    obtain ⟨letter, rest, ⟨⟩, ⟨known, -⟩ | ⟨known, -⟩⟩ := stands.reads_reference
    · cases known
    · simp at known
  have atom (inner : Reader.Inner) : Reads flags (Reader.readAtom inner '\\') ('\\' :: escape) []
      #[] #[] (· = some (Reader.classPattern reference)) := by
    apply Reads.get
    intro start
    have read : Reads flags (Reader.readEscape start) (escape ++ []) [] #[] #[] _ :=
      stands.reads_alone start
    rw [List.append_nil] at read
    apply Reads.get
    intro position
    apply (Reads.skip rfl).bind
    rintro _ -
    exact read
  obtain ⟨regexp, compiles, accepts⟩ := accepts_of_reads rfl unquoted atom
  refine ⟨regexp, compiles, accepts.congr fun character => ?_⟩
  rw [CharMatcher.accepts, CharSet.contains_ofRanges]
  simp [Escape.ClassRef.denotes]

theorem compile_bracketed (stands : SetEscape flags.unicode reference escape) (negated : Bool) :
    ∃ regexp,
      Regexp.compile ('[' :: (caret negated ++ '\\' :: (escape ++ [']']))) flags = .ok regexp ∧
      Accepts regexp (testsForms flags.ignoreCase reference.denotes · != negated) := by
  have unquoted (quoted : List Char) :
      '[' :: (caret negated ++ '\\' :: (escape ++ [']'])) ≠ '\\' :: 'Q' :: quoted := by
    rintro ⟨⟩
  have atom (inner : Reader.Inner) : Reads flags (Reader.readAtom inner '[')
      ('[' :: (caret negated ++ '\\' :: (escape ++ [']']))) [] #[] #[]
      (· = some (.char (.set
        (CharSet.ofRanges (reference.members ++ []) negated flags.ignoreCase)))) := by
    apply Reads.get
    intro start
    apply Reads.get
    intro position
    apply (Reads.skip rfl).bind
    rintro _ -
    apply (Bracket.read_set stands.reads_item negated start).bind
    rintro _ rfl
    exact .pure rfl
  obtain ⟨regexp, compiles, accepts⟩ := accepts_of_reads rfl unquoted atom
  refine ⟨regexp, compiles, accepts.congr fun character => ?_⟩
  rw [CharMatcher.accepts, CharSet.contains_ofRanges]
  simp [Escape.ClassRef.denotes, testsForms, Escape.ClassRef.covers_members]

/-- A class of an escape accepts the characters that the escape accepts, and where case is ignored
those besides of which it accepts a form; with a caret it accepts all others.  So both are alike
where case is not ignored, and for the shorthands that no form changes. -/
theorem accepts_bracketed (flags : Flags) (stands : SetEscape flags.unicode reference escape) :
    ∃ alone within without : Regexp,
      Regexp.compile ('\\' :: escape) flags = .ok alone ∧
      Regexp.compile ('[' :: '\\' :: (escape ++ [']'])) flags = .ok within ∧
      Regexp.compile ('[' :: '^' :: '\\' :: (escape ++ [']'])) flags = .ok without ∧
      Accepts alone reference.denotes ∧
      Accepts within (testsForms flags.ignoreCase reference.denotes) ∧
      Accepts without (!testsForms flags.ignoreCase reference.denotes ·) ∧
      (flags.ignoreCase = false ∨ CaselessShorthand flags.unicode escape →
        Accepts within reference.denotes ∧ Accepts without (!reference.denotes ·)) := by
  obtain ⟨alone, compiles, accepts⟩ := stands.compile_alone
  obtain ⟨within, compilesWithin, acceptsWithin⟩ := stands.compile_bracketed false
  obtain ⟨without, compilesWithout, acceptsWithout⟩ := stands.compile_bracketed true
  have acceptsSame : Accepts within (testsForms flags.ignoreCase reference.denotes) :=
    acceptsWithin.congr fun character => Bool.bne_false _
  have acceptsOthers : Accepts without (!testsForms flags.ignoreCase reference.denotes ·) :=
    acceptsWithout.congr fun character => Bool.bne_true _
  refine ⟨alone, within, without, compiles, compilesWithin, compilesWithout, accepts, acceptsSame,
    acceptsOthers, fun known => ?_⟩
  have same : testsForms flags.ignoreCase reference.denotes = reference.denotes :=
    testsForms_eq (known.imp_right stands.denotes_forms)
  rw [same] at acceptsSame acceptsOthers
  exact ⟨acceptsSame, acceptsOthers⟩

/-- The characters that are not those of words in ASCII, without regard to case. -/
theorem accepts_bracketed_others :
    ∃ alone within : Regexp,
      Regexp.compile ['\\', 'W'] { ignoreCase := true } = .ok alone ∧
      Regexp.compile ['[', '\\', 'W', ']'] { ignoreCase := true } = .ok within ∧
      ∃ test, Accepts alone test ∧ Accepts within test ∧ test '-' = true ∧ test 'k' = false := by
  have stands : SetEscape false ⟨NamedClass.shorthand 'W' false, true⟩ ['W'] :=
    .shorthand (by decide)
  obtain ⟨alone, within, _, compiles, compilesWithin, -, accepts, -, -, alike⟩ :=
    accepts_bracketed { ignoreCase := true } stands
  exact ⟨alone, within, compiles, compilesWithin, _, accepts, (alike (.inr (.word rfl))).1,
    by decide, by decide⟩

set_option maxRecDepth 10000 in
theorem covers_uppercaseLetter :
    covers GeneralCategory.uppercaseLetter.ranges 'a' = false ∧
      covers GeneralCategory.uppercaseLetter.ranges (upperCase 'a') = true := by
  rw [GeneralCategory.ranges, GeneralCategory.rangeText, ofText_ofList rfl]
  decide +kernel

/-- A small letter is no capital letter, but has one as a form: without regard to case the class of
the property accepts it, and the property does not. -/
theorem small_letter_bracketed :
    ∃ (alone within : Regexp) (after afterWithin : MatchState),
      Regexp.compile ['\\', 'p', '{', 'L', 'u', '}'] { ignoreCase := true } = .ok alone ∧
      Regexp.compile ['[', '\\', 'p', '{', 'L', 'u', '}', ']'] { ignoreCase := true } = .ok within ∧
      exec { alone with limits := {} } ⟨#['a']⟩ 0 (.initial alone) = (.ok none, after) ∧
      exec { within with limits := {} } ⟨#['a']⟩ 0 (.initial within) =
        (.ok (some 0), afterWithin) := by
  have named : PropertyName.ranges? ['L', 'u'] =
      some (GeneralCategory.union [.uppercaseLetter]) := rfl
  obtain ⟨small, capital⟩ := covers_uppercaseLetter
  rw [← GeneralCategory.covers_union_singleton] at small capital
  have stands : SetEscape (Flags.unicode { ignoreCase := true })
      ⟨GeneralCategory.union [.uppercaseLetter], false⟩ ['p', '{', 'L', 'u', '}'] :=
    .property (.inl rfl) named false
  obtain ⟨alone, compiles, accepts⟩ := stands.compile_alone
  obtain ⟨within, compilesWithin, acceptsWithin⟩ := stands.compile_bracketed false
  obtain ⟨_, after, runs, tells⟩ := accepts {} rfl ⟨#['a']⟩ _ .initial 0
  obtain ⟨_, afterWithin, runsWithin, tellsWithin⟩ :=
    acceptsWithin {} rfl ⟨#['a']⟩ _ .initial 0
  have here : Subject.char? ⟨#['a']⟩ 0 = some 'a' := rfl
  have fails : Escape.ClassRef.denotes ⟨GeneralCategory.union [.uppercaseLetter], false⟩ 'a' =
      false := by
    rw [Escape.ClassRef.denotes, small, Bool.bne_false]
  have passes :
      Escape.ClassRef.denotes ⟨GeneralCategory.union [.uppercaseLetter], false⟩ (upperCase 'a') =
        true := by
    rw [Escape.ClassRef.denotes, capital, Bool.bne_false]
  obtain rfl := tells.fails (by rw [here, Option.any_some, fails]; decide)
  obtain ⟨rfl, -⟩ := tellsWithin.holds (by
    rw [here, Option.any_some, testsForms, fails, passes, Bool.or_true]
    rfl)
  exact ⟨alone, within, after, afterWithin, compiles, compilesWithin, runs, runsWithin⟩

end SetEscape

end Backtracking
