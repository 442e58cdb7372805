import Backtracking.Proofs.GroupNumbers
import Backtracking.Proofs.KnownReadings
import Backtracking.Proofs.Offsets
import Backtracking.Proofs.Spelling

/-!
# Reading the parts of what is spelt

Quantifiers, escapes and groups are read as they are spelt.  For groups it is supposed that what
they enclose is.
-/

namespace Backtracking

namespace Pattern

/-! ## Sequences and choices -/

theorem groups_sequence (items : List Pattern) : (sequence items).groups = groupsOfAll items := by
  rcases items with _ | ⟨item, _ | ⟨second, rest⟩⟩
  · rfl
  · simp [sequence]
  · rfl

theorem groups_choice (branches : List Pattern) :
    (choice branches).groups = groupsOfAll branches := by
  rcases branches with _ | ⟨branch, _ | ⟨second, rest⟩⟩
  · rfl
  · simp [choice]
  · rfl

theorem withoutOffsets_sequence (items : List Pattern) :
    (sequence items).withoutOffsets = sequence (items.map withoutOffsets) := by
  rcases items with _ | ⟨item, _ | ⟨second, rest⟩⟩
  · rfl
  · rfl
  · exact congrArg concat (allWithoutOffsets_eq_map _)

theorem withoutOffsets_choice (branches : List Pattern) :
    (choice branches).withoutOffsets = choice (branches.map withoutOffsets) := by
  rcases branches with _ | ⟨branch, _ | ⟨second, rest⟩⟩
  · rfl
  · rfl
  · exact congrArg alternation (allWithoutOffsets_eq_map _)

end Pattern

open Reading Pattern Spelling

namespace Reader

/-! ## Blanks and quantifiers -/

section Quantifiers

variable {flags : Flags} {names : Array (Option String)} {extended : Bool} {gap tail : List Char}

theorem literal_reads (character : Char) :
    Reads flags (literal character) tail tail names names
      (· = .char (CharMatcher.literal character flags.ignoreCase)) := by
  apply Reads.get
  intro position
  exact .pure rfl

theorem skipTrivia_reads (ignored : Gap flags.extended gap)
    (stops : Scan.triviaLength false tail = 0) :
    Reads flags skipTrivia (gap ++ tail) tail names names fun _ => True := by
  apply Reads.get
  intro position
  dsimp only
  cases extended : flags.extended with
  | false =>
      obtain rfl : gap = [] := by simpa [Gap, extended] using ignored
      exact .pure trivial
  | true =>
      have trivia : Trivia gap := by
        rcases ignored with rfl | ⟨-, trivia⟩
        · exact .nil
        · exact trivia
      have drops : (gap ++ tail).drop (Scan.triviaLength false (gap ++ tail)) = tail := by
        rw [trivia.length_eq stops, List.drop_left]
      exact .skip drops

theorem readBounds?_none (settled : Settled tail) :
    Reads flags readBounds? tail tail names names (· = none) := by
  apply Reads.get
  intro position
  dsimp only
  split
  · cases (settled _ rfl).1
  · cases (settled _ rfl).1
  · cases (settled _ rfl).1
  · rw [settled.bounds?_eq]
    exact .pure rfl

theorem readBounds?_some {least : Nat} {most : Option Nat} {bounds : List Char}
    (numbers : Bounds least most bounds) (legal : Repeatable least most) :
    Opens extended readBounds? [] (bounds ++ tail) tail (· = some (least, most)) := by
  have found := bounds?_of_bounds numbers legal tail
  obtain ⟨rest, rfl⟩ : ∃ rest, bounds = '{' :: rest := by cases numbers <;> exact ⟨_, rfl⟩
  have small : (least > greatestRepetition || most.any (· > greatestRepetition)) = false := by
    have high bound (equal : most = some bound) := (legal.2 bound equal).2
    cases most <;> simp_all [legal.1]
  have ordered : most.any (· < least) = false := by
    have order bound (equal : most = some bound) := (legal.2 bound equal).1
    cases most <;> simp_all
  apply Opens.get
  rintro ⟨_, position, _, names⟩ rfl rfl
  simp only [List.cons_append] at found ⊢
  rw [found]
  simp only [small, ordered]
  have drops : ('{' :: (rest ++ tail)).drop ('{' :: rest).length = tail := List.drop_left
  apply Opens.after (.skip drops)
  rintro _ -
  exact .pure rfl

/-- A plus sign or a question mark behind the bounds would belong to them. -/
theorem readMode_opens (mode : RepeatMode)
    (other : ∀ character ∈ tail.head?, character ≠ '+' ∧ character ≠ '?') :
    Opens extended readMode [] (suffix mode ++ tail) tail (· = mode) := by
  have ends {text : List Char} {turned : Bool} (known : mode = if turned then .lazy else .greedy) :
      Opens extended (do
        let cursor ← get
        return if turned != cursor.flags.ungreedy then .lazy else .greedy : Reading RepeatMode)
        [] text text (· = mode) := by
    apply Opens.get
    rintro ⟨_, position, _, names⟩ rfl rfl
    apply Opens.pure
    rw [known]
    cases turned <;> rfl
  have noPlus : tail.head? ≠ some '+' := fun first => (other _ first).1 rfl
  have noMark : tail.head? ≠ some '?' := fun first => (other _ first).2 rfl
  cases mode with
  | greedy =>
      apply Opens.after (.none fun _ => .refused noPlus)
      rintro _ rfl
      apply Opens.after (.none fun _ => .refused noMark)
      rintro _ rfl
      exact ends rfl
  | lazy =>
      apply Opens.after (.none fun _ => .refused (by simp [suffix]))
      rintro _ rfl
      apply Opens.after (.none fun _ => .accepted)
      rintro _ rfl
      exact ends rfl
  | possessive =>
      apply Opens.after (.none fun _ => .accepted)
      rintro _ rfl
      exact .pure rfl

theorem readQuantifier_none (atom : Pattern) (inParentheses : Bool)
    (ignored : Gap flags.extended gap) (settled : Settled tail) :
    Reads flags (readQuantifier atom inParentheses) (gap ++ tail) tail names names (· = atom) := by
  apply (skipTrivia_reads ignored settled.triviaLength_eq).bind
  rintro _ -
  apply Reads.get
  intro position
  apply (readBounds?_none settled).bind
  rintro _ rfl
  exact .pure rfl

theorem readQuantifier_repeated {atom : Pattern} {inParentheses : Bool} {least : Nat}
    {most : Option Nat} {bounds : List Char} (mode : RepeatMode)
    (repeatable : ∀ assertion, atom = .assert assertion → inParentheses = true)
    (ignored : Gap extended gap) (numbers : Bounds least most bounds)
    (legal : Repeatable least most)
    (other : ∀ character ∈ tail.head?, character ≠ '+' ∧ character ≠ '?') :
    Opens extended (readQuantifier atom inParentheses) [] (gap ++ (bounds ++ suffix mode ++ tail))
      tail (· = .repeated atom least most mode) := by
  have stops : Scan.triviaLength false (bounds ++ suffix mode ++ tail) = 0 := by
    cases numbers <;> rfl
  apply Opens.after (.none fun _ => skipTrivia_reads ignored stops)
  rintro _ -
  apply Opens.get
  rintro _ - -
  rw [List.append_assoc]
  apply Opens.after (readBounds?_some numbers legal)
  rintro _ rfl
  have finish : Opens extended (do return Pattern.repeated atom least most (← readMode)) []
      (suffix mode ++ tail) tail (· = .repeated atom least most mode) := by
    apply Opens.after (readMode_opens mode other)
    rintro _ rfl
    exact .pure rfl
  cases atom with
  | assert assertion =>
      obtain rfl := repeatable assertion rfl
      exact finish
  | _ => exact finish

end Quantifiers

/-! ## Escapes and references -/

section Escapes

variable {flags : Flags} {names : Array (Option String)} {extended : Bool} {tail : List Char}

/-- A special character behind a backslash stands for itself. -/
theorem readEscape_special {character : Char} (special : isOrdinary character = false)
    (start : Nat) :
    Reads flags (readEscape start) (character :: tail) tail names names
      (· = some (.char (CharMatcher.literal character flags.ignoreCase))) := by
  have notAlphanum : character.isAlphanum = false := by
    simp only [isOrdinary, Bool.or_eq_false_iff] at special
    exact special.1
  have notShorthand : NamedClass.isShorthand character = false := by
    have letters : ['d', 'D', 's', 'S', 'w', 'W', 'h', 'H', 'v', 'V'].all Char.isAlphanum = true :=
      rfl
    rw [NamedClass.isShorthand, List.contains_eq_mem, decide_eq_false_iff_not]
    intro member
    rw [List.all_eq_true.mp letters character member] at notAlphanum
    cases notAlphanum
  have notDigit : ('1' ≤ character && character ≤ '9') = false := by
    by_contra digit
    have bounds : '1' ≤ character ∧ character ≤ '9' := by simpa using digit
    have isDigit : character.isDigit = true := by
      simp only [Char.isDigit, Bool.and_eq_true, decide_eq_true_eq]
      exact ⟨Nat.le_trans (by decide) bounds.1, bounds.2⟩
    simp [Char.isAlphanum, isDigit] at notAlphanum
  have itself : Reads flags (Escape.readChar character start) tail tail names names
      (· = character) := by
    unfold Escape.readChar
    split
    case h_11 =>
      rw [notAlphanum]
      exact .pure rfl
    all_goals cases notAlphanum
  apply Reads.next?.bind
  rintro _ rfl
  apply Reads.get
  intro position
  dsimp only
  split
  case h_14 =>
    rw [notShorthand, notDigit]
    apply itself.bind
    rintro _ rfl
    apply (literal_reads _).bind
    rintro _ rfl
    exact .pure rfl
  all_goals cases notAlphanum

theorem readEscape_assertion {assertion : Assertion} {letter : Char}
    (spelt : assertion? assertion = some ['\\', letter]) (start : Nat) :
    Opens extended (readEscape start) [] (letter :: tail) tail (· = some (.assert assertion)) := by
  apply Opens.after (.none fun _ => .next?)
  rintro _ rfl
  apply Opens.get
  rintro ⟨_, position, _, names⟩ rfl rfl
  cases assertion with
  | startOfInput | endOfInputOrNewline | startOfLine | endOfLine => simp [assertion?] at spelt
  | searchOrigin | endOfInput | previousMatchEnd =>
      cases spelt
      exact .pure rfl
  | wordBoundary unicode | notWordBoundary unicode =>
      cases unicode <;> cases spelt
      exact .pure rfl

theorem backReference_opens (target : GroupRef) (offset : Nat) :
    Opens extended (backReference target offset) [] tail tail
      (· = .backReference target false offset) := by
  apply Opens.get
  rintro ⟨_, position, _, names⟩ rfl rfl
  exact .pure rfl

theorem takeWhile_digits_opens (number : Nat) {stop : Char} (other : stop.isDigit = false) :
    Opens extended (Reading.takeWhile Char.isDigit) [] (digits number ++ stop :: tail)
      (stop :: tail) (· = digits number) :=
  .none fun _ => .takeWhile (fun _ => isDigit_of_mem_digits) (by simpa using other)

theorem readReference_opens {number : Nat} (referable : Referable number) (start : Nat) :
    Opens extended (readReference start) [] ('{' :: (digits number ++ '}' :: tail)) tail
      (· = .backReference (.number number) false start) := by
  obtain ⟨digit, more, equal, isDigit⟩ := digits_eq_cons number
  have notLetter : (digit.isAlpha || decide (digit = '_')) = false := by
    rw [not_isAlpha_of_isDigit isDigit, Bool.false_or, decide_eq_false_iff_not]
    rintro rfl
    cases isDigit
  have noSign : (digits number ++ '}' :: tail).head? ≠ some '-' := by
    rw [equal]
    rintro ⟨⟩
    cases isDigit
  have value : Scan.number (digits number) = number := number_digits referable.2
  have positive : number ≠ 0 := Nat.ne_of_gt referable.1
  apply Opens.after (.none fun _ => .accepted)
  rintro _ rfl
  apply Opens.after (.none fun _ => .peek?)
  rintro _ rfl
  simp only [equal, List.cons_append, List.head?_cons, Option.any_some, notLetter]
  rw [← List.cons_append, ← equal]
  apply Opens.after (.none fun _ => .refused noSign)
  rintro _ rfl
  apply Opens.after (takeWhile_digits_opens number rfl)
  rintro _ rfl
  simp only [List.isEmpty_iff, digits_ne_nil]
  apply Opens.after (.none fun _ => .expect _)
  rintro _ -
  apply Opens.get
  rintro ⟨_, position, _, names⟩ rfl rfl
  simp only [Bool.not_false, if_true, value, if_neg positive]
  exact backReference_opens _ _

theorem readEscape_reference {number : Nat} (referable : Referable number) (start offset : Nat) :
    Opens extended (readEscape start) [] ('g' :: '{' :: (digits number ++ '}' :: tail)) tail
      fun read => read.map withoutOffsets =
        some (Pattern.backReference (.number number) false offset).withoutOffsets := by
  apply Opens.after (.none fun _ => .next?)
  rintro _ rfl
  apply Opens.get
  rintro ⟨_, position, _, names⟩ rfl rfl
  apply (readReference_opens referable start).after
  rintro _ rfl
  exact .pure rfl

end Escapes

/-! ## Groups -/

/-- What parentheses enclose is read as it is spelt, and is not taken for a kind of group. -/
structure ReadsEnclosed (extended : Bool) (inner : Inner)
    (Enclosed : List Pattern → List Char → Prop) : Prop where
  unmarked : ∀ {branches text}, Enclosed branches text → text.head? ≠ some '?'
  reads : ∀ {branches text}, Enclosed branches text → ∃ reading, inner.branches? = some reading ∧
    ∀ tail, Opens extended reading (groupsOfAll branches) (text ++ ')' :: tail) (')' :: tail)
      fun read => read.map withoutOffsets = branches.map withoutOffsets

section Groups

variable {extended : Bool} {inner : Inner} {Enclosed : List Pattern → List Char → Prop}
  (reads : ReadsEnclosed extended inner Enclosed) {branches : List Pattern} {text tail : List Char}
  (encloses : Enclosed branches text)

theorem openGroup_opens (index start : Nat) :
    Opens extended (openGroup none start) [index] tail tail (· = index) := by
  intro names consecutive
  obtain rfl : index = names.size + 1 := by simpa [Consecutive] using consecutive
  intro position
  exact ⟨_, position, rfl, rfl⟩

include reads encloses

theorem readEnclosed_opens (start : Nat) :
    Opens extended (readEnclosed inner start) (groupsOfAll branches) (text ++ ')' :: tail) tail
      fun read => read.map withoutOffsets = branches.map withoutOffsets := by
  obtain ⟨reading, known, opens⟩ := reads.reads encloses
  rw [readEnclosed, known]
  apply Opens.get
  rintro ⟨_, position, _, names⟩ rfl rfl
  apply (opens tail).before
  intro read agrees
  apply Opens.after (.none fun _ => .keepFlags)
  rintro _ -
  apply Opens.after (.none fun _ => .expect _)
  rintro _ -
  exact .pure agrees

theorem readBody_opens (start : Nat) :
    Opens extended (readBody inner start) (choice branches).groups (text ++ ')' :: tail) tail
      fun read => read.withoutOffsets = (choice branches).withoutOffsets := by
  rw [groups_choice]
  apply (readEnclosed_opens reads encloses start).before
  intro read agrees
  apply Opens.pure
  rw [withoutOffsets_choice, withoutOffsets_choice, agrees]

theorem readLookAround_opens (direction : Direction) (negated : Bool) (start : Nat) :
    Opens extended (readLookAround inner direction negated start) (choice branches).groups
      (text ++ ')' :: tail) tail fun read =>
        read.withoutOffsets = .lookAround direction negated (choice branches).withoutOffsets 0 := by
  apply (readBody_opens reads encloses start).before
  intro read agrees
  apply Opens.pure
  rw [withoutOffsets, agrees]

omit reads encloses

theorem readCondition_opens {number : Nat} (referable : Referable number) :
    Opens extended readCondition [] (digits number ++ ')' :: tail) tail (· = .number number) := by
  obtain ⟨digit, more, equal, isDigit⟩ := digits_eq_cons number
  have value : Scan.number (digits number) = number := number_digits referable.2
  have positive : number ≠ 0 := Nat.ne_of_gt referable.1
  apply Opens.get
  rintro _ - -
  apply Opens.after (.none fun _ => .peek?)
  rintro _ rfl
  simp only [equal, List.cons_append, List.head?_cons, isDigit, if_true]
  rw [← List.cons_append, ← equal]
  apply Opens.after (takeWhile_digits_opens number rfl)
  rintro _ rfl
  simp only [value, if_neg positive]
  apply Opens.after (.none fun _ => .expect _)
  rintro _ -
  exact .pure rfl

include reads encloses

theorem readGroup_capture (index start : Nat) :
    Opens extended (readGroup inner start) (Pattern.group index (choice branches)).groups
      (text ++ ')' :: tail) tail fun read =>
        read.map withoutOffsets = some (Pattern.group index (choice branches)).withoutOffsets := by
  have unmarked : (text ++ ')' :: tail).head? ≠ some '?' := by
    have known := reads.unmarked encloses
    cases text <;> simp_all
  apply Opens.after (.none fun _ => .refused unmarked)
  rintro _ rfl
  rw [groups_group]
  apply Opens.bind (openGroup_opens index start)
  rintro _ rfl
  apply (readBody_opens reads encloses start).before
  intro read agrees
  apply Opens.pure
  rw [Option.map_some, withoutOffsets, withoutOffsets, agrees]

theorem readGroup_opening {opening : List Char} {build : Pattern → Pattern}
    (opens : Opening opening build) (start : Nat) :
    Opens extended (readGroup inner start) (build (choice branches)).groups
      ('?' :: (opening ++ (text ++ ')' :: tail))) tail fun read =>
        read.map withoutOffsets = some (build (choice branches)).withoutOffsets := by
  have skips (front : List Char) {next : Unit → Reading (Option Pattern)} {groups : List Nat}
      {condition : Option Pattern → Prop}
      (follows : Opens extended (next ()) groups (text ++ ')' :: tail) tail condition) :
      Opens extended (skip front.length >>= next) groups (front ++ (text ++ ')' :: tail)) tail
        condition :=
    Opens.after (.skip List.drop_left) fun _ _ => follows
  have lookAround (direction : Direction) (negated : Bool) (offset : Nat) :
      Opens extended (do return some (← readLookAround inner direction negated start))
        (choice branches).groups (text ++ ')' :: tail) tail fun read => read.map withoutOffsets =
          some (Pattern.lookAround direction negated (choice branches) offset).withoutOffsets := by
    apply (readLookAround_opens reads encloses direction negated start).before
    intro read agrees
    apply Opens.pure
    rw [Option.map_some, agrees, withoutOffsets]
  apply Opens.after (.none fun _ => .accepted)
  rintro _ rfl
  apply Opens.get
  rintro _ - -
  apply Opens.get
  rintro ⟨_, position, _, names⟩ rfl rfl
  cases opens with
  | plain =>
      apply skips [':']
      apply (readBody_opens reads encloses start).before
      intro read agrees
      exact .pure (congrArg some agrees)
  | atomic =>
      apply skips ['>']
      apply (readBody_opens reads encloses start).before
      intro read agrees
      exact .pure (congrArg some (congrArg Pattern.atomic agrees))
  | lookAround direction negated offset =>
      cases direction <;> cases negated
      · exact skips ['='] (lookAround .ahead false offset)
      · exact skips ['!'] (lookAround .ahead true offset)
      · exact skips ['<', '='] (lookAround .behind false offset)
      · exact skips ['<', '!'] (lookAround .behind true offset)

/-- A conditional has one or two branches. -/
theorem readConditional_opens {number : Nat} (referable : Referable number) {yes no : Pattern}
    (halves : branches = [yes] ∧ no = .empty ∨ branches = [yes, no]) (start : Nat) :
    Opens extended (readConditional inner start) (groupsOfAll branches)
      (digits number ++ ')' :: (text ++ ')' :: tail)) tail fun read => read.withoutOffsets =
        .conditional (.number number) yes.withoutOffsets no.withoutOffsets 0 := by
  apply Opens.get
  rintro _ - -
  apply (readCondition_opens referable).after
  rintro _ rfl
  apply (readEnclosed_opens reads encloses start).before
  intro read agrees
  rcases halves with ⟨rfl, rfl⟩ | rfl
  · obtain ⟨first, rfl, same⟩ := List.map_eq_singleton_iff.mp agrees
    apply Opens.pure
    simp only [withoutOffsets, same]
  · obtain ⟨first, others, rfl, same, later⟩ := List.map_eq_cons_iff.mp agrees
    obtain ⟨second, rfl, sameToo⟩ := List.map_eq_singleton_iff.mp later
    apply Opens.pure
    rw [withoutOffsets, same, sameToo]

theorem readGroup_conditional {number : Nat} (referable : Referable number) {yes no : Pattern}
    (halves : branches = [yes] ∧ no = .empty ∨ branches = [yes, no]) (start offset : Nat) :
    Opens extended (readGroup inner start)
      (Pattern.conditional (.number number) yes no offset).groups
      ('?' :: '(' :: (digits number ++ ')' :: (text ++ ')' :: tail))) tail fun read =>
        read.map withoutOffsets =
          some (Pattern.conditional (.number number) yes no offset).withoutOffsets := by
  have groups : (Pattern.conditional (.number number) yes no offset).groups =
      groupsOfAll branches := by
    rcases halves with ⟨rfl, rfl⟩ | rfl <;> simp
  have skips : Opens extended (skip 1) []
      ('(' :: (digits number ++ ')' :: (text ++ ')' :: tail)))
      (digits number ++ ')' :: (text ++ ')' :: tail)) fun _ => True := .skip rfl
  rw [groups, withoutOffsets]
  apply Opens.after (.none fun _ => .accepted)
  rintro _ rfl
  apply Opens.get
  rintro _ - -
  apply Opens.get
  rintro ⟨_, position, _, names⟩ rfl rfl
  apply skips.after
  rintro _ -
  apply (readConditional_opens reads encloses referable halves start).before
  intro read agrees
  exact .pure (congrArg some agrees)

end Groups

end Reader

end Backtracking
