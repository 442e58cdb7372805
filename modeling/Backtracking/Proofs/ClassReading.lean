import Backtracking.Proofs.ClassItems
import Backtracking.Proofs.KnownReadings
import Backtracking.Proofs.MovedReadings
import Backtracking.Proofs.RangeLists

/-!
# Reading bracketed classes

The items of a class are read one by one up to the bracket that closes it, and what has been read
covers the characters that the items denote.  The induction is on the items; a hyphen is read with
the character before it and then left again where it does not make a range.
-/

namespace Backtracking

namespace Reading

variable {α : Type} {flags : Flags} {taken text tail : List Char}
  {before after : Array (Option String)} {condition : α → Prop}

/-- The reader goes to a place where another text is left. -/
theorem Reads.set {position : Nat} :
    Reads flags (set (⟨tail, position, flags, after⟩ : Cursor)) text tail before after
      fun _ => True :=
  fun _ => ⟨(), position, rfl, trivial⟩

/-- A reading that can be moved gets as far as the text is long that it takes. -/
theorem Reads.run_eq {reading other : Reading α} {position : Nat}
    (reads : Reads flags reading (taken ++ tail) tail before after condition)
    (moves : ∀ {text cursor}, cursor.Within text 0 → cursor.position = position →
      Moves text 0 reading other id cursor 0) :
    ∃ value, reading.run ⟨taken ++ tail, position, flags, before⟩ =
      .ok (value, ⟨tail, position + taken.length, flags, after⟩) ∧ condition value := by
  obtain ⟨value, next, runs, holds⟩ := reads position
  -- Any text that goes on with what is read may stand before it.
  have here : Cursor.Within (List.replicate position ' ' ++ (taken ++ tail)) 0
      ⟨taken ++ tail, position, flags, before⟩ := by
    refine ⟨?_, by simp, Nat.zero_le _⟩
    rw [List.drop_append_of_le_length (by simp)]
    simp
  have moved := moves here rfl
  rw [Moves, runs] at moved
  have length := moved.2.rest_length
  have inside := moved.2.position_le
  have reached : next = position + taken.length := by
    simp only [List.length_append, List.length_replicate] at length inside
    omega
  exact ⟨value, reached ▸ runs, holds⟩

end Reading

open Reading CharRange

theorem Escape.ClassRef.covers_members (reference : Escape.ClassRef) (character : Char) :
    covers reference.members character =
      (covers reference.ranges character != reference.negated) := by
  rw [Escape.ClassRef.members]
  split
  · next negated => simp [covers_complement, negated]
  · next positive => simp [positive]

theorem CharRange.covers_map_single (text : List Char) (character : Char) :
    covers (text.map .single) character = text.contains character := by
  rw [covers, List.any_map, List.contains_eq_any_beq]
  simp [Function.comp_def]

namespace Bracket

open ClassItem

section Items

variable {flags : Flags} {names : Array (Option String)} {item : ClassItem} {text tail : List Char}

/-! ## Sets -/

/-- What has been read is a set of the characters that an item denotes. -/
def IsSetOf (item : ClassItem) (read : Item) : Prop :=
  ∃ members, read = .set members ∧ ∀ character, covers members character = item.denotes character

theorem isSetOf_members (ranges : List CharRange) (negated : Bool) :
    IsSetOf (.named ranges negated) (.set (Escape.ClassRef.members ⟨ranges, negated⟩)) :=
  ⟨_, rfl, Escape.ClassRef.covers_members _⟩

theorem readShorthand_reads (letter : Char) :
    Reads flags (Escape.readShorthand letter) tail tail names names fun reference => reference =
      ⟨NamedClass.shorthand letter flags.unicode, NamedClass.isNegatedShorthand letter⟩ := by
  apply Reads.get
  intro position
  exact .pure rfl

theorem accept_caret {negated : Bool} (other : tail.head? ≠ some '^') :
    Reads flags (accept '^') (caret negated ++ tail) tail names names (· = negated) := by
  cases negated with
  | true => exact .accepted
  | false => exact .refused other

theorem readProperty_reads {letter : Char} {name : List Char} {ranges : List CharRange}
    (named : PropertyName.ranges? name = some ranges) (negated : Bool) (start : Nat) :
    Reads flags (Escape.readProperty letter start)
      ('{' :: (caret negated ++ (name ++ '}' :: tail))) tail names names
      (· = ⟨ranges, decide (letter = 'P') != negated⟩) := by
  have nameChar : ∀ character ∈ name, PropertyName.isNameChar character = true :=
    fun _ => Escape.isNameChar_of_ranges? named
  have inName (character : Char) (member : character ∈ name) : (character != '}') = true := by
    rw [bne_iff_ne]
    rintro rfl
    cases nameChar '}' member
  have noCaret : (name ++ '}' :: tail).head? ≠ some '^' := by
    cases name with
    | nil => simp
    | cons first rest =>
        rintro ⟨⟩
        cases nameChar '^' (by simp)
  have nameRead : Reads flags (Escape.readPropertyName start)
      ('{' :: (caret negated ++ (name ++ '}' :: tail))) tail names names (· = (name, negated)) := by
    apply Reads.accepted.bind
    rintro _ rfl
    apply (accept_caret noCaret).bind
    rintro _ rfl
    apply (Reads.takeWhile inName (by simp)).bind
    rintro _ rfl
    apply (Reads.expect _).bind
    rintro _ -
    exact .pure rfl
  apply nameRead.bind
  rintro _ rfl
  simp only [named]
  exact .pure rfl

theorem readEscape_shorthand {letter : Char} {reference : Escape.ClassRef}
    (known : NamedClass.isShorthand letter = true)
    (reads : Reads flags (Escape.readShorthand letter) text tail names names (· = reference))
    (start : Nat) :
    Reads flags (readEscape start) (letter :: text) tail names names
      (· = .set reference.members) := by
  apply Reads.next?.bind
  rintro _ rfl
  dsimp only
  rw [if_pos known]
  apply reads.bind
  rintro _ rfl
  exact .pure rfl

theorem readEscape_property {letter : Char} {reference : Escape.ClassRef} {start : Nat}
    (known : letter = 'p' ∨ letter = 'P')
    (reads : Reads flags (Escape.readProperty letter start) text tail names names
      (· = reference)) :
    Reads flags (readEscape start) (letter :: text) tail names names
      (· = .set reference.members) := by
  have notShorthand : ¬ NamedClass.isShorthand letter = true := by
    rcases known with rfl | rfl <;> decide
  apply Reads.next?.bind
  rintro _ rfl
  dsimp only
  rw [if_neg notShorthand, if_pos (by simpa using known)]
  apply reads.bind
  rintro _ rfl
  exact .pure rfl

theorem readPosix?_reads {name : List Char} {ranges : List CharRange}
    (named : NamedClass.posix? (String.ofList name) flags.unicode = some ranges) (negated : Bool)
    (start : Nat) :
    Reads flags (readPosix? start) (':' :: (caret negated ++ (name ++ [':', ']'])) ++ tail) tail
      names names fun read? =>
        ∃ read, read? = some read ∧ IsSetOf (.named ranges negated) read := by
  have found := posixName?_of_posix? named negated tail
  apply Reads.get
  intro position
  simp only [List.cons_append, List.append_assoc, List.nil_append] at found ⊢
  rw [found]
  have drops : (':' :: (caret negated ++ (name ++ ':' :: ']' :: tail))).drop
      (':' :: (caret negated ++ (name ++ [':', ']']))).length = tail := by
    rw [show ':' :: (caret negated ++ (name ++ ':' :: ']' :: tail)) =
      ':' :: (caret negated ++ (name ++ [':', ']'])) ++ tail by simp, List.drop_left]
  apply (Reads.skip drops).bind
  rintro _ -
  simp only [named]
  exact .pure ⟨_, rfl, isSetOf_members ranges negated⟩

theorem set_reads (spelt : item.Spelt flags.unicode text) (isSet : item.isSet = true) :
    (∃ rest, text = '\\' :: rest ∧ ∀ start tail names,
      Reads flags (readEscape start) (rest ++ tail) tail names names (IsSetOf item)) ∨
    ∃ rest, text = '[' :: rest ∧ ∀ tail, (Scan.posixName? (rest ++ tail)).isSome = true ∧
      ∀ start names, Reads flags (readPosix? start) (rest ++ tail) tail names names
        fun read? => ∃ read, read? = some read ∧ IsSetOf item read := by
  cases spelt with
  | character | range | bracket | hyphen => cases isSet
  | @shorthand letter known =>
      refine .inl ⟨_, rfl, fun start tail names => ?_⟩
      apply (readEscape_shorthand known (readShorthand_reads letter) start).weaken
      rintro _ rfl
      exact isSetOf_members _ _
  | @property letter known name ranges named negated =>
      refine .inl ⟨_, rfl, fun start tail names => ?_⟩
      simp only [List.cons_append, List.append_assoc, List.nil_append]
      apply (readEscape_property known (readProperty_reads named negated start)).weaken
      rintro _ rfl
      exact isSetOf_members _ _
  | @quoted quoted unended =>
      refine .inl ⟨_, rfl, fun start tail names => ?_⟩
      have found := quoted_of_unended unended tail
      simp only [List.cons_append, List.append_assoc, List.nil_append]
      apply Reads.next?.bind
      rintro _ rfl
      apply Reads.get
      intro position
      simp only [found]
      have drops : (quoted ++ '\\' :: 'E' :: tail).drop (quoted.length + 2) = tail := by simp
      apply (Reads.skip drops).bind
      rintro _ -
      exact .pure ⟨_, rfl, covers_map_single quoted⟩
  | @posix name ranges named negated =>
      refine .inr ⟨_, rfl, fun tail => ⟨?_, fun start names => ?reads⟩⟩
      case reads => exact readPosix?_reads named negated start
      have found := posixName?_of_posix? named negated tail
      simp only [List.cons_append, List.append_assoc, List.nil_append]
      rw [found]
      rfl

theorem readItem_set (spelt : item.Spelt flags.unicode text) (isSet : item.isSet = true) :
    ∃ first rest, text = first :: rest ∧ ∀ start,
      Reads flags (readItem first start) (rest ++ tail) tail names names (IsSetOf item) := by
  rcases set_reads spelt isSet with ⟨rest, rfl, reads⟩ | ⟨rest, rfl, reads⟩
  · exact ⟨_, rest, rfl, fun start => reads start tail names⟩
  · refine ⟨_, rest, rfl, fun start => ?_⟩
    apply ((reads tail).2 start names).bind
    rintro _ ⟨read, rfl, holds⟩
    exact .pure holds

theorem readUpperEnd?_set (spelt : item.Spelt flags.unicode text) (isSet : item.isSet = true) :
    ∃ left, Reads flags readUpperEnd? (text ++ tail) left names names (· = none) := by
  rcases set_reads spelt isSet with ⟨rest, rfl, reads⟩ | ⟨rest, rfl, reads⟩
  · refine ⟨tail, .get fun position => ?_⟩
    apply Reads.next?.bind
    rintro _ rfl
    apply (reads position tail names).bind
    rintro _ ⟨members, rfl, -⟩
    exact .pure rfl
  · refine ⟨rest ++ tail, .get fun position => ?_⟩
    rw [List.cons_append]
    apply Reads.next?.bind
    rintro _ rfl
    apply Reads.get
    intro position
    dsimp only
    rw [if_pos (reads tail).1]
    exact .pure rfl

/-! ## Characters and ranges -/

theorem readEscape_code {digits : List Char} {character : Char} (code : Code digits character)
    (start : Nat) :
    Reads flags (readEscape start) ('x' :: '{' :: (digits ++ '}' :: tail)) tail names names
      (· = .char character) := by
  have codeRead : Reads flags (Escape.readChar 'x' start) ('{' :: (digits ++ '}' :: tail)) tail
      names names (· = character) := by
    apply Reads.accepted.bind
    rintro _ rfl
    apply (Reads.takeWhile code.hex (by simp; decide)).bind
    rintro _ rfl
    simp only [List.isEmpty_iff, code.nonempty]
    apply (Reads.expect _).bind
    rintro _ -
    obtain ⟨valid, equal⟩ := code.ofNat_number
    rw [if_pos valid]
    exact .pure equal
  apply Reads.next?.bind
  rintro _ rfl
  apply codeRead.bind
  rintro _ rfl
  exact .pure rfl

/-- A range is read with both its ends. -/
theorem readRange_code {digits : List Char} {first last : Char} (code : Code digits last)
    (ordered : first ≤ last) (start : Nat) :
    Reads flags (readRange first start) ('-' :: (braced digits ++ tail)) tail names names
      (· = ⟨first, last⟩) := by
  rw [braced_append]
  have upper : Reads flags readUpperEnd? ('\\' :: 'x' :: '{' :: (digits ++ '}' :: tail)) tail names
      names (· = some last) := by
    apply Reads.get
    intro position
    apply Reads.next?.bind
    rintro _ rfl
    apply (readEscape_code code position).bind
    rintro _ rfl
    exact .pure rfl
  apply Reads.get
  intro position
  apply Reads.bind (Reads.skip rfl)
  rintro _ -
  apply upper.bind
  rintro _ rfl
  dsimp only
  rw [if_neg (Char.not_lt.mpr ordered)]
  exact .pure rfl

theorem readRange_ends {member : Char} (ends : continuesRange tail = false) (start : Nat) :
    Reads flags (readRange member start) tail tail names names (· = .single member) := by
  apply Reads.get
  intro position
  dsimp only
  rw [ends]
  exact .pure rfl

/-- A hyphen in front of a set is left to be read again. -/
theorem readRange_set {member : Char} (spelt : item.Spelt flags.unicode text)
    (isSet : item.isSet = true) (start : Nat) :
    Reads flags (readRange member start) ('-' :: (text ++ tail)) ('-' :: (text ++ tail)) names names
      (· = .single member) := by
  have continues : continuesRange ('-' :: (text ++ tail)) = true := by
    rcases set_reads spelt isSet with ⟨rest, rfl, -⟩ | ⟨rest, rfl, -⟩ <;> rfl
  have drops : ('-' :: (text ++ tail)).drop 1 = text ++ tail := rfl
  obtain ⟨left, upper⟩ : ∃ left, Reads flags readUpperEnd? (text ++ tail) left names names
      (· = none) := readUpperEnd?_set spelt isSet
  apply Reads.get
  intro position
  dsimp only
  rw [if_pos continues]
  apply (Reads.skip drops).bind
  rintro _ -
  apply upper.bind
  rintro _ rfl
  apply Reads.set.bind
  rintro _ -
  exact .pure rfl

/-- No range begins with a single character, whatever may be behind it. -/
theorem readRange_single {items : List ClassItem} {member : Char}
    (single : item.single? = some member) (spelt : AllSpelt flags.unicode items text)
    (places : placed (some item) items = true) (start : Nat) :
    Reads flags (readRange member start) (text ++ ']' :: tail) (text ++ ']' :: tail) names names
      (· = .single member) := by
  cases spelt with
  | nil => exact readRange_ends rfl start
  | @cons next items text rest spelt follows =>
      obtain ⟨first, more, rfl, -, -, -, hyphen⟩ := spelt.begins
      by_cases isHyphen : first = '-'
      · subst isHyphen
        obtain rfl := hyphen rfl
        cases spelt
        simp only [placed, mayStand, Option.any_some, single, Option.isSome_some, Bool.not_true,
          Bool.false_or, Bool.and_eq_true] at places
        cases follows with
        | nil => exact readRange_ends rfl start
        | cons speltNext _ =>
            have isSet := places.1
            simp only [List.head?_cons, Option.all_some] at isSet
            simpa using readRange_set speltNext isSet start
      · exact readRange_ends (by simp [continuesRange, isHyphen]) start

/-- An item that is no set is read as a range, perhaps of one character. -/
theorem member_reads {items : List ClassItem} {rest : List Char}
    (spelt : item.Spelt flags.unicode text) (notSet : item.isSet = false)
    (follows : AllSpelt flags.unicode items rest) (places : placed (some item) items = true) :
    ∃ first more, text = first :: more ∧ ∀ start, ∃ middle member range,
      Reads flags (readItem first start) (more ++ (rest ++ ']' :: tail)) middle names names
        (· = .char member) ∧
      Reads flags (readRange member start) middle (rest ++ ']' :: tail) names names (· = range) ∧
      ∀ character, range.contains character = item.denotes character := by
  cases spelt with
  | shorthand | property | posix | quoted => cases notSet
  | @character digits member code =>
      refine ⟨_, _, rfl, fun start => ⟨_, member, _, ?_, readRange_single rfl follows places start,
        contains_single member⟩⟩
      simp only [List.cons_append, List.append_assoc, List.nil_append]
      exact readEscape_code code start
  | bracket | hyphen =>
      exact ⟨_, _, rfl, fun start => ⟨_, _, _, .pure rfl, readRange_single rfl follows places start,
        contains_single _⟩⟩
  | @range lowDigits highDigits first last low high ordered =>
      refine ⟨_, _, braced_append lowDigits _, fun start => ⟨_, first, _, ?_,
        readRange_code high ordered start, fun _ => rfl⟩⟩
      simp only [List.cons_append, List.append_assoc]
      exact readEscape_code low start

end Items

/-! ## Classes -/

section Classes

variable {flags : Flags} {names : Array (Option String)} {items : List ClassItem}
  {text tail : List Char}

theorem readItems_reads {before? : Option ClassItem} {fuel : Nat}
    (spelt : AllSpelt flags.unicode items text) (places : placed before? items = true)
    (nonempty : before? = none → items ≠ []) (enough : items.length < fuel) (start : Nat)
    (ranges : List CharRange) :
    Reads flags (readItems start fuel before?.isNone ranges) (text ++ ']' :: tail) tail names names
      fun read => ∀ character,
        covers read character = (covers ranges character || items.any (·.denotes character)) := by
  induction spelt generalizing before? fuel ranges with
  | nil =>
      obtain _ | fuel := fuel
      · simp at enough
      obtain _ | before := before?
      · exact absurd rfl (nonempty rfl)
      apply Reads.get
      intro position
      apply Reads.next?.bind
      rintro _ rfl
      exact .pure (by simp)
  | @cons item items text rest spelt follows ih =>
      obtain _ | fuel := fuel
      · simp at enough
      simp only [placed, Bool.and_eq_true] at places
      have goesOn (more : List CharRange)
          (same : ∀ character, covers more character =
            (covers ranges character || item.denotes character)) :
          Reads flags (readItems start fuel false more) (rest ++ ']' :: tail) tail names names
            fun read => ∀ character, covers read character =
              (covers ranges character || (item :: items).any (·.denotes character)) := by
        apply (ih places.2 (by simp) (Nat.lt_of_succ_lt_succ enough) more).weaken
        intro read covered character
        rw [covered, same, List.any_cons, Bool.or_assoc]
      obtain ⟨first, more, rfl, -, -, closes, -⟩ := spelt.begins
      have inside : (decide (first = ']') && !before?.isNone) = false := by
        by_cases isBracket : first = ']'
        · subst isBracket
          obtain rfl := closes rfl
          simpa [mayStand] using places.1
        · simp [isBracket]
      simp only [List.cons_append, List.append_assoc]
      apply Reads.get
      intro position
      apply Reads.next?.bind
      rintro _ rfl
      dsimp only
      rw [inside]
      cases isSet : item.isSet with
      | true =>
          obtain ⟨_, _, ⟨⟩, reads⟩ := readItem_set spelt isSet
          apply (reads position).bind
          rintro _ ⟨members, rfl, same⟩
          apply goesOn
          intro character
          rw [covers_append, same, Bool.or_comm]
      | false =>
          obtain ⟨_, _, ⟨⟩, reads⟩ := member_reads spelt isSet follows places.2
          obtain ⟨middle, member, range, readsItem, readsRange, same⟩ := reads position
          apply readsItem.bind
          rintro _ rfl
          apply readsRange.bind
          rintro _ rfl
          apply goesOn
          intro character
          rw [covers_cons, same, Bool.or_comm]

/-- A class is read as the set of the ranges of its items. -/
theorem read_reads (spelt : AllSpelt flags.unicode items text) (places : placed none items = true)
    (nonempty : items ≠ []) (negated : Bool) (start : Nat) :
    Reads flags (read start) (caret negated ++ (text ++ ']' :: tail)) tail names names
      fun set => ∃ ranges, set = CharSet.ofRanges ranges negated flags.ignoreCase ∧
        ∀ character, covers ranges character = items.any (·.denotes character) := by
  obtain ⟨first, rest, begins, noColon, noCaret⟩ : ∃ first rest,
      text ++ ']' :: tail = first :: rest ∧ first ≠ ':' ∧ first ≠ '^' := by
    cases spelt with
    | nil => exact absurd rfl nonempty
    | cons spelt _ =>
        obtain ⟨first, rest, rfl, noColon, noCaret, -⟩ := spelt.begins
        exact ⟨first, _, by simp only [List.cons_append]; rfl, noColon, noCaret⟩
  have unnamed : (Scan.posixName? (caret negated ++ (text ++ ']' :: tail))).isSome = false := by
    rw [begins]
    cases negated with
    | true => rfl
    | false => simp [caret, Scan.posixName?, noColon]
  apply Reads.get
  intro position
  dsimp only
  rw [unnamed]
  apply (accept_caret (by simpa [begins] using noCaret)).bind
  rintro negated rfl
  have enough : items.length < (caret negated ++ (text ++ ']' :: tail)).length + 1 := by
    have shorter := spelt.length_le
    simp only [List.length_append, List.length_cons]
    omega
  have items : Reads flags
      (readItems start ((caret negated ++ (text ++ ']' :: tail)).length + 1) true [])
      (text ++ ']' :: tail) tail names names _ :=
    readItems_reads spelt places (fun _ => nonempty) enough start []
  apply items.bind
  intro ranges covered
  exact .pure ⟨ranges, rfl, by simpa using covered⟩

/-- A class has the characters as members that one of its items denotes, or with a caret all the
others.  It is read up to and with the bracket that closes it. -/
theorem read_eq_union (spelt : AllSpelt flags.unicode items text)
    (places : placed none items = true) (nonempty : items ≠ [])
    (caseful : flags.ignoreCase = false) (negated : Bool) (start : Nat) :
    ∃ set, (read start).run ⟨caret negated ++ text ++ ']' :: tail, start + 1, flags, names⟩ =
        .ok (set, ⟨tail, start + 1 + (caret negated ++ text ++ [']']).length, flags, names⟩) ∧
      ∀ character, set.contains character = (items.any (·.denotes character) != negated) := by
  have reads : Reads flags (read start) (caret negated ++ (text ++ ']' :: tail)) tail names
      names _ := read_reads spelt places nonempty negated start
  rw [show caret negated ++ (text ++ ']' :: tail) = caret negated ++ text ++ [']'] ++ tail by simp]
    at reads
  have within {whole : List Char} {cursor : Cursor} (here : cursor.Within whole 0)
      (placed : cursor.position = start + 1) :
      Moves whole 0 (read start) (read (start + 0)) id cursor 0 := by
    have begun := here.position_le
    exact read_moves here (by omega)
  obtain ⟨_, runs, ranges, rfl, covered⟩ := reads.run_eq within
  refine ⟨CharSet.ofRanges ranges negated flags.ignoreCase, ?_, fun character => ?_⟩
  · rw [← runs]
    simp
  · rw [CharSet.contains_ofRanges, caseful, covered]
    simp

/-- The class `[^]-\d\x{61}-\x{63}[:upper:]-]` has two hyphens that make no range, and one that
does. -/
theorem read_mixed_class :
    ∃ set, (read 0).run
        ⟨['^', ']', '-', '\\', 'd', '\\', 'x', '{', '6', '1', '}', '-', '\\', 'x', '{', '6', '3',
          '}', '[', ':', 'u', 'p', 'p', 'e', 'r', ':', ']', '-', ']', 'b'], 1, {}, #[]⟩ =
        .ok (set, ⟨['b'], 30, {}, #[]⟩) ∧
      set.contains 'b' = false ∧ set.contains '-' = false ∧ set.contains 'd' = true := by
  have first : Code ['6', '1'] 'a' := ⟨by simp, List.all_eq_true.mp rfl, rfl⟩
  have last : Code ['6', '3'] 'c' := ⟨by simp, List.all_eq_true.mp rfl, rfl⟩
  have upper : NamedClass.posix? (String.ofList ['u', 'p', 'p', 'e', 'r']) false =
      some [⟨'A', 'Z'⟩] := by decide
  have spelt : AllSpelt false [.bracket, .hyphen, .named (NamedClass.shorthand 'd' false) false,
      .range 'a' 'c', .named [⟨'A', 'Z'⟩] false, .hyphen] _ :=
    .cons .bracket (.cons .hyphen (.cons (.shorthand (by decide)) (.cons
      (.range first last (by decide)) (.cons (.posix upper false) (.cons .hyphen .nil)))))
  obtain ⟨set, runs, members⟩ : ∃ set,
      (read 0).run ⟨_, 1, {}, #[]⟩ = .ok (set, ⟨['b'], _, _, _⟩) ∧ _ :=
    read_eq_union spelt (by decide) (by simp) rfl true 0
  exact ⟨set, runs, (members 'b').trans (by decide), (members '-').trans (by decide),
    (members 'd').trans (by decide)⟩

end Classes

end Bracket

end Backtracking
