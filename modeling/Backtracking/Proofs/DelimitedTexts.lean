import Backtracking.Delimited
import Mathlib.Data.List.TakeWhile

/-!
# Texts of delimited patterns

A grammar of delimited patterns, which says how they are written without a scanner: by the
characters of the pattern that no backslash takes along, and by how often brackets occur among
them.  A text is split in the one way in which it can be written like this, and refused if there is
none.
-/

namespace Backtracking

namespace Delimited

/-! ## The grammar -/

/-- The characters that stand for themselves in a text where every backslash takes the character
after it along.  There is no such reading of a text that ends with a backslash of that kind. -/
def unescaped? : List Char → Option (List Char)
  | [] => some []
  | ['\\'] => none
  | '\\' :: _ :: rest => unescaped? rest
  | character :: rest => (unescaped? rest).map (character :: ·)

example : unescaped? ['a', '\\', '/', 'b', '\\', '\\'] = some ['a', 'b'] := rfl

/-- Brackets are in pairs, where `nesting` of them have been opened before: all of them are closed,
and none is closed before it is opened. -/
structure Paired (opening closing : Char) (nesting : Nat) (free : List Char) : Prop where
  closed : free.count closing = nesting + free.count opening
  inside : ∀ front, front <+: free → front.count closing ≤ nesting + front.count opening

/-- A delimiter may enclose a pattern.  A bracket occurs in pairs with its partner, and any other
delimiter does not occur, apart from the characters that backslashes take along. -/
def Encloses (delimiter : Char) (pattern : List Char) : Prop :=
  ∃ free, unescaped? pattern = some free ∧
    if closing delimiter = delimiter then delimiter ∉ free
    else Paired delimiter (closing delimiter) 0 free

/-- The first character of a text behind the white space in front of it. -/
structure Begins (text blanks : List Char) (delimiter : Char) (rest : List Char) : Prop where
  text_eq : text = blanks ++ delimiter :: rest
  blank : ∀ character ∈ blanks, Unicode.isSpace character = true
  solid : Unicode.isSpace delimiter = false

structure MayDelimit (delimiter : Char) : Prop where
  notAlphanumeric : Unicode.isAlphanumeric delimiter = false
  notBackslash : delimiter ≠ '\\'

/-- A text is a delimited pattern. -/
structure Written (text blanks : List Char) (delimiter : Char) (delimited : Delimited) : Prop
    extends Begins text blanks delimiter
      (delimited.pattern ++ closing delimiter :: delimited.letters) where
  mayDelimit : MayDelimit delimiter
  encloses : Encloses delimiter delimited.pattern

/-! ## The scanner -/

/-- The number of open pairs behind a character that stands for itself. -/
def nestingBehind (opening closing : Char) (nesting : Nat) (character : Char) : Nat :=
  if closing = opening then nesting
  else if character = opening then nesting + 1
  else if character = closing then nesting - 1
  else nesting

/-- The closing delimiter is not reached within some characters that stand for themselves, but it
would be right behind them. -/
def StaysInside (opening closing : Char) : (nesting : Nat) → (free : List Char) → Prop
  | nesting, [] => nesting = 0
  | nesting, character :: rest =>
      ¬ (character = closing ∧ nesting = 0) ∧
        StaysInside opening closing (nestingBehind opening closing nesting character) rest

section Scanner

variable {opening closing : Char} {nesting : Nat} {text free : List Char} {delimited : Delimited}

theorem paired_nil : Paired opening closing nesting [] ↔ nesting = 0 := by
  constructor
  · rintro ⟨closed, -⟩
    simpa using closed.symm
  · rintro rfl
    refine ⟨rfl, fun front begins => ?_⟩
    rw [List.prefix_nil.mp begins]
    exact Nat.le_refl 0

/-- The number of open pairs and the number of brackets behind it go together. -/
theorem paired_cons {character : Char} (apart : closing ≠ opening) :
    Paired opening closing nesting (character :: free) ↔
      ¬ (character = closing ∧ nesting = 0) ∧
        Paired opening closing (nestingBehind opening closing nesting character) free := by
  have counted (front : List Char) (reached : ¬ (character = closing ∧ nesting = 0)) (extra : Nat) :
      (character :: front).count closing + extra = nesting + (character :: front).count opening ↔
        front.count closing + extra =
          nestingBehind opening closing nesting character + front.count opening := by
    simp only [List.count_cons, beq_iff_eq, nestingBehind, if_neg apart]
    split <;> split <;> simp_all <;> omega
  constructor
  · rintro ⟨closed, inside⟩
    have reached : ¬ (character = closing ∧ nesting = 0) := by
      rintro ⟨rfl, rfl⟩
      have early := inside [character] ⟨free, rfl⟩
      simp [apart] at early
    refine ⟨reached, (counted free reached 0).mp closed, fun front begins => ?_⟩
    have known := inside (character :: front) (List.prefix_cons_inj _ |>.mpr begins)
    obtain ⟨extra, equal⟩ := Nat.exists_eq_add_of_le known
    exact Nat.le.intro ((counted front reached extra).mp equal.symm)
  · rintro ⟨reached, closed, inside⟩
    refine ⟨(counted free reached 0).mpr closed, fun front begins => ?_⟩
    rcases front with _ | ⟨first, front⟩
    · exact Nat.zero_le _
    · obtain ⟨same, shorter⟩ := List.cons_prefix_cons.mp begins
      subst same
      obtain ⟨extra, equal⟩ := Nat.exists_eq_add_of_le (inside front shorter)
      exact Nat.le.intro ((counted front reached extra).mpr equal.symm)

theorem staysInside_iff_paired (apart : closing ≠ opening) :
    StaysInside opening closing nesting free ↔ Paired opening closing nesting free := by
  induction free generalizing nesting with
  | nil => exact paired_nil.symm
  | cons character free ih => rw [StaysInside, ih, paired_cons apart]

theorem staysInside_iff_notMem : StaysInside closing closing 0 free ↔ closing ∉ free := by
  induction free with
  | nil => simp [StaysInside]
  | cons character free ih =>
      have same : nestingBehind closing closing 0 character = 0 := if_pos rfl
      rw [StaysInside, same, ih, List.mem_cons, not_or]
      simp [eq_comm]

theorem staysInside_closing (delimiter : Char) :
    StaysInside delimiter (Delimited.closing delimiter) 0 free ↔
      if Delimited.closing delimiter = delimiter then delimiter ∉ free
      else Paired delimiter (Delimited.closing delimiter) 0 free := by
  split
  · next same => rw [same, staysInside_iff_notMem]
  · next apart => exact staysInside_iff_paired apart

/-- A character that no reading of a text with backslashes takes for one of them. -/
theorem ne_backslash {character : Char} {rest : List Char}
    (notLast : character = '\\' → rest = [] → False)
    (noPair : ∀ escaped behind, character = '\\' → rest = escaped :: behind → False) :
    character ≠ '\\' := by
  intro backslash
  cases rest with
  | nil => exact notLast backslash rfl
  | cons escaped behind => exact noPair escaped behind backslash rfl

theorem unescaped?_cons {character : Char} (plain : character ≠ '\\') (rest : List Char) :
    unescaped? (character :: rest) = (unescaped? rest).map (character :: ·) :=
  unescaped?.eq_4 character rest (fun backslash => absurd backslash plain)
    fun _ _ backslash => absurd backslash plain

theorem splitAtClosing?_cons {character : Char} (plain : character ≠ '\\') (rest : List Char) :
    splitAtClosing? opening closing nesting (character :: rest) =
      if character = closing ∧ nesting = 0 then some ⟨[], rest⟩
      else
        (splitAtClosing? opening closing (nestingBehind opening closing nesting character) rest).map
          fun delimited => { delimited with pattern := character :: delimited.pattern } := by
  rw [splitAtClosing?.eq_4 _ _ _ _ _ (fun backslash => absurd backslash plain)
    fun _ _ backslash => absurd backslash plain]
  simp only [Bool.and_eq_true, decide_eq_true_eq]
  rfl

/-- A text that is split has a pattern and letters, and the closing delimiter is reached first
between them. -/
theorem staysInside_of_splitAtClosing?
    (splits : splitAtClosing? opening closing nesting text = some delimited) :
    text = delimited.pattern ++ closing :: delimited.letters ∧
      ∃ free, unescaped? delimited.pattern = some free ∧
        StaysInside opening closing nesting free := by
  induction text using unescaped?.induct generalizing nesting delimited with
  | case1 => cases splits
  | case2 => cases splits
  | case3 escaped rest ih =>
      obtain ⟨inner, splitsRest, rfl⟩ := Option.map_eq_some_iff.mp splits
      obtain ⟨rfl, free, reads, stays⟩ := ih splitsRest
      exact ⟨rfl, free, reads, stays⟩
  | case4 character rest notLast noPair ih =>
      have notBackslash := ne_backslash notLast noPair
      rw [splitAtClosing?_cons notBackslash] at splits
      split at splits
      · next reached =>
          obtain rfl := Option.some.inj splits
          exact ⟨by rw [reached.1]; rfl, [], rfl, reached.2⟩
      · next reached =>
          obtain ⟨inner, splitsRest, rfl⟩ := Option.map_eq_some_iff.mp splits
          obtain ⟨rfl, free, reads, stays⟩ := ih splitsRest
          refine ⟨rfl, character :: free, ?_, reached, stays⟩
          rw [unescaped?_cons notBackslash, reads]
          rfl

/-- What is written so is split so. -/
theorem splitAtClosing?_of_staysInside (plain : closing ≠ '\\') {pattern : List Char}
    (reads : unescaped? pattern = some free) (stays : StaysInside opening closing nesting free)
    (letters : List Char) :
    splitAtClosing? opening closing nesting (pattern ++ closing :: letters) =
      some ⟨pattern, letters⟩ := by
  induction pattern using unescaped?.induct generalizing nesting free with
  | case1 =>
      obtain rfl := Option.some.inj reads
      obtain rfl : nesting = 0 := stays
      rw [List.nil_append, splitAtClosing?_cons plain, if_pos ⟨rfl, rfl⟩]
  | case2 => cases reads
  | case3 escaped rest ih =>
      rw [List.cons_append, List.cons_append, splitAtClosing?, ih reads stays]
      rfl
  | case4 character rest notLast noPair ih =>
      have notBackslash := ne_backslash notLast noPair
      rw [unescaped?_cons notBackslash] at reads
      obtain ⟨others, readsRest, rfl⟩ := Option.map_eq_some_iff.mp reads
      obtain ⟨reached, staysBehind⟩ := stays
      rw [List.cons_append, splitAtClosing?_cons notBackslash, if_neg reached,
        ih readsRest staysBehind]
      rfl

end Scanner

/-! ## Splitting -/

section Splitting

variable {text blanks rest : List Char} {delimiter : Char} {delimited : Delimited}

theorem closing_ne_backslash (may : MayDelimit delimiter) : closing delimiter ≠ '\\' := by
  unfold closing
  split
  case h_5 => exact may.notBackslash
  all_goals decide

theorem splitAtClosing?_eq_some_iff (may : MayDelimit delimiter) :
    splitAtClosing? delimiter (closing delimiter) 0 rest = some delimited ↔
      rest = delimited.pattern ++ closing delimiter :: delimited.letters ∧
        Encloses delimiter delimited.pattern := by
  simp only [Encloses, ← staysInside_closing]
  constructor
  · exact staysInside_of_splitAtClosing?
  · rintro ⟨rfl, free, reads, stays⟩
    exact splitAtClosing?_of_staysInside (closing_ne_backslash may) reads stays _

theorem Begins.dropWhile_eq (begins : Begins text blanks delimiter rest) :
    text.dropWhile Unicode.isSpace = delimiter :: rest := by
  rw [begins.text_eq, List.dropWhile_append_of_pos begins.blank,
    List.dropWhile_cons_of_neg (by simp [begins.solid])]

/-- The white space in front of a text is all of it, or ends before the first other character. -/
theorem blank_or_begins (text : List Char) :
    (∀ character ∈ text, Unicode.isSpace character = true) ∨
      ∃ blanks delimiter rest, Begins text blanks delimiter rest := by
  cases dropped : text.dropWhile Unicode.isSpace with
  | nil => exact .inl (List.dropWhile_eq_nil_iff.mp dropped)
  | cons delimiter rest =>
      refine .inr ⟨text.takeWhile Unicode.isSpace, delimiter, rest, ?_, ?_, ?_⟩
      · rw [← dropped, List.takeWhile_append_dropWhile]
      · intro character member
        exact List.mem_takeWhile_imp member
      · have first := List.head?_dropWhile_not Unicode.isSpace text
        rw [dropped] at first
        simpa using first

theorem split_of_blank (blank : ∀ character ∈ text, Unicode.isSpace character = true) :
    split text = .error .emptyPattern := by
  rw [split, List.dropWhile_eq_nil_iff.mpr blank]

theorem split_of_refused (begins : Begins text blanks delimiter rest)
    (refused : ¬ MayDelimit delimiter) :
    split text = .error (.invalidDelimiter delimiter) := by
  have either : (Unicode.isAlphanumeric delimiter || decide (delimiter = '\\')) = true := by
    by_contra neither
    simp only [Bool.or_eq_true, decide_eq_true_eq, not_or, Bool.not_eq_true] at neither
    exact refused ⟨neither.1, neither.2⟩
  simp only [split, begins.dropWhile_eq, either, if_true]

theorem split_of_mayDelimit (begins : Begins text blanks delimiter rest)
    (may : MayDelimit delimiter) :
    split text =
      match splitAtClosing? delimiter (closing delimiter) 0 rest with
      | some delimited => .ok delimited
      | none => .error (.missingDelimiter (closing delimiter)) := by
  have neither : (Unicode.isAlphanumeric delimiter || decide (delimiter = '\\')) = false := by
    simp [may.notAlphanumeric, may.notBackslash]
  simp only [split, begins.dropWhile_eq, neither]
  rfl

theorem Written.split_eq (written : Written text blanks delimiter delimited) :
    split text = .ok delimited := by
  have splits := (splitAtClosing?_eq_some_iff written.mayDelimit).mpr ⟨rfl, written.encloses⟩
  rw [split_of_mayDelimit written.toBegins written.mayDelimit, splits]

/-- How a text is split, or why it is not.

* `split`: what a text is split into is what it is written as.
* `unique`: it is written in no other way.
* `empty`: nothing but white space is an empty pattern.
* `invalid`: a letter, a number or a backslash is no delimiter.
* `missing`: the closing delimiter is missing if a text begins with a delimiter, but is no delimited
  pattern.
* `answered`: there is no other answer. -/
structure SplitsAsWritten (text : List Char) : Prop where
  split : ∀ delimited, Delimited.split text = .ok delimited ↔
    ∃ blanks delimiter, Written text blanks delimiter delimited
  unique : ∀ blanks delimiter delimited blanksToo delimiterToo delimitedToo,
    Written text blanks delimiter delimited → Written text blanksToo delimiterToo delimitedToo →
      blanks = blanksToo ∧ delimiter = delimiterToo ∧ delimited = delimitedToo
  empty : Delimited.split text = .error .emptyPattern ↔
    ∀ character ∈ text, Unicode.isSpace character = true
  invalid : ∀ delimiter, Delimited.split text = .error (.invalidDelimiter delimiter) ↔
    ∃ blanks rest, Begins text blanks delimiter rest ∧
      (Unicode.isAlphanumeric delimiter = true ∨ delimiter = '\\')
  missing : ∀ closing, Delimited.split text = .error (.missingDelimiter closing) ↔
    ∃ blanks delimiter rest, Begins text blanks delimiter rest ∧ MayDelimit delimiter ∧
      closing = Delimited.closing delimiter ∧
      ∀ delimited, ¬ Written text blanks delimiter delimited
  answered : (∃ delimited, Delimited.split text = .ok delimited) ∨
    Delimited.split text = .error .emptyPattern ∨
    (∃ delimiter, Delimited.split text = .error (.invalidDelimiter delimiter)) ∨
    ∃ closing, Delimited.split text = .error (.missingDelimiter closing)

theorem Begins.unique {blanksToo restToo : List Char} {delimiterToo : Char}
    (begins : Begins text blanks delimiter rest)
    (beginsToo : Begins text blanksToo delimiterToo restToo) :
    blanks = blanksToo ∧ delimiter = delimiterToo ∧ rest = restToo := by
  have same := begins.dropWhile_eq.symm.trans beginsToo.dropWhile_eq
  obtain ⟨rfl, rfl⟩ := List.cons.inj same
  exact ⟨List.append_cancel_right (begins.text_eq.symm.trans beginsToo.text_eq), rfl, rfl⟩

theorem not_mayDelimit_iff :
    ¬ MayDelimit delimiter ↔ Unicode.isAlphanumeric delimiter = true ∨ delimiter = '\\' := by
  constructor
  · intro refused
    by_contra neither
    obtain ⟨notAlphanumeric, notBackslash⟩ := not_or.mp neither
    exact refused ⟨Bool.not_eq_true _ ▸ notAlphanumeric, notBackslash⟩
  · rintro (alphanumeric | backslash) ⟨notAlphanumeric, notBackslash⟩
    · rw [alphanumeric] at notAlphanumeric
      cases notAlphanumeric
    · exact notBackslash backslash

/-- Of texts that begin with a delimiter, those that are delimited patterns are split. -/
theorem split_eq_missing_iff (begins : Begins text blanks delimiter rest)
    (may : MayDelimit delimiter) :
    split text = .error (.missingDelimiter (closing delimiter)) ↔
      ∀ delimited, ¬ Written text blanks delimiter delimited := by
  rw [split_of_mayDelimit begins may]
  cases splits : splitAtClosing? delimiter (closing delimiter) 0 rest with
  | none =>
      refine ⟨fun _ delimited written => ?_, fun _ => rfl⟩
      obtain ⟨-, -, rfl⟩ := begins.unique written.toBegins
      have found := (splitAtClosing?_eq_some_iff may).mpr ⟨rfl, written.encloses⟩
      rw [splits] at found
      cases found
  | some delimited =>
      obtain ⟨rfl, encloses⟩ := (splitAtClosing?_eq_some_iff may).mp splits
      constructor
      · rintro ⟨⟩
      · exact fun unwritten => absurd ⟨begins, may, encloses⟩ (unwritten delimited)

theorem split_cases (text : List Char) :
    ((∀ character ∈ text, Unicode.isSpace character = true) ∧ split text = .error .emptyPattern) ∨
    (∃ blanks delimiter rest, Begins text blanks delimiter rest ∧ ¬ MayDelimit delimiter ∧
      split text = .error (.invalidDelimiter delimiter)) ∨
    (∃ blanks delimiter rest, Begins text blanks delimiter rest ∧ MayDelimit delimiter ∧
      (∀ delimited, ¬ Written text blanks delimiter delimited) ∧
      split text = .error (.missingDelimiter (closing delimiter))) ∨
    ∃ blanks delimiter delimited, Written text blanks delimiter delimited ∧
      split text = .ok delimited := by
  rcases blank_or_begins text with blank | ⟨blanks, delimiter, rest, begins⟩
  · exact .inl ⟨blank, split_of_blank blank⟩
  by_cases may : MayDelimit delimiter
  case neg =>
    exact .inr (.inl ⟨blanks, delimiter, rest, begins, may, split_of_refused begins may⟩)
  by_cases unwritten : ∀ delimited, ¬ Written text blanks delimiter delimited
  · have missing := (split_eq_missing_iff begins may).mpr unwritten
    exact .inr (.inr (.inl ⟨blanks, delimiter, rest, begins, may, unwritten, missing⟩))
  · obtain ⟨delimited, written⟩ := not_forall_not.mp unwritten
    exact .inr (.inr (.inr ⟨blanks, delimiter, delimited, written, written.split_eq⟩))

/-- Every text is split as it is written, and refused if it is not a delimited pattern. -/
theorem split_asWritten (text : List Char) : SplitsAsWritten text where
  split delimited := by
    constructor
    · intro splits
      rcases split_cases text with ⟨-, answer⟩ | ⟨_, _, _, -, -, answer⟩ |
          ⟨_, _, _, -, -, -, answer⟩ | ⟨blanks, delimiter, _, written, answer⟩ <;>
        rw [answer] at splits <;> cases splits
      exact ⟨blanks, delimiter, written⟩
    · rintro ⟨blanks, delimiter, written⟩
      exact written.split_eq
  unique blanks delimiter delimited blanksToo delimiterToo delimitedToo written writtenToo := by
    obtain ⟨rfl, rfl, -⟩ := written.toBegins.unique writtenToo.toBegins
    exact ⟨rfl, rfl, Except.ok.inj (written.split_eq.symm.trans writtenToo.split_eq)⟩
  empty := by
    refine ⟨fun splits => ?_, split_of_blank⟩
    rcases split_cases text with ⟨blank, -⟩ | ⟨_, _, _, -, -, answer⟩ |
        ⟨_, _, _, -, -, -, answer⟩ | ⟨_, _, _, -, answer⟩
    · exact blank
    all_goals
      rw [answer] at splits
      cases splits
  invalid delimiter := by
    constructor
    · intro splits
      rcases split_cases text with ⟨-, answer⟩ | ⟨blanks, _, rest, begins, refused, answer⟩ |
          ⟨_, _, _, -, -, -, answer⟩ | ⟨_, _, _, -, answer⟩ <;>
        rw [answer] at splits <;> cases splits
      exact ⟨blanks, rest, begins, not_mayDelimit_iff.mp refused⟩
    · rintro ⟨blanks, rest, begins, refused⟩
      exact split_of_refused begins (not_mayDelimit_iff.mpr refused)
  missing closing := by
    constructor
    · intro splits
      rcases split_cases text with ⟨-, answer⟩ | ⟨_, _, _, -, -, answer⟩ |
          ⟨blanks, delimiter, rest, begins, may, unwritten, answer⟩ | ⟨_, _, _, -, answer⟩ <;>
        rw [answer] at splits <;> cases splits
      exact ⟨blanks, delimiter, rest, begins, may, rfl, unwritten⟩
    · rintro ⟨blanks, delimiter, rest, begins, may, rfl, unwritten⟩
      exact (split_eq_missing_iff begins may).mpr unwritten
  answered := by
    rcases split_cases text with ⟨-, answer⟩ | ⟨_, delimiter, _, -, -, answer⟩ |
        ⟨_, delimiter, _, -, -, -, answer⟩ | ⟨_, _, delimited, -, answer⟩
    · exact .inr (.inl answer)
    · exact .inr (.inr (.inl ⟨delimiter, answer⟩))
    · exact .inr (.inr (.inr ⟨_, answer⟩))
    · exact .inl ⟨delimited, answer⟩

end Splitting

end Delimited

end Backtracking
