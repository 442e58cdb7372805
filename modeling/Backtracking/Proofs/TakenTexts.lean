import Backtracking.Pattern.Reader
import Backtracking.Proofs.Nesting
import Backtracking.Proofs.Success

/-!
# What escapes and classes take

An escape takes a letter and neutral characters, and a class takes its members up to the bracket
that closes it.  So neither of them has to do with the nesting of parentheses.
-/

namespace Backtracking

namespace Ensures

variable {α : Type} {cursor : Cursor} {condition : α → Cursor → Prop}

theorem looking {next : Cursor → Reading α} (follows : Ensures (next cursor) cursor condition) :
    Ensures (get >>= next) cursor condition :=
  follows

theorem skipping {count : Nat} {next : Unit → Reading α}
    (follows : Ensures (next ()) (cursor.advance count) condition) :
    Ensures (Reading.skip count >>= next) cursor condition :=
  follows

theorem taking {test : Char → Bool} {next : List Char → Reading α}
    (follows : Ensures (next (cursor.rest.takeWhile test))
      (cursor.advance (cursor.rest.takeWhile test).length) condition) :
    Ensures (Reading.takeWhile test >>= next) cursor condition :=
  follows

theorem peeking {next : Option Char → Reading α}
    (follows : Ensures (next cursor.rest.head?) cursor condition) :
    Ensures (Reading.peek? >>= next) cursor condition :=
  follows

theorem nextRead {next : Option Char → Reading α}
    (none : cursor.rest = [] → Ensures (next none) cursor condition)
    (some : ∀ character rest, cursor.rest = character :: rest →
      Ensures (next (some character)) (cursor.advance 1) condition) :
    Ensures (Reading.next? >>= next) cursor condition := by
  have reads : Ensures (Reading.skip cursor.rest.head?.toList.length >>= fun _ =>
      next cursor.rest.head?) cursor condition := by
    refine .skipping ?_
    cases rest : cursor.rest with
    | nil => exact none rest
    | cons character more => exact some character more rest
  exact reads

theorem accepted {expected : Char} {next : Bool → Reading α}
    (yes : ∀ rest, cursor.rest = expected :: rest →
      Ensures (next true) (cursor.advance 1) condition)
    (no : cursor.rest.head? ≠ some expected → Ensures (next false) cursor condition) :
    Ensures (Reading.accept expected >>= next) cursor condition := by
  rw [Reading.accept_bind]
  refine .peeking ?_
  split
  · next begins =>
      obtain ⟨rest, equal⟩ := List.head?_eq_some_iff.mp begins
      exact .skipping (yes rest equal)
  · next other => exact no other

theorem expected {expected : Char} {otherwise : CompileError} {next : Unit → Reading α}
    (follows : ∀ rest, cursor.rest = expected :: rest →
      Ensures (next ()) (cursor.advance 1) condition) :
    Ensures (Reading.expect expected otherwise >>= next) cursor condition := by
  rw [Reading.expect, bind_assoc]
  refine .accepted follows fun _ => ?_
  intro value after succeeds
  cases succeeds

end Ensures

namespace Cursor

theorem rest_advance_length {cursor : Cursor} (taken : List Char) {rest : List Char}
    (begins : cursor.rest = taken ++ rest) : (cursor.advance taken.length).rest = rest := by
  rw [advance, begins, List.drop_left]

theorem rest_advance {cursor : Cursor} {character : Char} {rest : List Char}
    (begins : cursor.rest = character :: rest) : (cursor.advance 1).rest = rest :=
  rest_advance_length [character] begins

/-- Only neutral characters are taken. -/
def Takes (before after : Cursor) : Prop :=
  after.flags = before.flags ∧ ∃ taken, before.rest = taken ++ after.rest ∧
    ∀ character ∈ taken, Scan.isNeutral character = true

namespace Takes

variable {first second third cursor : Cursor}

theorem refl (cursor : Cursor) : cursor.Takes cursor := ⟨rfl, [], rfl, by simp⟩

theorem trans (begins : first.Takes second) (follows : second.Takes third) : first.Takes third := by
  obtain ⟨same, taken, split, neutral⟩ := begins
  obtain ⟨sameToo, more, splitToo, neutralToo⟩ := follows
  refine ⟨sameToo.trans same, taken ++ more, by simp [split, splitToo], ?_⟩
  intro character member
  exact (List.mem_append.mp member).elim (neutral character) (neutralToo character)

theorem front {taken rest : List Char} (begins : cursor.rest = taken ++ rest)
    (neutral : ∀ character ∈ taken, Scan.isNeutral character = true) :
    cursor.Takes (cursor.advance taken.length) :=
  ⟨rfl, taken, by simp [advance, begins], neutral⟩

theorem one {character : Char} {rest : List Char} (begins : cursor.rest = character :: rest)
    (neutral : Scan.isNeutral character = true) : cursor.Takes (cursor.advance 1) :=
  front (show cursor.rest = [character] ++ rest from begins) (by simpa using neutral)

end Takes

/-- A letter behind a backslash is taken, together with what belongs to it. -/
def TakesEscape (before after : Cursor) : Prop :=
  after.flags = before.flags ∧ ∃ front taken, before.rest = front ++ (taken ++ after.rest) ∧
    Scan.IsEscape front ∧ ∀ character ∈ taken, Scan.isNeutral character = true

namespace TakesEscape

variable {cursor after : Cursor} {first : Char} {rest : List Char}

theorem letter (begins : cursor.rest = first :: rest) (unquoted : first ≠ 'Q')
    (other : first ≠ 'c') (takes : (cursor.advance 1).Takes after) :
    cursor.TakesEscape after := by
  obtain ⟨same, taken, split, neutral⟩ := takes
  refine ⟨same, [first], taken, ?_, .inl ⟨first, unquoted, other, rfl⟩, neutral⟩
  rw [← split, begins]
  simp [advance, begins]

theorem control {character : Char} {more : List Char} (begins : cursor.rest = 'c' :: rest)
    (follows : (cursor.advance 1).rest = character :: more) :
    cursor.TakesEscape ((cursor.advance 1).advance 1) := by
  refine ⟨rfl, ['c', character], [], ?_, .inr ⟨character, rfl⟩, by simp⟩
  simp only [advance, begins, List.drop_succ_cons, List.drop_zero] at follows
  simp [advance, begins, follows]

theorem behind {last : Cursor} (escape : cursor.TakesEscape after) (takes : after.Takes last) :
    cursor.TakesEscape last := by
  obtain ⟨same, front, taken, split, escapes, neutral⟩ := escape
  obtain ⟨sameToo, more, splitToo, neutralToo⟩ := takes
  refine ⟨sameToo.trans same, front, taken ++ more, by simp [split, splitToo], escapes, ?_⟩
  intro character member
  exact (List.mem_append.mp member).elim (neutral character) (neutralToo character)

end TakesEscape

end Cursor

namespace Reading

variable {α β : Type}

/-- If a reading succeeds, it has taken only neutral characters. -/
def TakesNeutral (reading : Reading α) : Prop :=
  ∀ cursor, Ensures reading cursor fun _ after => cursor.Takes after

namespace TakesNeutral

theorem pure (value : α) : TakesNeutral (Pure.pure value : Reading α) :=
  fun cursor => .pure (.refl cursor)

theorem thrown (error : CompileError) : TakesNeutral (throw error : Reading α) :=
  fun _ => .thrown error

theorem bind {first : Reading β} {next : β → Reading α} (begins : TakesNeutral first)
    (follows : ∀ value, TakesNeutral (next value)) : TakesNeutral (first >>= next) := by
  intro cursor
  refine (begins cursor).bind fun value middle taken => ?_
  exact (follows value middle).weaken fun _ _ further => taken.trans further

theorem looking {next : Cursor → Reading α}
    (follows : ∀ cursor, Ensures (next cursor) cursor fun _ after => cursor.Takes after) :
    TakesNeutral (get >>= next) :=
  follows

theorem guarded {refused : Prop} [Decidable refused] {error : CompileError}
    {rest : Unit → Reading α} (goesOn : ¬ refused → TakesNeutral (rest ())) :
    TakesNeutral (if refused then throw error >>= rest else rest ()) :=
  fun cursor => .guarded fun accepted => goesOn accepted cursor

theorem accept {expected : Char} (neutral : Scan.isNeutral expected = true) :
    TakesNeutral (accept expected) := by
  intro cursor
  have whole : Ensures (Reading.accept expected >>= fun taken => Pure.pure taken) cursor
      fun _ after => cursor.Takes after :=
    .accepted (fun _ begins => .pure (.one begins neutral)) fun _ => .pure (.refl cursor)
  simpa only [bind_pure] using whole

theorem expect {expected : Char} (neutral : Scan.isNeutral expected = true)
    (otherwise : CompileError) : TakesNeutral (expect expected otherwise) := by
  refine (accept neutral).bind fun taken => ?_
  split
  · exact .thrown otherwise
  · exact .pure ()

theorem takeWhile {test : Char → Bool}
    (neutral : ∀ character, test character = true → Scan.isNeutral character = true) :
    TakesNeutral (takeWhile test) := by
  refine .looking fun cursor => .skipping (.pure ?_)
  exact .front (Scan.takeWhile_append_drop test cursor.rest).symm fun character member =>
    neutral character (Scan.of_mem_takeWhile member)

end TakesNeutral

end Reading

open Reading

/-! ## Escapes -/

namespace Escape

theorem isNeutral_of_isOctal {character : Char} (octal : Digits.isOctal character = true) :
    Scan.isNeutral character = true :=
  Scan.isNeutral_of (by decide) octal

theorem isNeutral_of_isHex {character : Char} (hex : Digits.isHex character = true) :
    Scan.isNeutral character = true :=
  Scan.isNeutral_of (by decide) hex

theorem readBracedCode_takes (base : Nat) {isDigit : Char → Bool}
    (neutral : ∀ character, isDigit character = true → Scan.isNeutral character = true)
    (start : Nat) : TakesNeutral (readBracedCode base isDigit start) := by
  refine (TakesNeutral.takeWhile neutral).bind fun digits => .guarded fun _ => ?_
  refine (TakesNeutral.expect (by decide) _).bind fun _ => ?_
  dsimp only
  split
  · exact .pure _
  · exact .thrown _

theorem readShortCode_takes (base : Nat) {isDigit : Char → Bool}
    (neutral : ∀ character, isDigit character = true → Scan.isNeutral character = true)
    (read : List Char) : TakesNeutral (readShortCode base isDigit read) := by
  refine .looking fun cursor => .skipping (.pure ?_)
  obtain ⟨rest, split⟩ :=
    (List.takeWhile_prefix (l := cursor.rest.take 2) isDigit).trans (List.take_prefix 2 cursor.rest)
  exact .front split.symm fun character member => neutral character (Scan.of_mem_takeWhile member)

theorem readChar_takes {cursor : Cursor} {letter : Char} {rest : List Char}
    (begins : cursor.rest = letter :: rest) (unquoted : letter ≠ 'Q') (start : Nat) :
    Ensures (readChar letter start) (cursor.advance 1) fun _ after => cursor.TakesEscape after := by
  by_cases control : letter = 'c'
  · subst control
    refine .nextRead (fun _ => .thrown _) fun character more follows => ?_
    dsimp only
    split
    · exact .pure (Cursor.TakesEscape.control begins follows)
    · exact .thrown _
  have takes : TakesNeutral (readChar letter start) := by
    unfold readChar
    split
    case h_7 => exact readShortCode_takes _ (fun _ => isNeutral_of_isOctal) _
    case h_8 =>
      refine (TakesNeutral.accept (by decide)).bind fun braced => ?_
      split
      · exact readBracedCode_takes _ (fun _ => isNeutral_of_isOctal) _
      · exact .thrown _
    case h_9 =>
      refine (TakesNeutral.accept (by decide)).bind fun braced => ?_
      split
      · exact readBracedCode_takes _ (fun _ => isNeutral_of_isHex) _
      · exact readShortCode_takes _ (fun _ => isNeutral_of_isHex) _
    case h_10 => exact absurd rfl control
    case h_11 =>
      split
      · exact .thrown _
      · exact .pure _
    all_goals exact .pure _
  exact (takes _).weaken fun _ _ taken => Cursor.TakesEscape.letter begins unquoted control taken

theorem isNameChar_of_ranges? {name : List Char} {ranges : List CharRange}
    (known : PropertyName.ranges? name = some ranges) {character : Char}
    (member : character ∈ name) : PropertyName.isNameChar character = true := by
  unfold PropertyName.ranges? at known
  split at known
  · cases known
  · next valid =>
      simp only [Bool.or_eq_true, Bool.not_eq_true', not_or, Bool.not_eq_false] at valid
      exact List.all_eq_true.mp valid.2 character member

theorem readPropertyName_takes (start : Nat) (cursor : Cursor) :
    Ensures (readPropertyName start) cursor fun named after =>
      (∀ character ∈ named.1, Scan.isNeutral character = true) → cursor.Takes after := by
  refine .accepted (fun rest begins => ?_) fun _ => ?_
  · have opened : cursor.Takes (cursor.advance 1) := .one begins (by decide)
    refine (TakesNeutral.accept (by decide) _).bind fun negated middle taken => ?_
    refine .taking (.expected fun rest closes => .pure fun neutral => ?_)
    have name := Cursor.Takes.front
      (Scan.takeWhile_append_drop (· != '}') middle.rest).symm neutral
    exact ((opened.trans taken).trans name).trans (.one closes (by decide))
  · refine .nextRead (fun _ => .pure fun _ => .refl cursor) fun character rest begins => ?_
    exact .pure fun neutral => .one begins (neutral character (by simp))

theorem readProperty_takes (letter : Char) (start : Nat) :
    TakesNeutral (readProperty letter start) := by
  intro cursor
  refine (readPropertyName_takes start cursor).bind fun named after taken => ?_
  dsimp only
  split
  · next ranges known =>
      refine .pure (taken fun character member => ?_)
      exact Scan.isNeutral_of (by decide) (isNameChar_of_ranges? known member)
  · exact .thrown _

theorem readShorthand_takes (letter : Char) : TakesNeutral (readShorthand letter) :=
  .looking fun cursor => .pure (.refl cursor)

end Escape

/-! ## Bracketed classes -/

/-- Between two places a text goes on with a member of a class. -/
structure Cursor.TakesMember (isFirst : Bool) (text : List Char) (before after : Cursor) :
    Prop where
  flags_eq : after.flags = before.flags
  length_le : after.rest.length ≤ before.rest.length
  tail : ∀ rest, ClassTail false after.rest rest → ClassTail isFirst text rest

namespace Cursor.TakesMember

variable {isFirst : Bool} {text : List Char} {before middle after : Cursor}

theorem refl (cursor : Cursor) : cursor.TakesMember false cursor.rest cursor :=
  ⟨rfl, Nat.le_refl _, fun _ => id⟩

theorem andThen (begins : before.TakesMember isFirst text middle)
    (follows : middle.TakesMember false middle.rest after) :
    before.TakesMember isFirst text after where
  flags_eq := follows.flags_eq.trans begins.flags_eq
  length_le := Nat.le_trans follows.length_le begins.length_le
  tail rest tail := begins.tail rest (follows.tail rest tail)

theorem escape (takes : before.TakesEscape after) :
    before.TakesMember isFirst ('\\' :: before.rest) after := by
  obtain ⟨same, front, taken, split, escapes, neutral⟩ := takes
  refine ⟨same, ?_, fun rest tail => ?_⟩
  · simp only [split, List.length_append]
    omega
  · rw [split]
    exact .escape escapes (tail.neutral neutral)

end Cursor.TakesMember

namespace Bracket

theorem readEscape_takes (isFirst : Bool) (start : Nat) (cursor : Cursor) :
    Ensures (readEscape start) cursor fun _ after =>
      cursor.TakesMember isFirst ('\\' :: cursor.rest) after := by
  refine .nextRead (fun _ => .thrown _) fun letter rest begins => ?_
  have escape {reading : Reading Item} (unquoted : letter ≠ 'Q') (other : letter ≠ 'c')
      (takes : TakesNeutral reading) :
      Ensures reading (cursor.advance 1) fun _ after =>
        cursor.TakesMember isFirst ('\\' :: cursor.rest) after :=
    (takes _).weaken fun _ _ taken => .escape (.letter begins unquoted other taken)
  dsimp only
  split
  · next shorthand =>
      refine escape ?_ ?_ ((Escape.readShorthand_takes _).bind fun _ => .pure _)
      · rintro rfl
        cases shorthand
      · rintro rfl
        cases shorthand
  split
  · next named =>
      refine escape ?_ ?_ ((Escape.readProperty_takes _ _).bind fun _ => .pure _)
      · rintro rfl
        cases named
      · rintro rfl
        cases named
  split
  · next named => exact escape (by simp [named]) (by simp [named]) (.pure _)
  split
  · next named => exact escape (by simp [named]) (by simp [named]) (.pure _)
  split
  · next quoted =>
      subst quoted
      refine .looking (.skipping (.pure ⟨rfl, ?_, fun rest tail => ?_⟩))
      · simp only [Cursor.advance, List.length_drop]
        omega
      · simp only [Cursor.advance, begins] at tail ⊢
        exact .quoted tail
  next unquoted =>
  split
  · next named =>
      refine escape unquoted ?_ (.pure _)
      rintro rfl
      cases named
  split
  · next digit =>
      have code := Escape.readShortCode_takes 8 (fun _ => Escape.isNeutral_of_isOctal) [letter]
      refine escape unquoted ?_ (code.bind fun _ => .pure _)
      rintro rfl
      cases digit
  · refine (Escape.readChar_takes begins unquoted start).bind fun _ after taken => ?_
    exact .pure (.escape taken)

theorem readPosix?_takes (isFirst : Bool) (start : Nat) (cursor : Cursor) :
    Ensures (readPosix? start) cursor fun _ after =>
      cursor.TakesMember isFirst ('[' :: cursor.rest) after := by
  refine .looking ?_
  split
  · next unnamed => exact .pure ⟨rfl, Nat.le_refl _, fun _ tail => .bracket unnamed tail⟩
  · next named =>
      refine .skipping ?_
      split
      · refine .pure ⟨rfl, ?_, fun _ tail => .named named tail⟩
        simp only [Cursor.advance, List.length_drop]
        omega
      · exact .thrown _

theorem readItem_takes {isFirst : Bool} {character : Char}
    (inside : character = ']' → isFirst = true) (start : Nat) (cursor : Cursor) :
    Ensures (readItem character start) cursor fun _ after =>
      cursor.TakesMember isFirst (character :: cursor.rest) after := by
  unfold readItem
  split
  · exact (readPosix?_takes isFirst start cursor).bind fun _ _ taken => .pure taken
  · exact readEscape_takes isFirst start cursor
  · next bracket backslash =>
      refine .pure ⟨rfl, Nat.le_refl _, fun _ tail => .ordinary ?_ inside tail⟩
      simp only [List.mem_cons, List.not_mem_nil, or_false, not_or]
      exact ⟨bracket, backslash⟩

theorem readUpperEnd?_takes {cursor : Cursor} (goesOn : cursor.rest.head? ≠ some ']') :
    Ensures readUpperEnd? cursor fun last? after =>
      last?.isSome = true → cursor.TakesMember false cursor.rest after := by
  refine .looking (.nextRead (fun _ => .pure nofun) fun character rest begins => ?_)
  have moved := Cursor.rest_advance begins
  split
  · next impossible => cases impossible
  · next equal =>
      cases equal
      refine (readEscape_takes false _ (cursor.advance 1)).bind fun item after taken => ?_
      split
      · refine .pure fun _ => ⟨taken.flags_eq, ?_, ?_⟩
        · have less := taken.length_le
          rw [moved] at less
          rw [begins, List.length_cons]
          exact Nat.le_succ_of_le less
        · rw [begins, ← moved]
          exact taken.tail
      · exact .pure nofun
  · next equal =>
      cases equal
      refine .looking ?_
      split
      · exact .pure nofun
      · next unnamed =>
          refine .pure fun _ => ⟨rfl, by simp [Cursor.advance], fun _ tail => ?_⟩
          rw [begins]
          rw [moved] at tail unnamed
          exact .bracket (by simpa using unnamed) tail
  · next other backslash bracket equal =>
      cases equal
      refine .pure fun _ => ⟨rfl, by simp [Cursor.advance], fun _ tail => ?_⟩
      rw [begins] at goesOn ⊢
      rw [moved] at tail
      refine .ordinary ?_ (fun closes => ?_) tail
      · simp only [List.mem_cons, List.not_mem_nil, or_false, not_or]
        exact ⟨bracket, backslash⟩
      · exact absurd (congrArg some closes) goesOn

theorem readRange_takes (first : Char) (start : Nat) (cursor : Cursor) :
    Ensures (readRange first start) cursor fun _ after =>
      cursor.TakesMember false cursor.rest after := by
  refine .looking ?_
  split
  · next continues =>
      refine .skipping ?_
      obtain ⟨following, rest, begins, goesOn⟩ : ∃ following rest,
          cursor.rest = '-' :: following :: rest ∧ following ≠ ']' := by
        unfold continuesRange at continues
        split at continues
        · next following rest begins => exact ⟨following, rest, begins, by simpa using continues⟩
        · cases continues
      have moved := Cursor.rest_advance begins
      have hyphen : cursor.TakesMember false cursor.rest (cursor.advance 1) := by
        refine ⟨rfl, by simp [Cursor.advance], fun _ tail => ?_⟩
        rw [moved] at tail
        rw [begins]
        exact .ordinary (by decide) nofun tail
      refine (readUpperEnd?_takes (by rw [moved]; simpa using goesOn)).bind
        fun last? after taken => ?_
      split
      · split
        · exact .thrown _
        · exact .pure (hyphen.andThen (taken rfl))
      · -- The reader goes back to where the range began.
        have back : Ensures (set cursor : Reading Unit) after fun _ last => last = cursor :=
          .replaced rfl
        refine back.bind ?_
        rintro _ _ rfl
        exact .pure (.refl _)
  · exact .pure (.refl cursor)

theorem readItems_takes {start fuel : Nat} {isFirst : Bool} {ranges : List CharRange}
    {cursor : Cursor} (enough : cursor.rest.length < fuel) :
    Ensures (readItems start fuel isFirst ranges) cursor fun _ after =>
      after.flags = cursor.flags ∧ ClassTail isFirst cursor.rest after.rest := by
  induction fuel generalizing isFirst ranges cursor with
  | zero => exact absurd enough (Nat.not_lt_zero _)
  | succ fuel ih =>
      refine .looking (.nextRead (fun _ => .thrown _) fun character rest begins => ?_)
      have moved := Cursor.rest_advance begins
      rw [begins, List.length_cons] at enough
      dsimp only
      split
      · next closes =>
          simp only [Bool.and_eq_true, decide_eq_true_eq, Bool.not_eq_true'] at closes
          obtain ⟨rfl, rfl⟩ := closes
          refine .pure ⟨rfl, ?_⟩
          rw [begins, moved]
          exact .close
      next goesOn =>
      have inside : character = ']' → isFirst = true := by
        rintro rfl
        simpa using goesOn
      refine (readItem_takes inside _ (cursor.advance 1)).bind fun item after taken => ?_
      rw [moved] at taken
      have continues {last : Cursor} (taken : (cursor.advance 1).TakesMember isFirst
          (character :: rest) last) (ranges : List CharRange) :
          Ensures (readItems start fuel false ranges) last fun _ after =>
            after.flags = cursor.flags ∧ ClassTail isFirst cursor.rest after.rest := by
        have less := taken.length_le
        rw [moved] at less
        refine (ih (by omega)).weaken ?_
        rintro _ final ⟨same, tail⟩
        rw [begins]
        exact ⟨same.trans taken.flags_eq, taken.tail _ tail⟩
      split
      · exact continues taken _
      · refine (readRange_takes _ _ after).bind fun range last further => ?_
        exact continues (taken.andThen further) _

theorem read_takes (start : Nat) (cursor : Cursor) :
    Ensures (read start) cursor fun _ after =>
      after.flags = cursor.flags ∧ ClassTail true (Scan.afterCaret cursor.rest) after.rest := by
  refine .looking (.guarded fun _ => .accepted (fun rest begins => ?_) fun other => ?_)
  · have moved := Cursor.rest_advance begins
    have enough : (cursor.advance 1).rest.length < cursor.rest.length + 1 := by
      rw [moved, begins, List.length_cons]
      omega
    refine (readItems_takes enough).bind ?_
    rintro ranges after ⟨same, tail⟩
    rw [moved] at tail
    rw [begins]
    exact .pure ⟨same, tail⟩
  · refine (readItems_takes (Nat.lt_succ_self _)).bind ?_
    rintro ranges after ⟨same, tail⟩
    refine .pure ⟨same, ?_⟩
    unfold Scan.afterCaret
    split
    · next caret => exact absurd (congrArg List.head? caret) other
    · exact tail

end Bracket

end Backtracking
