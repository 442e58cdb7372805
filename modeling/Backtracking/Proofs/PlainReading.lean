import Backtracking.Pattern.Reader
import Backtracking.Proofs.GroupDepths
import Backtracking.Proofs.Success

/-!
# Readings that open no group

Most readings leave the names of the groups alone that were opened so far.  The atoms that they read
contain no group and no repetition.
-/

namespace Backtracking

namespace Reading

/-- If a reading succeeds, it has opened no group, and its result satisfies a condition. -/
def Keeps {α : Type} (reading : Reading α) (condition : α → Prop) : Prop :=
  ∀ cursor, Ensures reading cursor fun value after =>
    after.groupNames = cursor.groupNames ∧ condition value

/-- If a reading succeeds, it has opened no group. -/
abbrev OpensNone {α : Type} (reading : Reading α) : Prop := reading.Keeps fun _ => True

variable {α β : Type} {condition : α → Prop}

theorem Keeps.pure {value : α} (holds : condition value) :
    Keeps (Pure.pure value : Reading α) condition :=
  fun _ => .pure ⟨rfl, holds⟩

theorem Keeps.thrown (error : CompileError) : Keeps (throw error : Reading α) condition :=
  fun _ => .thrown error

theorem Keeps.bind {reading : Reading β} {next : β → Reading α} {middle : β → Prop}
    (begins : Keeps reading middle)
    (follows : ∀ value, middle value → Keeps (next value) condition) :
    Keeps (reading >>= next) condition := by
  intro cursor
  refine Ensures.bind (begins cursor) ?_
  rintro value between ⟨same, holds⟩
  refine Ensures.weaken (follows value holds between) ?_
  rintro result after ⟨sameToo, final⟩
  exact ⟨sameToo.trans same, final⟩

theorem OpensNone.andThen {reading : Reading β} {next : β → Reading α} (begins : OpensNone reading)
    (follows : ∀ value, Keeps (next value) condition) : Keeps (reading >>= next) condition :=
  begins.bind fun value _ => follows value

theorem Keeps.guarded {refused : Prop} [Decidable refused] {error : CompileError}
    {rest : Unit → Reading α} (goesOn : ¬ refused → Keeps (rest ()) condition) :
    Keeps (if refused then throw error >>= rest else rest ()) condition :=
  fun cursor => .guarded fun accepted => goesOn accepted cursor

theorem get_opensNone : OpensNone (get : Reading Cursor) :=
  fun _ => .got ⟨rfl, trivial⟩

theorem skip_opensNone (count : Nat) : OpensNone (skip count) :=
  fun _ => .modified ⟨rfl, trivial⟩

theorem peek?_opensNone : OpensNone peek? :=
  get_opensNone.andThen fun _ => .pure trivial

theorem next?_opensNone : OpensNone next? :=
  peek?_opensNone.andThen fun _ => (skip_opensNone _).andThen fun _ => .pure trivial

theorem accept_opensNone (expected : Char) : OpensNone (accept expected) := by
  refine peek?_opensNone.andThen fun character? => ?_
  split
  · exact (skip_opensNone 1).andThen fun _ => .pure trivial
  · exact .pure trivial

theorem expect_opensNone (expected : Char) (otherwise : CompileError) :
    OpensNone (expect expected otherwise) := by
  refine (accept_opensNone expected).andThen fun accepted => ?_
  split
  · exact .thrown otherwise
  · exact .pure trivial

theorem takeWhile_opensNone (test : Char → Bool) : OpensNone (takeWhile test) :=
  get_opensNone.andThen fun _ => (skip_opensNone _).andThen fun _ => .pure trivial

theorem discard_opensNone {reading : Reading α} (opensNone : OpensNone reading) :
    OpensNone (discard reading) :=
  opensNone.andThen fun _ => .pure trivial

end Reading

open Reading

namespace Escape

theorem readBracedCode_opensNone (base : Nat) (isDigit : Char → Bool) (start : Nat) :
    OpensNone (readBracedCode base isDigit start) := by
  refine (takeWhile_opensNone isDigit).andThen fun digits => .guarded fun _ => ?_
  refine (expect_opensNone _ _).andThen fun _ => ?_
  dsimp only
  split
  · exact .pure trivial
  · exact .thrown _

theorem readShortCode_opensNone (base : Nat) (isDigit : Char → Bool) (read : List Char) :
    OpensNone (readShortCode base isDigit read) :=
  get_opensNone.andThen fun _ => (skip_opensNone _).andThen fun _ => .pure trivial

theorem readControl_opensNone (start : Nat) : OpensNone (readControl start) := by
  refine next?_opensNone.andThen fun character? => ?_
  split
  · split
    · exact .pure trivial
    · exact .thrown _
  · exact .thrown _

theorem readChar_opensNone (letter : Char) (start : Nat) : OpensNone (readChar letter start) := by
  unfold readChar
  split
  case h_7 => exact readShortCode_opensNone _ _ _
  case h_8 =>
    refine (accept_opensNone _).andThen fun braced => ?_
    split
    · exact readBracedCode_opensNone _ _ _
    · exact .thrown _
  case h_9 =>
    refine (accept_opensNone _).andThen fun braced => ?_
    split
    · exact readBracedCode_opensNone _ _ _
    · exact readShortCode_opensNone _ _ _
  case h_10 => exact readControl_opensNone start
  case h_11 =>
    split
    · exact .thrown _
    · exact .pure trivial
  all_goals exact .pure trivial

theorem readPropertyName_opensNone (start : Nat) : OpensNone (readPropertyName start) := by
  refine (accept_opensNone _).andThen fun braced => ?_
  split
  · refine (accept_opensNone _).andThen fun negated => ?_
    refine (takeWhile_opensNone _).andThen fun name => ?_
    exact (expect_opensNone _ _).andThen fun _ => .pure trivial
  · exact next?_opensNone.andThen fun _ => .pure trivial

theorem readProperty_opensNone (letter : Char) (start : Nat) :
    OpensNone (readProperty letter start) := by
  refine (readPropertyName_opensNone start).andThen fun named => ?_
  dsimp only
  split
  · exact .pure trivial
  · exact .thrown _

theorem readShorthand_opensNone (letter : Char) : OpensNone (readShorthand letter) :=
  get_opensNone.andThen fun _ => .pure trivial

end Escape

namespace Bracket

theorem readEscape_opensNone (start : Nat) : OpensNone (readEscape start) := by
  refine next?_opensNone.andThen fun letter? => ?_
  split
  · exact .thrown _
  split
  · exact (Escape.readShorthand_opensNone _).andThen fun _ => .pure trivial
  split
  · exact (Escape.readProperty_opensNone _ _).andThen fun _ => .pure trivial
  split
  · exact .pure trivial
  split
  · exact .pure trivial
  split
  · refine get_opensNone.andThen fun cursor => ?_
    exact (skip_opensNone _).andThen fun _ => .pure trivial
  split
  · exact .pure trivial
  split
  · exact (Escape.readShortCode_opensNone _ _ _).andThen fun _ => .pure trivial
  · exact (Escape.readChar_opensNone _ _).andThen fun _ => .pure trivial

theorem readPosix?_opensNone (start : Nat) : OpensNone (readPosix? start) := by
  refine get_opensNone.andThen fun cursor => ?_
  split
  · exact .pure trivial
  · refine (skip_opensNone _).andThen fun _ => ?_
    split
    · exact .pure trivial
    · exact .thrown _

theorem readItem_opensNone (character : Char) (start : Nat) :
    OpensNone (readItem character start) := by
  unfold readItem
  split
  · exact (readPosix?_opensNone start).andThen fun _ => .pure trivial
  · exact readEscape_opensNone start
  · exact .pure trivial

theorem readUpperEnd?_opensNone : OpensNone readUpperEnd? := by
  refine get_opensNone.andThen fun cursor => ?_
  refine next?_opensNone.andThen fun character? => ?_
  split
  · exact .pure trivial
  · refine (readEscape_opensNone _).andThen fun item => ?_
    split <;> exact .pure trivial
  · refine get_opensNone.andThen fun cursor => ?_
    split <;> exact .pure trivial
  · exact .pure trivial

theorem readRange_opensNone (first : Char) (start : Nat) : OpensNone (readRange first start) := by
  intro cursor
  have begins : Ensures (get : Reading Cursor) cursor fun read after =>
      read = cursor ∧ after = cursor :=
    .got ⟨rfl, rfl⟩
  refine Ensures.bind begins ?_
  rintro _ cursor ⟨rfl, rfl⟩
  split
  · refine Ensures.bind (skip_opensNone 1 _) ?_
    rintro _ skipped ⟨same, -⟩
    refine Ensures.bind (readUpperEnd?_opensNone _) ?_
    rintro last? read ⟨sameToo, -⟩
    split
    · split
      · exact .thrown _
      · exact .pure ⟨sameToo.trans same, trivial⟩
    · -- The reader goes back to where the range began.
      have back : Ensures (set cursor : Reading Unit) read fun _ after => after = cursor :=
        .replaced rfl
      refine Ensures.bind back ?_
      rintro _ _ rfl
      exact .pure ⟨rfl, trivial⟩
  · exact .pure ⟨rfl, trivial⟩

theorem readItems_opensNone (start fuel : Nat) (isFirst : Bool) (ranges : List CharRange) :
    OpensNone (readItems start fuel isFirst ranges) := by
  induction fuel generalizing isFirst ranges with
  | zero => exact .pure trivial
  | succ fuel ih =>
      refine get_opensNone.andThen fun cursor => ?_
      refine next?_opensNone.andThen fun character? => ?_
      split
      · exact .thrown _
      split
      · exact .pure trivial
      refine (readItem_opensNone _ _).andThen fun item => ?_
      split
      · exact ih false _
      · exact (readRange_opensNone _ _).andThen fun range => ih false _

theorem read_opensNone (start : Nat) : OpensNone (read start) := by
  refine get_opensNone.andThen fun cursor => .guarded fun _ => ?_
  refine (accept_opensNone _).andThen fun negated => ?_
  exact (readItems_opensNone _ _ _ _).andThen fun ranges => .pure trivial

end Bracket

namespace Pattern

/-- What the reader sees to in every part of a pattern: sequences and choices have several members,
the bounds of a repetition are in order and not too great, and no reference is to the whole
match. -/
def Legal : Pattern → Prop
  | .concat members | .alternation members => 2 ≤ members.length
  | .repeated _ least most _ => least ≤ Reader.greatestRepetition ∧
      ∀ bound, most = some bound → least ≤ bound ∧ bound ≤ Reader.greatestRepetition
  | .backReference target _ _ | .conditional target _ _ _ => target ≠ .number 0
  | _ => True

theorem Legal.ordered {pattern : Pattern} (legal : pattern.Legal) : pattern.Ordered := by
  cases pattern
  case repeated body least most mode => exact fun bound equal => (legal.2 bound equal).1
  all_goals trivial

/-- A pattern without groups, of which every part is legal. -/
structure Plain (pattern : Pattern) : Prop where
  groups_eq : pattern.groups = []
  legal : pattern.Throughout Legal

/-- The atoms that are written without parentheses. -/
inductive Simple : Pattern → Prop
  | char (matcher : CharMatcher) : Simple (.char matcher)
  | assert (assertion : Assertion) : Simple (.assert assertion)
  | anyLineEnd : Simple Reader.anyLineEnd
  | backReference {target : GroupRef} (legal : target ≠ .number 0) (ignoresCase : Bool)
      (offset : Nat) : Simple (.backReference target ignoresCase offset)

theorem Simple.plain {pattern : Pattern} (simple : pattern.Simple) : pattern.Plain := by
  refine ⟨by cases simple <;> rfl, ?_⟩
  cases simple with
  | char | assert => simp [Throughout, parts, Legal]
  | anyLineEnd => simp [Reader.anyLineEnd, Throughout, parts, partsOfAll, Legal]
  | backReference legal => simpa [Throughout, parts, Legal] using legal

end Pattern

namespace Reader

open Pattern

theorem literal_keeps (character : Char) : Keeps (literal character) Simple :=
  get_opensNone.andThen fun _ => .pure (.char _)

theorem skipTrivia_opensNone : OpensNone skipTrivia := by
  refine get_opensNone.andThen fun cursor => ?_
  split
  · exact skip_opensNone _
  · exact .pure trivial

theorem readBounds?_keeps :
    Keeps readBounds? fun bounds? => ∀ bounds, bounds? = some bounds →
      bounds.1 ≤ greatestRepetition ∧
        ∀ bound, bounds.2 = some bound → bounds.1 ≤ bound ∧ bound ≤ greatestRepetition := by
  refine get_opensNone.andThen fun cursor => ?_
  split
  · exact (skip_opensNone 1).andThen fun _ => .pure (by simp)
  · exact (skip_opensNone 1).andThen fun _ => .pure (by simp [greatestRepetition])
  · exact (skip_opensNone 1).andThen fun _ => .pure (by simp [greatestRepetition])
  split
  · exact .pure (by simp)
  · next bounds _ =>
      refine .guarded fun small => .guarded fun ordered => ?_
      refine (skip_opensNone _).andThen fun _ => .pure ?_
      simp only [Bool.or_eq_true, decide_eq_true_eq, not_or, Nat.not_lt] at small
      rintro _ ⟨⟩
      refine ⟨small.1, fun bound equal => ?_⟩
      have known : bounds.most = some bound := equal
      simp only [known, Option.any_some, decide_eq_true_eq, Nat.not_lt] at small ordered
      exact ⟨ordered, small.2⟩

theorem readMode_opensNone : OpensNone readMode := by
  refine (accept_opensNone _).andThen fun possessive => ?_
  split
  · exact .pure trivial
  · refine (accept_opensNone _).andThen fun turned => ?_
    exact get_opensNone.andThen fun _ => .pure trivial

theorem readGroupName_opensNone (terminator : Char) : OpensNone (readGroupName terminator) := by
  refine get_opensNone.andThen fun cursor => ?_
  refine (takeWhile_opensNone _).andThen fun name => .guarded fun _ => ?_
  exact (expect_opensNone _ _).andThen fun _ => .pure trivial

theorem readCondition_keeps : Keeps readCondition fun target => target ≠ .number 0 := by
  refine get_opensNone.andThen fun cursor => ?_
  refine peek?_opensNone.andThen fun character? => ?_
  split
  · exact .thrown _
  split
  · refine (takeWhile_opensNone _).andThen fun digits => .guarded fun positive => ?_
    exact (expect_opensNone _ _).andThen fun _ => .pure (by simpa using positive)
  split
  · refine (skip_opensNone 1).andThen fun _ => ?_
    refine (readGroupName_opensNone _).andThen fun name => ?_
    exact (expect_opensNone _ _).andThen fun _ => .pure nofun
  split
  · exact (readGroupName_opensNone _).andThen fun name => .pure nofun
  · exact .thrown _

theorem backReference_keeps {target : GroupRef} (legal : target ≠ .number 0) (offset : Nat) :
    Keeps (backReference target offset) Simple :=
  get_opensNone.andThen fun _ => .pure (.backReference legal _ _)

theorem readNamedReference_keeps (start : Nat) : Keeps (readNamedReference start) Simple := by
  refine next?_opensNone.andThen fun opening? => ?_
  have rest (terminator : Char) : Keeps (do
      let name ← readGroupName terminator
      backReference (.name name) start) Simple :=
    (readGroupName_opensNone _).andThen fun name => backReference_keeps (by simp) _
  dsimp only
  split
  · exact rest '>'
  · exact rest '\''
  · exact rest '}'
  · have refused : Keeps (throw (.invalidGroupName start) : Reading Char) fun _ => False :=
      .thrown _
    exact refused.bind fun _ impossible => impossible.elim

theorem readReference_keeps (start : Nat) : Keeps (readReference start) Simple := by
  refine (accept_opensNone _).andThen fun braced => ?_
  refine peek?_opensNone.andThen fun following => ?_
  split
  · exact (readGroupName_opensNone _).andThen fun name => backReference_keeps (by simp) _
  refine (accept_opensNone _).andThen fun relative => ?_
  refine (takeWhile_opensNone _).andThen fun digits => .guarded fun _ => ?_
  have rest : Keeps (do
      let groupCount := (← get).groupCount
      let number := Scan.number digits
      let group :=
        if !relative then number
        else if number ≤ groupCount && number != 0 then groupCount - number + 1
        else 0
      if group = 0 then
        throw (.invalidBackReference start 0)
      backReference (.number group) start) Simple :=
    get_opensNone.andThen fun cursor => .guarded fun positive =>
      backReference_keeps (by simpa using positive) _
  dsimp only
  split
  · exact (expect_opensNone _ _).andThen fun _ => rest
  · exact rest

/-- A number that does not begin with a zero is positive. -/
theorem number_ne_zero {digit : Char} (bounds : '1' ≤ digit ∧ digit ≤ '9') (more : List Char) :
    Scan.number (digit :: more) ≠ 0 := by
  have grows (start : Nat) :
      start ≤ more.foldl (fun number digit => 10 * number + Digits.value digit) start := by
    induction more generalizing start with
    | nil => exact Nat.le_refl _
    | cons next more ih =>
        have step : start ≤ 10 * start + Digits.value next := by omega
        exact Nat.le_trans step (ih _)
  have low : 49 ≤ digit.toNat := bounds.1
  have high : digit.toNat ≤ 57 := bounds.2
  have isDigit : digit.isDigit = true := by
    simp only [Char.isDigit, Bool.and_eq_true, decide_eq_true_eq]
    exact ⟨Nat.le_trans (by decide) low, high⟩
  have first := grows (10 * 0 + Digits.value digit)
  rw [Digits.value, if_pos isDigit, show '0'.toNat = 48 from rfl] at first
  have positive : 0 < Digits.number 10 (digit :: more) := by
    rw [Digits.number, List.foldl_cons, Digits.value, if_pos isDigit]
    exact Nat.lt_of_lt_of_le (by omega) first
  have room : 0 < Scan.greatestNumber := by decide
  rw [Scan.number]
  omega

theorem readNumbered_keeps {digit : Char} (bounds : '1' ≤ digit ∧ digit ≤ '9') (start : Nat) :
    Keeps (readNumbered digit start) Simple := by
  refine get_opensNone.andThen fun cursor => ?_
  dsimp only
  split
  · have legal : GroupRef.number (Scan.number (digit :: cursor.rest.takeWhile Char.isDigit)) ≠
        .number 0 := by simpa using number_ne_zero bounds _
    exact (skip_opensNone _).andThen fun _ => backReference_keeps legal _
  split
  · exact literal_keeps digit
  · exact (Escape.readShortCode_opensNone _ _ _).andThen fun code => literal_keeps code

theorem readEscape_keeps (start : Nat) :
    Keeps (readEscape start) fun atom? => ∀ atom ∈ atom?, atom.Simple := by
  have simple {atom : Pattern} (known : atom.Simple) : ∀ other ∈ some atom, other.Simple := by
    simpa using known
  have known {reading : Reading Pattern} (keeps : Keeps reading Simple) :
      Keeps (do return some (← reading)) fun atom? => ∀ atom ∈ atom?, atom.Simple :=
    keeps.bind fun atom holds => .pure (simple holds)
  refine next?_opensNone.andThen fun letter? => ?_
  split
  · exact .thrown _
  refine get_opensNone.andThen fun cursor => ?_
  dsimp only
  split
  case h_1 => exact .pure (simple (.char _))
  case h_2 =>
    exact (Escape.readProperty_opensNone _ _).andThen fun _ => .pure (simple (.char _))
  case h_3 =>
    exact (Escape.readProperty_opensNone _ _).andThen fun _ => .pure (simple (.char _))
  case h_4 => exact .pure (simple .anyLineEnd)
  case h_11 => exact .pure (by simp)
  case h_12 => exact known (readNamedReference_keeps start)
  case h_13 => exact known (readReference_keeps start)
  case h_14 =>
    split
    · exact (Escape.readShorthand_opensNone _).andThen fun _ => .pure (simple (.char _))
    split
    · next bounds => exact known (readNumbered_keeps (by simpa using bounds) start)
    · exact (Escape.readChar_opensNone _ _).andThen fun _ => known (literal_keeps _)
  all_goals exact .pure (simple (.assert _))

end Reader

end Backtracking
