import Backtracking.Proofs.ScannedTexts

/-!
# Readings further on

What is read does not depend on the place where it stands, apart from the offsets that are
remembered and reported.  These grow by as many characters as the place is moved on, and those that
are reported lie within the text or at its end.
-/

namespace Backtracking

namespace Cursor

/-- The same place, if the text begins so many characters further on. -/
def movedBy (distance : Nat) (cursor : Cursor) : Cursor :=
  { cursor with position := cursor.position + distance }

theorem advance_movedBy (distance count : Nat) (cursor : Cursor) :
    (cursor.advance count).movedBy distance = (cursor.movedBy distance).advance count := by
  simp [advance, movedBy, Nat.add_right_comm]

/-- A cursor is at a place of a text that does not come before a given one. -/
structure Within (text : List Char) (least : Nat) (cursor : Cursor) : Prop where
  rest_eq : cursor.rest = text.drop cursor.position
  position_le : cursor.position ≤ text.length
  least_le : least ≤ cursor.position

namespace Within

variable {text : List Char} {least less count : Nat} {cursor : Cursor}

theorem since (here : cursor.Within text least) (le : less ≤ least) : cursor.Within text less :=
  { here with least_le := Nat.le_trans le here.least_le }

theorem rest_length (here : cursor.Within text least) :
    cursor.rest.length = text.length - cursor.position := by
  rw [here.rest_eq, List.length_drop]

theorem fromHere (here : cursor.Within text least) : cursor.Within text cursor.position :=
  { here with least_le := Nat.le_refl _ }

theorem length_le {after : Cursor} (there : after.Within text cursor.position)
    (here : cursor.Within text least) : after.rest.length ≤ cursor.rest.length := by
  rw [there.rest_length, here.rest_length]
  exact Nat.sub_le_sub_left there.least_le _

theorem length_lt {after : Cursor} (there : after.Within text (cursor.position + 1))
    (here : cursor.Within text least) : after.rest.length < cursor.rest.length := by
  have further := there.least_le
  have inside := there.position_le
  rw [there.rest_length, here.rest_length]
  omega

theorem onward (here : cursor.Within text least) (fits : count ≤ cursor.rest.length) :
    (cursor.advance count).Within text (cursor.position + count) where
  rest_eq := by simp [advance, here.rest_eq]
  position_le := by
    have length := here.rest_length
    have inside := here.position_le
    simp only [advance]
    omega
  least_le := Nat.le_refl _

theorem advance (here : cursor.Within text least) (fits : count ≤ cursor.rest.length) :
    (cursor.advance count).Within text least :=
  (here.onward fits).since (Nat.le_trans here.least_le (Nat.le_add_right _ _))

end Within

end Cursor

namespace CompileError

def movedBy (distance : Nat) : CompileError → CompileError
  | .unterminatedGroup offset => .unterminatedGroup (offset + distance)
  | .unmatchedParenthesis offset => .unmatchedParenthesis (offset + distance)
  | .unterminatedClass offset => .unterminatedClass (offset + distance)
  | .nothingToRepeat offset => .nothingToRepeat (offset + distance)
  | .invalidRepetition offset => .invalidRepetition (offset + distance)
  | .repetitionTooLarge offset maximum => .repetitionTooLarge (offset + distance) maximum
  | .invalidHexEscape offset => .invalidHexEscape (offset + distance)
  | .invalidControlEscape offset => .invalidControlEscape (offset + distance)
  | .trailingBackslash offset => .trailingBackslash (offset + distance)
  | .unknownEscape offset escape => .unknownEscape (offset + distance) escape
  | .invalidRange offset first last => .invalidRange (offset + distance) first last
  | .unknownPosixClass offset name => .unknownPosixClass (offset + distance) name
  | .posixClassOutsideSet offset => .posixClassOutsideSet (offset + distance)
  | .unknownProperty offset name => .unknownProperty (offset + distance) name
  | .invalidGroupName offset => .invalidGroupName (offset + distance)
  | .duplicateGroupName offset name => .duplicateGroupName (offset + distance) name
  | .unknownGroupName offset name => .unknownGroupName (offset + distance) name
  | .invalidBackReference offset group => .invalidBackReference (offset + distance) group
  | .lookBehindNotFixedLength offset => .lookBehindNotFixedLength (offset + distance)
  | .invalidCondition offset => .invalidCondition (offset + distance)
  | .tooManyBranches offset => .tooManyBranches (offset + distance)
  | .unknownGroupType offset => .unknownGroupType (offset + distance)
  | .nestingTooDeep offset limit => .nestingTooDeep (offset + distance) limit
  | .emptyPattern => .emptyPattern
  | .invalidDelimiter delimiter => .invalidDelimiter delimiter
  | .missingDelimiter delimiter => .missingDelimiter delimiter
  | .unknownFlag flag => .unknownFlag flag

end CompileError

namespace Pattern

mutual

/-- The same pattern, if it was written so many characters further on. -/
def movedBy (distance : Nat) : Pattern → Pattern
  | .empty => .empty
  | .char matcher => .char matcher
  | .assert assertion => .assert assertion
  | .group index body => .group index (movedBy distance body)
  | .concat items => .concat (allMovedBy distance items)
  | .alternation branches => .alternation (allMovedBy distance branches)
  | .repeated body least most mode => .repeated (movedBy distance body) least most mode
  | .lookAround direction negated body offset =>
      .lookAround direction negated (movedBy distance body) (offset + distance)
  | .atomic body => .atomic (movedBy distance body)
  | .backReference target ignoresCase offset =>
      .backReference target ignoresCase (offset + distance)
  | .conditional target yes no offset =>
      .conditional target (movedBy distance yes) (movedBy distance no) (offset + distance)

def allMovedBy (distance : Nat) : List Pattern → List Pattern
  | [] => []
  | pattern :: patterns => movedBy distance pattern :: allMovedBy distance patterns

end

theorem allMovedBy_eq_map (distance : Nat) (patterns : List Pattern) :
    allMovedBy distance patterns = patterns.map (movedBy distance) := by
  induction patterns with
  | nil => rfl
  | cons pattern patterns ih => rw [allMovedBy, ih, List.map_cons]

end Pattern

namespace Reading

variable {α β γ δ : Type}

/-- One result is the other one, read so many characters further on.  The place that is reached does
not come before a given one, and an error is at a place of the text. -/
def Displaced (text : List Char) (distance least : Nat) (move : α → β)
    (first : Except CompileError (α × Cursor)) (second : Except CompileError (β × Cursor)) : Prop :=
  match first with
  | .ok (value, after) =>
      second = .ok (move value, after.movedBy distance) ∧ after.Within text least
  | .error error =>
      second = .error (error.movedBy distance) ∧
        ∃ offset ≤ text.length, error.offset? = some offset

/-- One reading gives from a place on what the other one gives so many characters further on. -/
def Moves (text : List Char) (distance : Nat) (first : Reading α) (second : Reading β)
    (move : α → β) (before : Cursor) (least : Nat) : Prop :=
  Displaced text distance least move (first.run before) (second.run (before.movedBy distance))

variable {text : List Char} {distance least : Nat} {before : Cursor}

theorem Displaced.eq_map {first : Except CompileError (α × Cursor)}
    {second : Except CompileError (β × Cursor)} {move : α → β}
    (displaced : Displaced text distance least move first second) :
    second = (first.map fun reached => (move reached.1, reached.2.movedBy distance)).mapError
      (CompileError.movedBy distance) := by
  cases first with
  | error error => exact displaced.1
  | ok reached => exact displaced.1

theorem Displaced.bind {first : Reading α} {second : Reading β} {here there : Cursor}
    {next : α → Reading γ} {other : β → Reading δ} {move : α → β} {moveResult : γ → δ}
    {middle : Nat}
    (begins : Displaced text distance middle move (first.run here) (second.run there))
    (follows : ∀ value after, after.Within text middle →
      Moves text distance (next value) (other (move value)) moveResult after least) :
    Displaced text distance least moveResult ((first >>= next).run here)
      ((second >>= other).run there) := by
  rw [StateT.run_bind, StateT.run_bind]
  cases reads : first.run here with
  | error error =>
      rw [reads] at begins
      obtain ⟨equal, placed⟩ := begins
      rw [equal]
      exact ⟨rfl, placed⟩
  | ok reached =>
      rw [reads] at begins
      obtain ⟨equal, inside⟩ := begins
      rw [equal]
      exact follows reached.1 reached.2 inside

namespace Moves

theorem pure {value : α} {move : α → β} (here : before.Within text least) :
    Moves text distance (Pure.pure value) (Pure.pure (move value)) move before least :=
  ⟨rfl, here⟩

theorem thrown {error : CompileError} {move : α → β} {offset : Nat}
    (placed : error.offset? = some offset) (inside : offset ≤ text.length) :
    Moves text distance (throw error) (throw (error.movedBy distance)) move before least :=
  ⟨rfl, offset, inside, placed⟩

theorem bind {first : Reading α} {second : Reading β} {next : α → Reading γ} {other : β → Reading δ}
    {move : α → β} {moveResult : γ → δ} {middle : Nat}
    (begins : Moves text distance first second move before middle)
    (follows : ∀ value after, after.Within text middle →
      Moves text distance (next value) (other (move value)) moveResult after least) :
    Moves text distance (first >>= next) (second >>= other) moveResult before least :=
  Displaced.bind begins follows

theorem since {first : Reading α} {second : Reading β} {move : α → β} {less : Nat}
    (moves : Moves text distance first second move before least) (le : less ≤ least) :
    Moves text distance first second move before less := by
  unfold Moves Displaced at moves ⊢
  split
  · next reads =>
      rw [reads] at moves
      exact ⟨moves.1, moves.2.since le⟩
  · next refuses =>
      rw [refuses] at moves
      exact moves

theorem discard {first : Reading α} {second : Reading β} {move : α → β}
    (moves : Moves text distance first second move before least) :
    Moves text distance (Functor.discard first) (Functor.discard second) id before least := by
  have whole : Moves text distance (do let _ ← first; return ()) (do let _ ← second; return ()) id
      before least := moves.bind fun _ _ here => .pure here
  exact whole

theorem ite {condition : Prop} [Decidable condition] {first firstElse : Reading α}
    {second secondElse : Reading β} {move : α → β}
    (yes : condition → Moves text distance first second move before least)
    (no : ¬ condition → Moves text distance firstElse secondElse move before least) :
    Moves text distance (if condition then first else firstElse)
      (if condition then second else secondElse) move before least := by
  split
  · next holds => exact yes holds
  · next fails => exact no fails

theorem guarded {refused : Prop} [Decidable refused] {error : CompileError}
    {next : Unit → Reading α} {other : Unit → Reading β} {move : α → β} {offset : Nat}
    (placed : error.offset? = some offset) (inside : offset ≤ text.length)
    (goesOn : ¬ refused → Moves text distance (next ()) (other ()) move before least) :
    Moves text distance (if refused then throw error >>= next else next ())
      (if refused then throw (error.movedBy distance) >>= other else other ()) move before
      least :=
  .ite (fun _ => ⟨rfl, offset, inside, placed⟩) goesOn

theorem get {next : Cursor → Reading α} {other : Cursor → Reading β} {move : α → β}
    (follows : Moves text distance (next before) (other (before.movedBy distance)) move before
      least) :
    Moves text distance (MonadState.get >>= next) (MonadState.get >>= other) move before least :=
  follows

theorem peek? {next : Option Char → Reading α} {other : Option Char → Reading β} {move : α → β}
    (follows : Moves text distance (next before.rest.head?) (other before.rest.head?) move before
      least) :
    Moves text distance (Reading.peek? >>= next) (Reading.peek? >>= other) move before least :=
  follows

theorem set {next : Cursor} (there : next.Within text least) :
    Moves text distance (MonadStateOf.set next) (MonadStateOf.set (next.movedBy distance)) id before
      least :=
  ⟨rfl, there⟩

theorem setFlags (here : before.Within text least) (flags : Flags) :
    Moves text distance (modify ({ · with flags := flags })) (modify ({ · with flags := flags })) id
      before least :=
  ⟨rfl, { here with }⟩

theorem skipped (here : before.Within text least) {count : Nat}
    (fits : count ≤ before.rest.length) :
    Moves text distance (Reading.skip count) (Reading.skip count) id before least := by
  refine ⟨?_, here.advance fits⟩
  rw [Cursor.advance_movedBy]
  rfl

theorem skip {count : Nat} {next : Unit → Reading α} {other : Unit → Reading β} {move : α → β}
    (follows : Moves text distance (next ()) (other ()) move (before.advance count) least) :
    Moves text distance (Reading.skip count >>= next) (Reading.skip count >>= other) move before
      least := by
  show Displaced text distance least move ((next ()).run (before.advance count))
    ((other ()).run ((before.movedBy distance).advance count))
  rw [← Cursor.advance_movedBy]
  exact follows

theorem next? {next : Option Char → Reading α} {other : Option Char → Reading β} {move : α → β}
    {less : Nat} (here : before.Within text less)
    (none : before.rest = [] → Moves text distance (next none) (other none) move before least)
    (some : ∀ character, (before.advance 1).Within text (before.position + 1) →
      Moves text distance (next (some character)) (other (some character)) move
        (before.advance 1) least) :
    Moves text distance (Reading.next? >>= next) (Reading.next? >>= other) move before least := by
  have reads : Moves text distance
      (Reading.skip before.rest.head?.toList.length >>= fun _ => next before.rest.head?)
      (Reading.skip before.rest.head?.toList.length >>= fun _ => other before.rest.head?) move
      before least := by
    refine .skip ?_
    cases rest : before.rest with
    | nil => exact none rest
    | cons character more => exact some character (here.onward (by simp [rest]))
  exact reads

theorem accepted {expected : Char} {next : Bool → Reading α} {other : Bool → Reading β}
    {move : α → β} (here : before.Within text least)
    (yes : (before.advance 1).Within text (before.position + 1) →
      Moves text distance (next true) (other true) move (before.advance 1) least)
    (no : Moves text distance (next false) (other false) move before least) :
    Moves text distance (Reading.accept expected >>= next) (Reading.accept expected >>= other) move
      before least := by
  rw [accept_bind, accept_bind]
  refine .peek? (.ite (fun begins => .skip (yes (here.onward ?_))) fun _ => no)
  cases rest : before.rest with
  | nil => rw [rest] at begins; cases begins
  | cons character more => simp

theorem accept (here : before.Within text least) (expected : Char) :
    Moves text distance (Reading.accept expected) (Reading.accept expected) id before least := by
  have whole : Moves text distance (Reading.accept expected >>= fun taken => Pure.pure taken)
      (Reading.accept expected >>= fun taken => Pure.pure taken) id before least :=
    .accepted here (fun there => .pure (there.since (Nat.le_succ_of_le here.least_le))) (.pure here)
  simpa only [bind_pure] using whole

theorem expect (here : before.Within text least) (expected : Char) {otherwise : CompileError}
    {offset : Nat} (placed : otherwise.offset? = some offset) (inside : offset ≤ text.length) :
    Moves text distance (Reading.expect expected otherwise)
      (Reading.expect expected (otherwise.movedBy distance)) id before least :=
  (accept here expected).bind fun _ _ here =>
    .ite (fun _ => .thrown placed inside) fun _ => .pure here

theorem takeWhile (here : before.Within text least) (test : Char → Bool) :
    Moves text distance (Reading.takeWhile test) (Reading.takeWhile test) id before least :=
  .get (.skip (.pure (here.advance (List.takeWhile_prefix test).length_le)))

end Moves

end Reading

open Reading

variable {text : List Char} {distance least start : Nat} {before : Cursor}

/-! ## Escapes -/

namespace Escape

theorem readBracedCode_moves (here : before.Within text least) (begun : start ≤ text.length)
    (base : Nat) (isDigit : Char → Bool) :
    Moves text distance (readBracedCode base isDigit start)
      (readBracedCode base isDigit (start + distance)) id before least := by
  refine (Moves.takeWhile here isDigit).bind fun digits after here => .guarded rfl begun fun _ => ?_
  refine (Moves.expect here '}' rfl begun).bind fun _ after here => ?_
  exact .ite (fun _ => .pure here) fun _ => .thrown rfl begun

theorem readShortCode_moves (here : before.Within text least) (base : Nat) (isDigit : Char → Bool)
    (read : List Char) :
    Moves text distance (readShortCode base isDigit read) (readShortCode base isDigit read) id
      before least := by
  refine .get (.skip (.pure (here.advance ?_)))
  exact ((List.takeWhile_prefix isDigit).trans (List.take_prefix 2 before.rest)).length_le

theorem readControl_moves (here : before.Within text least) (begun : start ≤ text.length) :
    Moves text distance (readControl start) (readControl (start + distance)) id before least := by
  refine .next? here (fun _ => .thrown rfl begun) fun character there => ?_
  exact .ite (fun _ => .pure (there.since (Nat.le_succ_of_le here.least_le)))
    fun _ => .thrown rfl begun

theorem readChar_moves (here : before.Within text least) (begun : start ≤ text.length)
    (letter : Char) :
    Moves text distance (readChar letter start) (readChar letter (start + distance)) id before
      least := by
  unfold readChar
  split
  case h_7 => exact readShortCode_moves here _ _ _
  case h_8 =>
    exact (Moves.accept here '{').bind fun _ _ here => .ite
      (fun _ => readBracedCode_moves here begun _ _) fun _ => .thrown rfl begun
  case h_9 =>
    exact (Moves.accept here '{').bind fun _ _ here => .ite
      (fun _ => readBracedCode_moves here begun _ _) fun _ => readShortCode_moves here _ _ _
  case h_10 => exact readControl_moves here begun
  case h_11 => exact .ite (fun _ => .thrown rfl begun) fun _ => .pure here
  all_goals exact .pure here

theorem readPropertyName_moves (here : before.Within text least) (begun : start ≤ text.length) :
    Moves text distance (readPropertyName start) (readPropertyName (start + distance)) id before
      least := by
  refine (Moves.accept here '{').bind fun braced after here => .ite (fun _ => ?_) fun _ => ?_
  · refine (Moves.accept here '^').bind fun negated after here => ?_
    refine (Moves.takeWhile here _).bind fun name after here => ?_
    exact (Moves.expect here '}' rfl begun).bind fun _ after here => .pure here
  · exact .next? here (fun _ => .pure here) fun character there =>
      .pure (there.since (Nat.le_succ_of_le here.least_le))

theorem readProperty_moves (here : before.Within text least) (begun : start ≤ text.length)
    (letter : Char) :
    Moves text distance (readProperty letter start) (readProperty letter (start + distance)) id
      before least := by
  refine (readPropertyName_moves here begun).bind fun named after here => ?_
  dsimp only [id]
  split
  · exact .pure here
  · exact .thrown rfl begun

theorem readShorthand_moves (here : before.Within text least) (letter : Char) :
    Moves text distance (readShorthand letter) (readShorthand letter) id before least :=
  .get (.pure here)

end Escape

/-! ## Bracketed classes -/

namespace Bracket

theorem readEscape_moves (here : before.Within text least) (begun : start ≤ text.length) :
    Moves text distance (readEscape start) (readEscape (start + distance)) id before least := by
  refine .next? here (fun _ => .thrown rfl begun) fun letter there => ?_
  replace here := there.since (Nat.le_succ_of_le here.least_le)
  refine .ite (fun _ => ?_) fun _ => .ite (fun _ => ?_) fun _ => .ite (fun _ => .pure here) fun _ =>
    .ite (fun _ => .pure here) fun _ => .ite (fun _ => ?_) fun _ => .ite (fun _ => .pure here)
    fun _ => .ite (fun _ => ?_) fun _ => ?_
  · exact (Escape.readShorthand_moves here letter).bind fun _ _ here => .pure here
  · exact (Escape.readProperty_moves here begun letter).bind fun _ _ here => .pure here
  · exact .get (.skip (.pure (here.advance (Scan.quoted_length_le _))))
  · exact (Escape.readShortCode_moves here _ _ _).bind fun _ _ here => .pure here
  · exact (Escape.readChar_moves here begun letter).bind fun _ _ here => .pure here

theorem readPosix?_moves (here : before.Within text least) (begun : start ≤ text.length) :
    Moves text distance (readPosix? start) (readPosix? (start + distance)) id before least := by
  refine .get ?_
  dsimp only [Cursor.movedBy]
  split
  · exact .pure here
  · next known =>
      refine .skip ?_
      have further := here.advance (Scan.posixName?_length_le known)
      split
      · exact .pure further
      · exact .thrown rfl begun

theorem readItem_moves (here : before.Within text least) (begun : start ≤ text.length)
    (character : Char) :
    Moves text distance (readItem character start) (readItem character (start + distance)) id before
      least := by
  unfold readItem
  split
  · exact (readPosix?_moves here begun).bind fun _ _ here => .pure here
  · exact readEscape_moves here begun
  · exact .pure here

theorem readUpperEnd?_moves (here : before.Within text least) :
    Moves text distance readUpperEnd? readUpperEnd? id before least := by
  refine .get (.next? here (fun _ => .pure here) fun character there => ?_)
  replace there := there.since (Nat.le_succ_of_le here.least_le)
  split
  · next impossible => cases impossible
  · refine (readEscape_moves there here.position_le).bind fun item after here => ?_
    dsimp only [id]
    split <;> exact .pure here
  · exact .get (.ite (fun _ => .pure there) fun _ => .pure there)
  · exact .pure there

theorem readRange_moves (here : before.Within text least) (begun : start ≤ text.length)
    (first : Char) :
    Moves text distance (readRange first start) (readRange first (start + distance)) id before
      least := by
  refine .get (.ite (fun continues => .skip ?_) fun _ => .pure here)
  have hyphen : 1 ≤ before.rest.length := by
    cases rest : before.rest with
    | nil => rw [rest] at continues; cases continues
    | cons character more => simp
  refine (readUpperEnd?_moves (here.advance hyphen)).bind fun last? after there => ?_
  dsimp only [id]
  split
  · exact .ite (fun _ => .thrown rfl begun) fun _ => .pure there
  · -- The reader goes back to where the range began.
    exact (Moves.set here).bind fun _ _ here => .pure here

/-- The items of a class are the same, however much fuel there is beyond the length of the text. -/
theorem readItems_moves {fuel other : Nat} (here : before.Within text least)
    (begun : start ≤ text.length) (enough : before.rest.length < fuel)
    (enoughToo : before.rest.length < other) (isFirst : Bool) (ranges : List CharRange) :
    Moves text distance (readItems start fuel isFirst ranges)
      (readItems (start + distance) other isFirst ranges) id before least := by
  induction fuel generalizing other before isFirst ranges with
  | zero => exact absurd enough (Nat.not_lt_zero _)
  | succ fuel ih =>
      obtain _ | other := other
      · exact absurd enoughToo (Nat.not_lt_zero _)
      refine .get (.next? here (fun _ => .thrown rfl begun) fun character there => ?_)
      refine .ite (fun _ => .pure (there.since (Nat.le_succ_of_le here.least_le))) fun _ => ?_
      refine (readItem_moves there here.position_le character).bind fun item after there => ?_
      have goesOn {after : Cursor} (there : after.Within text (before.position + 1))
          (ranges : List CharRange) :
          Moves text distance (readItems start fuel false ranges)
            (readItems (start + distance) other false ranges) id after least := by
        have shorter := there.length_lt here
        exact ih (there.since (Nat.le_succ_of_le here.least_le)) (by omega) (by omega) false ranges
      dsimp only [id]
      split
      · exact goesOn there _
      · refine (readRange_moves there here.position_le _).bind fun range after there => ?_
        exact goesOn there _

theorem read_moves (here : before.Within text least) (begun : start ≤ text.length) :
    Moves text distance (read start) (read (start + distance)) id before least := by
  refine .get (.guarded rfl begun fun _ => ?_)
  refine (Moves.accept here.fromHere '^').bind fun negated after there => ?_
  have remains := there.length_le here
  have items : Moves text distance _ _ id after least :=
    readItems_moves (there.since here.least_le) begun (Nat.lt_succ_of_le remains)
      (Nat.lt_succ_of_le remains) true []
  exact items.bind fun ranges after here => .pure here

end Bracket

end Backtracking
