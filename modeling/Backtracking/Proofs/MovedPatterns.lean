import Backtracking.Proofs.MovedReadings

/-!
# Patterns further on

A pattern that is read further on is the same pattern, with all its offsets so much greater, or it
is refused for the same reason.
-/

namespace Backtracking

namespace Reader

open Reading

variable {text : List Char} {distance least start : Nat} {before : Cursor}

theorem literal_moves (here : before.Within text least) (character : Char) :
    Moves text distance (literal character) (literal character) (Pattern.movedBy distance) before
      least :=
  .get (.pure here)

theorem skipTrivia_moves (here : before.Within text least) :
    Moves text distance skipTrivia skipTrivia id before least := by
  exact .get (.ite (fun _ => .skipped here (Scan.triviaLength_le _ _)) fun _ => .pure here)

/-! ## Quantifiers -/

theorem readBounds?_moves (here : before.Within text least) :
    Moves text distance readBounds? readBounds? id before least := by
  have sign {character : Char} {rest : List Char} (begins : before.rest = character :: rest) :
      (before.advance 1).Within text least := here.advance (by simp [begins])
  refine .get ?_
  dsimp only [Cursor.movedBy]
  split
  · next begins => exact .skip (.pure (sign begins))
  · next begins => exact .skip (.pure (sign begins))
  · next begins => exact .skip (.pure (sign begins))
  split
  · exact .pure here
  · next bounds found =>
      obtain ⟨taken, rest, split, length, -⟩ := Scan.bounds?_eq_some found
      refine .guarded rfl here.position_le fun _ => .guarded rfl here.position_le fun _ => ?_
      refine .skip (.pure (here.advance ?_))
      rw [split, List.length_append]
      omega

theorem readMode_moves (here : before.Within text least) :
    Moves text distance readMode readMode id before least := by
  refine (Moves.accept here '+').bind fun possessive after here => ?_
  refine .ite (fun _ => .pure here) fun _ => ?_
  exact (Moves.accept here '?').bind fun turned after here => .get (.pure here)

theorem readQuantifier_moves (here : before.Within text least) (atom : Pattern)
    (inParentheses : Bool) :
    Moves text distance (readQuantifier atom inParentheses)
      (readQuantifier (atom.movedBy distance) inParentheses) (Pattern.movedBy distance) before
      least := by
  refine (skipTrivia_moves here).bind fun _ middle here => .get ?_
  refine (readBounds?_moves here).bind fun bounds? after there => ?_
  obtain _ | ⟨fewest, most⟩ := bounds?
  · exact .pure there
  · have repeats : Moves text distance
        (do return .repeated atom fewest most (← readMode))
        (do return .repeated (atom.movedBy distance) fewest most (← readMode))
        (Pattern.movedBy distance) after least :=
      (readMode_moves there).bind fun mode last here => .pure here
    cases atom
    case assert assertion =>
      cases inParentheses with
      | false => exact .thrown rfl here.position_le
      | true => exact repeats
    all_goals exact repeats

/-! ## Groups -/

theorem openGroup_moves (here : before.Within text least) (name : Option String)
    {nameOffset : Nat} (begun : nameOffset ≤ text.length) :
    Moves text distance (openGroup name nameOffset) (openGroup name (nameOffset + distance)) id
      before least := by
  have opens (names : Array (Option String)) : Moves text distance
      (do set { before with groupNames := names }; return before.groupCount + 1 : Reading Nat)
      (do
        set { before.movedBy distance with groupNames := names }
        return before.groupCount + 1 : Reading Nat) id before least := by
    have there : ({ before with groupNames := names } : Cursor).Within text least := { here with }
    exact (Moves.set there).bind fun _ _ here => .pure here
  refine .get ?_
  cases name with
  | none => exact opens _
  | some name => exact .guarded rfl begun fun _ => opens _

theorem readGroupName_moves (here : before.Within text least) (terminator : Char) :
    Moves text distance (readGroupName terminator) (readGroupName terminator) id before least := by
  refine .get ((Moves.takeWhile here _).bind fun name after there => ?_)
  refine .guarded rfl here.position_le fun _ => ?_
  exact (Moves.expect there terminator rfl here.position_le).bind fun _ after here => .pure here

/-- The reading of nested patterns gives the same patterns further on. -/
def Inner.Moves (inner : Inner) : Prop :=
  ∀ reading, inner.branches? = some reading →
    ∀ (text : List Char) (distance least : Nat) (before : Cursor), before.Within text least →
      Reading.Moves text distance reading reading (List.map (Pattern.movedBy distance)) before least

theorem movedBy_choice (distance : Nat) (branches : List Pattern) :
    (Pattern.choice branches).movedBy distance =
      Pattern.choice (branches.map (Pattern.movedBy distance)) := by
  match branches with
  | [] => rfl
  | [branch] => rfl
  | first :: second :: rest =>
      show Pattern.alternation (Pattern.allMovedBy distance (first :: second :: rest)) = _
      rw [Pattern.allMovedBy_eq_map]
      rfl

theorem movedBy_sequence (distance : Nat) (items : List Pattern) :
    (Pattern.sequence items).movedBy distance =
      Pattern.sequence (items.map (Pattern.movedBy distance)) := by
  match items with
  | [] => rfl
  | [item] => rfl
  | first :: second :: rest =>
      show Pattern.concat (Pattern.allMovedBy distance (first :: second :: rest)) = _
      rw [Pattern.allMovedBy_eq_map]
      rfl

theorem backReference_moves (here : before.Within text least) (target : GroupRef) (offset : Nat) :
    Moves text distance (backReference target offset) (backReference target (offset + distance))
      (Pattern.movedBy distance) before least :=
  .get (.pure here)

theorem some_moves {reading other : Reading Pattern}
    (moves : Moves text distance reading other (Pattern.movedBy distance) before least) :
    Moves text distance (do return some (← reading)) (do return some (← other))
      (Option.map (Pattern.movedBy distance)) before least :=
  moves.bind fun _ _ here => .pure here

section Inner

variable {inner : Inner} (nested : inner.Moves)
include nested

theorem readEnclosed_moves (here : before.Within text least) (begun : start ≤ text.length) :
    Moves text distance (readEnclosed inner start) (readEnclosed inner (start + distance))
      (List.map (Pattern.movedBy distance)) before least := by
  unfold readEnclosed
  split
  · exact .thrown rfl begun
  · next reading known =>
      refine .get ((nested reading known _ _ _ _ here).bind fun branches after here => ?_)
      refine (Moves.setFlags here _).bind fun _ after here => ?_
      exact (Moves.expect here ')' rfl begun).bind fun _ after here => .pure here

theorem readBody_moves (here : before.Within text least) (begun : start ≤ text.length) :
    Moves text distance (readBody inner start) (readBody inner (start + distance))
      (Pattern.movedBy distance) before least := by
  refine (readEnclosed_moves nested here begun).bind fun branches after here => ?_
  rw [← movedBy_choice]
  exact .pure here

theorem readNamedGroup_moves (here : before.Within text least) (begun : start ≤ text.length)
    (terminator : Char) :
    Moves text distance (readNamedGroup inner terminator start)
      (readNamedGroup inner terminator (start + distance)) (Pattern.movedBy distance) before
      least := by
  refine .get ((readGroupName_moves here terminator).bind fun name after there => ?_)
  refine (openGroup_moves there (some name) here.position_le).bind fun index after here => ?_
  exact (readBody_moves nested here begun).bind fun body after here => .pure here

theorem readLookAround_moves (here : before.Within text least) (begun : start ≤ text.length)
    (direction : Direction) (negated : Bool) :
    Moves text distance (readLookAround inner direction negated start)
      (readLookAround inner direction negated (start + distance)) (Pattern.movedBy distance) before
      least :=
  (readBody_moves nested here begun).bind fun _ _ here => .pure here

theorem readOptions_moves (here : before.Within text least) (begun : start ≤ text.length) :
    Moves text distance (readOptions inner start) (readOptions inner (start + distance))
      (Option.map (Pattern.movedBy distance)) before least := by
  have bound := scanOptions_length_le true before.flags 0 before.rest
  rw [Nat.zero_add] at bound
  refine .get ?_
  dsimp only [Cursor.movedBy]
  split
  · next ends =>
      rw [ends] at bound
      exact .skip ((Moves.setFlags (here.advance bound) _).bind fun _ _ here => .pure here)
  · next ends =>
      rw [ends] at bound
      refine .skip ((Moves.setFlags (here.advance bound) _).bind fun _ after here => ?_)
      refine (readBody_moves nested here begun).bind fun body after here => ?_
      exact (Moves.setFlags here _).bind fun _ after here => .pure here
  · exact .thrown rfl begun
  · next length ends =>
      rw [ends] at bound
      have moved : before.position + distance + length = before.position + length + distance :=
        Nat.add_right_comm _ _ _
      rw [moved]
      refine .thrown rfl ?_
      have inside := here.position_le
      rw [here.rest_length] at bound
      simp only [OptionEnd.length] at bound
      omega

omit nested in
theorem readCondition_moves (here : before.Within text least) :
    Moves text distance readCondition readCondition id before least := by
  refine .get (.peek? ?_)
  cases next : before.rest.head? with
  | none => exact .thrown rfl here.position_le
  | some character =>
      have fits : 1 ≤ before.rest.length := by
        cases rest : before.rest with
        | nil => rw [rest] at next; cases next
        | cons character more => simp
      refine .ite (fun _ => ?_) fun _ => .ite (fun _ => ?_) fun _ => .ite (fun _ => ?_) fun _ =>
        .thrown rfl here.position_le
      · refine (Moves.takeWhile here _).bind fun digits after there => ?_
        refine .guarded rfl here.position_le fun _ => ?_
        exact (Moves.expect there ')' rfl here.position_le).bind fun _ after here => .pure here
      · refine .skip ((readGroupName_moves (here.advance fits) _).bind fun name after there => ?_)
        exact (Moves.expect there ')' rfl here.position_le).bind fun _ after here => .pure here
      · exact (readGroupName_moves here _).bind fun name after there => .pure there

theorem readConditional_moves (here : before.Within text least) (begun : start ≤ text.length) :
    Moves text distance (readConditional inner start) (readConditional inner (start + distance))
      (Pattern.movedBy distance) before least := by
  refine .get ((readCondition_moves here).bind fun target after there => ?_)
  refine (readEnclosed_moves nested there begun).bind fun branches last there => ?_
  match branches with
  | [] => exact .thrown rfl begun
  | [yes] => exact .pure there
  | [yes, no] => exact .pure there
  | _ :: _ :: _ :: _ => exact .thrown rfl begun

theorem readGroup_moves (here : before.Within text least) (begun : start ≤ text.length) :
    Moves text distance (readGroup inner start) (readGroup inner (start + distance))
      (Option.map (Pattern.movedBy distance)) before least := by
  refine (Moves.accept here '?').bind fun extended after there => .ite (fun _ => ?_) fun _ => ?_
  · refine (openGroup_moves there none begun).bind fun index after here => ?_
    exact (readBody_moves nested here begun).bind fun body after here => .pure here
  have one {character : Char} {rest : List Char} (begins : after.rest = character :: rest) :
      (after.advance 1).Within text least := there.advance (by simp [begins])
  have two {first second : Char} {rest : List Char}
      (begins : after.rest = first :: second :: rest) :
      (after.advance 2).Within text least := there.advance (by simp [begins])
  refine .get (.get ?_)
  dsimp only [Cursor.movedBy]
  split
  · refine (Moves.takeWhile there _).discard.bind fun _ after here => ?_
    exact (Moves.expect here ')' rfl begun).bind fun _ after here => .pure here
  · next begins => exact .skip (some_moves (readBody_moves nested (one begins) begun))
  · next begins =>
      exact .skip ((readBody_moves nested (one begins) begun).bind fun _ _ here => .pure here)
  · next begins => exact .skip (some_moves (readLookAround_moves nested (one begins) begun _ _))
  · next begins => exact .skip (some_moves (readLookAround_moves nested (one begins) begun _ _))
  · next begins => exact .skip (some_moves (readLookAround_moves nested (two begins) begun _ _))
  · next begins => exact .skip (some_moves (readLookAround_moves nested (two begins) begun _ _))
  · next begins => exact .skip (some_moves (readNamedGroup_moves nested (one begins) begun _))
  · next begins => exact .skip (some_moves (readNamedGroup_moves nested (one begins) begun _))
  · next begins => exact .skip (some_moves (readNamedGroup_moves nested (two begins) begun _))
  · next begins =>
      refine .skip ((readGroupName_moves (two begins) _).bind fun name _ here => ?_)
      exact some_moves (backReference_moves here _ _)
  · next begins => exact .skip (some_moves (readConditional_moves nested (one begins) begun))
  · exact .ite (fun _ => readOptions_moves nested there begun)
      fun _ => .thrown rfl there.position_le
  · exact .thrown rfl there.position_le

end Inner

/-! ## Atoms -/

theorem readNamedReference_moves (here : before.Within text least) (begun : start ≤ text.length) :
    Moves text distance (readNamedReference start) (readNamedReference (start + distance))
      (Pattern.movedBy distance) before least := by
  have refers (terminator : Char) {after : Cursor} (here : after.Within text least) :
      Moves text distance
        (do backReference (.name (← readGroupName terminator)) start)
        (do backReference (.name (← readGroupName terminator)) (start + distance))
        (Pattern.movedBy distance) after least :=
    (readGroupName_moves here _).bind fun name _ here => backReference_moves here _ _
  refine .next? here (fun _ => ?_) fun character there => ?_
  · exact ⟨rfl, start, begun, rfl⟩
  replace there := there.since (Nat.le_succ_of_le here.least_le)
  dsimp only
  split
  · exact refers '>' there
  · exact refers '\'' there
  · exact refers '}' there
  · exact ⟨rfl, start, begun, rfl⟩

theorem readReference_moves (here : before.Within text least) (begun : start ≤ text.length) :
    Moves text distance (readReference start) (readReference (start + distance))
      (Pattern.movedBy distance) before least := by
  refine (Moves.accept here '{').bind fun braced after here => ?_
  refine .peek? (.ite (fun _ => ?_) fun _ => ?_)
  · exact (readGroupName_moves here _).bind fun name _ here => backReference_moves here _ _
  refine (Moves.accept here '-').bind fun relative after here => ?_
  refine (Moves.takeWhile here _).bind fun digits after here => .guarded rfl begun fun _ => ?_
  have refers {after : Cursor} (here : after.Within text least) :
      Moves text distance
        (do
          let groupCount := (← get).groupCount
          let number := Scan.number digits
          let group :=
            if !relative then number
            else if number ≤ groupCount && number != 0 then groupCount - number + 1
            else 0
          if group = 0 then
            throw (.invalidBackReference start 0)
          backReference (.number group) start)
        (do
          let groupCount := (← get).groupCount
          let number := Scan.number digits
          let group :=
            if !relative then number
            else if number ≤ groupCount && number != 0 then groupCount - number + 1
            else 0
          if group = 0 then
            throw (.invalidBackReference (start + distance) 0)
          backReference (.number group) (start + distance))
        (Pattern.movedBy distance) after least :=
    .get (.guarded rfl begun fun _ => backReference_moves here _ _)
  refine .ite (fun _ => ?_) fun _ => refers here
  exact (Moves.expect here '}' rfl begun).bind fun _ after here => refers here

theorem readNumbered_moves (here : before.Within text least) (digit : Char) :
    Moves text distance (readNumbered digit start) (readNumbered digit (start + distance))
      (Pattern.movedBy distance) before least := by
  refine .get (.ite (fun _ => ?_) fun _ => .ite (fun _ => literal_moves here digit) fun _ => ?_)
  · refine .skip (backReference_moves (here.advance ?_) _ _)
    exact (List.takeWhile_prefix _).length_le
  · exact (Escape.readShortCode_moves here _ _ _).bind fun code _ here => literal_moves here code

theorem readEscape_moves (here : before.Within text least) (begun : start ≤ text.length) :
    Moves text distance (readEscape start) (readEscape (start + distance))
      (Option.map (Pattern.movedBy distance)) before (before.position + 1) := by
  refine .next? here (fun _ => .thrown rfl begun) fun letter here => .get ?_
  dsimp only [Cursor.movedBy, Cursor.advance]
  split
  case h_2 => exact (Escape.readProperty_moves here begun _).bind fun _ _ here => .pure here
  case h_3 => exact (Escape.readProperty_moves here begun _).bind fun _ _ here => .pure here
  case h_12 => exact some_moves (readNamedReference_moves here begun)
  case h_13 => exact some_moves (readReference_moves here begun)
  case h_14 =>
    refine .ite (fun _ => ?_) fun _ => .ite (fun _ => ?_) fun _ => ?_
    · exact (Escape.readShorthand_moves here _).bind fun _ _ here => .pure here
    · exact some_moves (readNumbered_moves here letter)
    · refine (Escape.readChar_moves here begun letter).bind fun character _ here => ?_
      exact some_moves (literal_moves here character)
  all_goals exact .pure here

theorem readAtom_moves {inner : Inner} (nested : inner.Moves) (here : before.Within text least)
    (first : Char) (fits : 1 ≤ before.rest.length) :
    Moves text distance (readAtom inner first) (readAtom inner first)
      (Option.map (Pattern.movedBy distance)) before (before.position + 1) := by
  have there := here.onward fits
  refine .get (.get (.skip ?_))
  split
  · exact readGroup_moves nested there here.position_le
  · exact (Bracket.read_moves there here.position_le).bind fun _ _ here => .pure here
  · exact (readEscape_moves there here.position_le).since (Nat.le_succ _)
  · exact .pure there
  · exact .pure there
  · exact .pure there
  · exact some_moves (literal_moves there first)

/-! ## Sequences and branches -/

theorem literals_moves (here : before.Within text least) (characters : List Char) :
    Moves text distance (characters.mapM literal) (characters.mapM literal)
      (List.map (Pattern.movedBy distance)) before least := by
  induction characters generalizing before with
  | nil => exact .pure here
  | cons character characters ih =>
      rw [List.mapM_cons]
      refine (literal_moves here character).bind fun first after here => ?_
      exact (ih here).bind fun rest after here => .pure here

theorem readQuoted_moves (here : before.Within text least) (fits : 2 ≤ before.rest.length) :
    Moves text distance readQuoted readQuoted (List.map (Pattern.movedBy distance)) before
      (before.position + 1) := by
  have there := (here.onward fits).since (Nat.le_succ (before.position + 1))
  refine .skip (.get (.skip ?_))
  replace there := there.advance (Scan.quoted_length_le (before.advance 2).rest)
  dsimp only [Cursor.movedBy]
  split
  · exact .pure there
  · refine (literals_moves there _).bind fun literals after there => ?_
    refine (literal_moves there _).bind fun atom after there => ?_
    refine (readQuantifier_moves there atom false).bind fun repeated after there => ?_
    have parts : (literals ++ [repeated]).map (Pattern.movedBy distance) =
        literals.map (Pattern.movedBy distance) ++ [repeated.movedBy distance] :=
      List.map_append
    rw [← parts]
    exact .pure there

section Inner

variable {inner : Inner} (nested : inner.Moves)
include nested

theorem readPiece_moves (here : before.Within text least) (first : Char)
    (fits : 1 ≤ before.rest.length) :
    Moves text distance (readPiece inner first) (readPiece inner first)
      (List.map (Pattern.movedBy distance)) before (before.position + 1) := by
  refine .get ?_
  dsimp only [Cursor.movedBy]
  split
  · next begins => exact readQuoted_moves here (by simp [begins])
  · refine (readAtom_moves nested here first fits).bind fun atom? after there => ?_
    cases atom? with
    | none => exact .pure there
    | some atom => exact (readQuantifier_moves there atom _).bind fun pattern _ there => .pure there

/-- The items of a sequence are the same, however much fuel there is beyond the length of the
text. -/
theorem readItems_moves {fuel other : Nat} (here : before.Within text least)
    (enough : before.rest.length < fuel) (enoughToo : before.rest.length < other)
    (items : List Pattern) :
    Moves text distance (readItems inner fuel items)
      (readItems inner other (items.map (Pattern.movedBy distance)))
      (List.map (Pattern.movedBy distance)) before least := by
  induction fuel generalizing other before items with
  | zero => exact absurd enough (Nat.not_lt_zero _)
  | succ fuel ih =>
      obtain _ | other := other
      · exact absurd enoughToo (Nat.not_lt_zero _)
      refine (skipTrivia_moves here.fromHere).bind fun _ middle there => .get ?_
      have remains := there.length_le here
      replace there := there.since here.least_le
      dsimp only [Cursor.movedBy]
      split
      · exact .pure there
      · next first rest begins =>
          refine .ite (fun _ => .pure there) fun _ => .ite (fun _ => ?_) fun _ => ?_
          · exact .thrown rfl there.position_le
          refine (readPiece_moves nested there first (by simp [begins])).bind
            fun piece after further => ?_
          have shorter := further.length_lt there
          have goesOn := ih (further.since (Nat.le_succ_of_le there.least_le))
            (by omega) (by omega : after.rest.length < other) (piece.reverse ++ items)
          rw [List.map_append, List.map_reverse] at goesOn
          exact goesOn

omit nested in
/-- A sequence is the same if its items are, even where they are read at different places. -/
theorem readSequence_displaced {there : Cursor}
    (items : Displaced text distance least (List.map (Pattern.movedBy distance))
      ((readItems inner (before.rest.length + 1) []).run before)
      ((readItems inner (there.rest.length + 1) []).run there)) :
    Displaced text distance least (Pattern.movedBy distance) ((readSequence inner).run before)
      ((readSequence inner).run there) := by
  show Displaced _ _ _ _
    ((readItems inner (before.rest.length + 1) [] >>= fun items =>
      pure (Pattern.sequence items.reverse)).run before)
    ((readItems inner (there.rest.length + 1) [] >>= fun items =>
      pure (Pattern.sequence items.reverse)).run there)
  refine items.bind fun read after here => ?_
  rw [← List.map_reverse, ← movedBy_sequence]
  exact .pure here

theorem readSequence_moves (here : before.Within text least) :
    Moves text distance (readSequence inner) (readSequence inner) (Pattern.movedBy distance) before
      least :=
  readSequence_displaced (readItems_moves nested here (Nat.lt_succ_self _) (Nat.lt_succ_self _) [])

theorem readMoreBranches_moves {fuel other : Nat} (here : before.Within text least)
    (enough : before.rest.length < fuel) (enoughToo : before.rest.length < other)
    (branches : List Pattern) :
    Moves text distance (readMoreBranches inner fuel branches)
      (readMoreBranches inner other (branches.map (Pattern.movedBy distance)))
      (List.map (Pattern.movedBy distance)) before least := by
  induction fuel generalizing other before branches with
  | zero => exact absurd enough (Nat.not_lt_zero _)
  | succ fuel ih =>
      obtain _ | other := other
      · exact absurd enoughToo (Nat.not_lt_zero _)
      refine .accepted here (fun there => ?_) (.pure here)
      refine (readSequence_moves nested there).bind fun branch after further => ?_
      have shorter := further.length_lt here
      exact ih (further.since (Nat.le_succ_of_le here.least_le)) (by omega) (by omega)
        (branch :: branches)

theorem readBranchesWith_displaced {there : Cursor}
    (first : Displaced text distance least (Pattern.movedBy distance)
      ((readSequence inner).run before) ((readSequence inner).run there)) :
    Displaced text distance least (List.map (Pattern.movedBy distance))
      ((readBranchesWith inner).run before) ((readBranchesWith inner).run there) := by
  refine first.bind fun first middle here => .get ?_
  refine (readMoreBranches_moves nested here (Nat.lt_succ_self _) (Nat.lt_succ_self _)
    [first]).bind fun branches after here => ?_
  rw [← List.map_reverse]
  exact .pure here

theorem readBranchesWith_moves (here : before.Within text least) :
    Moves text distance (readBranchesWith inner) (readBranchesWith inner)
      (List.map (Pattern.movedBy distance)) before least :=
  readBranchesWith_displaced nested (readSequence_moves nested here)

end Inner

/-- Patterns are the same wherever they stand. -/
theorem readBranches_moves (limit depth : Nat) (here : before.Within text least) :
    Moves text distance (readBranches limit depth) (readBranches limit depth)
      (List.map (Pattern.movedBy distance)) before least := by
  induction depth generalizing text distance least before with
  | zero => exact readBranchesWith_moves (fun _ impossible => by cases impossible) here
  | succ depth ih =>
      refine readBranchesWith_moves ?_ here
      rintro reading ⟨⟩ text distance least before here
      exact ih here

end Reader

end Backtracking
