import Backtracking.Proofs.TakenTexts

/-!
# Readings of nested patterns

The parentheses of a text that is read are nested no deeper than the readings are.
-/

namespace Backtracking

open Reading

/-! ## Items -/

namespace Reading

variable {α β : Type}

/-- If a reading succeeds, the parentheses of the text that it takes are nested at most so deep. -/
def Nests (depth : Nat) (reading : Reading α) : Prop :=
  ∀ cursor, Ensures reading cursor fun _ after =>
    Nested depth cursor.flags cursor.rest after.rest after.flags

theorem nested_of_takes {before after : Cursor} (depth : Nat) (takes : before.Takes after) :
    Nested depth before.flags before.rest after.rest after.flags := by
  obtain ⟨same, taken, split, neutral⟩ := takes
  rw [split, same]
  exact .neutral neutral .done

theorem TakesNeutral.nests {reading : Reading α} (takes : TakesNeutral reading) (depth : Nat) :
    Nests depth reading :=
  fun cursor => (takes cursor).weaken fun _ _ taken => nested_of_takes depth taken

namespace Nests

variable {depth : Nat}

theorem pure (value : α) : Nests depth (Pure.pure value : Reading α) :=
  (TakesNeutral.pure value).nests depth

theorem thrown (error : CompileError) : Nests depth (throw error : Reading α) :=
  (TakesNeutral.thrown error).nests depth

theorem bind {first : Reading β} {next : β → Reading α} (begins : Nests depth first)
    (follows : ∀ value, Nests depth (next value)) : Nests depth (first >>= next) := by
  intro cursor
  refine (begins cursor).bind fun value middle nested => ?_
  exact (follows value middle).weaken fun _ _ further => nested.trans further

theorem looking {next : Cursor → Reading α}
    (follows : ∀ cursor, Ensures (next cursor) cursor fun _ after =>
      Nested depth cursor.flags cursor.rest after.rest after.flags) :
    Nests depth (get >>= next) :=
  follows

end Nests

end Reading

namespace Reader

theorem literal_takes (character : Char) : TakesNeutral (literal character) :=
  .looking fun cursor => .pure (.refl cursor)

theorem skipTrivia_nests (depth : Nat) : Nests depth skipTrivia := by
  refine .looking fun cursor => ?_
  split
  · next extended => exact .modified (Nested.trivia extended cursor.rest).1
  · exact .pure .done

theorem skipTrivia_ensures (cursor : Cursor) :
    Ensures skipTrivia cursor fun _ after =>
      after.flags.extended = true → after.rest.head? ≠ some '#' := by
  refine .looking ?_
  split
  · exact .modified fun _ => Scan.head?_drop_triviaLength false cursor.rest
  · next plain => exact .pure fun extended => absurd extended plain

theorem readBounds?_takes : TakesNeutral readBounds? := by
  refine .looking fun cursor => ?_
  split
  · next begins => exact .skipping (.pure (.one begins (by decide)))
  · next begins => exact .skipping (.pure (.one begins (by decide)))
  · next begins => exact .skipping (.pure (.one begins (by decide)))
  split
  · exact .pure (.refl cursor)
  · next bounds found =>
      obtain ⟨taken, rest, split, length, parts⟩ := Scan.bounds?_eq_some found
      refine .guarded fun _ => .guarded fun _ => .skipping (.pure ?_)
      rw [← length]
      exact .front split fun character member =>
        Scan.isNeutral_of_isBoundsChar (parts character member)

theorem readMode_takes : TakesNeutral readMode := by
  refine (TakesNeutral.accept (by decide)).bind fun possessive => ?_
  split
  · exact .pure _
  · exact (TakesNeutral.accept (by decide)).bind fun turned =>
      .looking fun cursor => .pure (.refl cursor)

theorem readQuantifier_nests (depth : Nat) (atom : Pattern) (inParentheses : Bool) :
    Nests depth (readQuantifier atom inParentheses) := by
  refine (skipTrivia_nests depth).bind fun _ => .looking fun cursor => ?_
  refine ((readBounds?_takes.nests depth).bind fun bounds? => ?_) cursor
  split
  · exact .pure _
  · split
    · exact .thrown _
    · exact (readMode_takes.nests depth).bind fun mode => .pure _

/-! ## Groups -/

theorem openGroup_takes (name : Option String) (nameOffset : Nat) :
    TakesNeutral (openGroup name nameOffset) := by
  have opens (cursor : Cursor) (names : Array (Option String)) (index : Nat) :
      Ensures (do set { cursor with groupNames := names }; return index : Reading Nat) cursor
        fun _ after => cursor.Takes after := by
    have written : Ensures (set { cursor with groupNames := names } : Reading Unit) cursor
        fun _ after => cursor.Takes after := .replaced ⟨rfl, [], rfl, by simp⟩
    exact written.bind fun _ _ takes => .pure takes
  refine .looking fun cursor => ?_
  cases name with
  | none => exact opens cursor _ _
  | some name => exact .guarded fun _ => opens cursor _ _

theorem readGroupName_ensures (terminator : Char) (cursor : Cursor) :
    Ensures (readGroupName terminator) cursor fun _ after => after.flags = cursor.flags ∧
      ∃ name, cursor.rest = name ++ terminator :: after.rest ∧
        ∀ character ∈ name, Scan.isNameChar character = true := by
  refine .looking (.taking (.guarded fun _ => .expected fun rest ends => .pure ⟨rfl, ?_⟩))
  refine ⟨cursor.rest.takeWhile Scan.isNameChar, ?_, fun _ => Scan.of_mem_takeWhile⟩
  have left : cursor.rest.drop (cursor.rest.takeWhile Scan.isNameChar).length =
      terminator :: rest := ends
  rw [Cursor.rest_advance ends, ← left]
  exact (Scan.takeWhile_append_drop Scan.isNameChar cursor.rest).symm

theorem readGroupName_takes {terminator : Char} (neutral : Scan.isNeutral terminator = true) :
    TakesNeutral (readGroupName terminator) := by
  intro cursor
  refine (readGroupName_ensures terminator cursor).weaken ?_
  rintro _ after ⟨same, name, split, parts⟩
  refine ⟨same, name ++ [terminator], by simp [split], fun character member => ?_⟩
  rcases List.mem_append.mp member with part | last
  · exact Scan.isNeutral_of_isNameChar (parts character part)
  · exact List.mem_singleton.mp last ▸ neutral

theorem backReference_takes (target : GroupRef) (offset : Nat) :
    TakesNeutral (backReference target offset) :=
  .looking fun cursor => .pure (.refl cursor)

theorem readCondition_ensures (cursor : Cursor) :
    Ensures readCondition cursor fun _ after => after.flags = cursor.flags ∧
      ∃ condition, cursor.rest = condition ++ ')' :: after.rest ∧ ')' ∉ condition := by
  have inName {name : List Char}
      (parts : ∀ character ∈ name, Scan.isNameChar character = true) : ')' ∉ name :=
    fun member => absurd (parts ')' member) (by decide)
  refine .looking (.peeking ?_)
  cases begins : cursor.rest with
  | nil => exact .thrown _
  | cons character rest =>
      dsimp only [List.head?_cons]
      split
      · refine .taking (.guarded fun _ => .expected fun left ends => .pure ⟨rfl, ?_⟩)
        refine ⟨cursor.rest.takeWhile Char.isDigit, ?_, fun member => ?_⟩
        · have behind : cursor.rest.drop (cursor.rest.takeWhile Char.isDigit).length =
              ')' :: left := ends
          rw [Cursor.rest_advance ends, ← behind, ← begins]
          exact (Scan.takeWhile_append_drop Char.isDigit cursor.rest).symm
        · exact absurd (Scan.of_mem_takeWhile member) (by decide)
      split
      · next quote =>
          have other : ')' ≠ if character = '<' then '>' else '\'' := by split <;> decide
          generalize (if character = '<' then '>' else '\'') = terminator at other ⊢
          refine .skipping ((readGroupName_ensures terminator _).bind ?_)
          rintro _ middle ⟨same, name, split, parts⟩
          refine .expected fun left ends =>
            .pure ⟨same, character :: (name ++ [terminator]), ?_, ?_⟩
          · rw [Cursor.rest_advance ends, ← ends]
            rw [Cursor.rest_advance begins] at split
            simp [split]
          · have closing : ')' ≠ character := by
              rintro rfl
              simp at quote
            simp only [List.mem_cons, List.mem_append, List.not_mem_nil, or_false, not_or]
            exact ⟨closing, inName parts, other⟩
      split
      · refine (readGroupName_ensures ')' cursor).bind ?_
        rintro _ after ⟨same, name, split, parts⟩
        exact .pure ⟨same, name, begins ▸ split, inName parts⟩
      · exact .thrown _

/-- What parentheses enclose is read up to the closing one.  It is nested less deep than these
are. -/
def Closes (depth : Nat) (before after : Cursor) : Prop :=
  after.flags = before.flags ∧
    ∃ less last, depth = less + 1 ∧ Nested less before.flags before.rest (')' :: after.rest) last

namespace Closes

variable {α β : Type} {depth : Nat} {before middle after : Cursor}

theorem behind (takes : before.Takes middle) (closes : Closes depth middle after) :
    Closes depth before after := by
  obtain ⟨same, taken, split, neutral⟩ := takes
  obtain ⟨sameToo, less, last, equal, nested⟩ := closes
  rw [same] at nested sameToo
  exact ⟨sameToo, less, last, equal, split ▸ .neutral neutral nested⟩

theorem bind {reading : Reading β} {next : β → Reading α} (takes : TakesNeutral reading)
    (follows : ∀ value cursor, Ensures (next value) cursor fun _ after => Closes depth cursor after)
    (cursor : Cursor) :
    Ensures (reading >>= next) cursor fun _ after => Closes depth cursor after :=
  (takes cursor).bind fun value middle taken =>
    (follows value middle).weaken fun _ _ closes => closes.behind taken

theorem nested (opens : opensGroup before.rest = true) (closes : Closes depth before after) :
    Nested depth before.flags ('(' :: before.rest) after.rest after.flags := by
  obtain ⟨same, less, last, rfl, nested⟩ := closes
  rw [same]
  exact .group opens nested .done

theorem marked (opens : opensGroup ('?' :: before.rest) = true)
    (closes : Closes depth before after) :
    Nested depth before.flags ('(' :: '?' :: before.rest) after.rest after.flags := by
  obtain ⟨same, less, last, rfl, nested⟩ := closes
  rw [same]
  exact .group opens (.ordinary (by decide) (fun _ => by decide) nested) .done

theorem ofKind (kind : List Char) {rest : List Char} {reading : Reading (Option Pattern)}
    (begins : before.rest = kind ++ rest) (neutral : kind.all Scan.isNeutral = true)
    (opens : opensGroup ('?' :: (kind ++ rest)) = true)
    (closes : ∀ cursor, Ensures reading cursor fun _ after => Closes depth cursor after) :
    Ensures (skip kind.length >>= fun _ => reading) before fun _ after =>
      Nested depth before.flags ('(' :: '?' :: before.rest) after.rest after.flags := by
  have taken := Cursor.Takes.front begins (List.all_eq_true.mp neutral)
  exact .skipping ((closes _).weaken fun _ _ closes =>
    (closes.behind taken).marked (begins ▸ opens))

end Closes

/-- The readings of nested patterns nest less deep. -/
def Inner.Nests (inner : Inner) (depth : Nat) : Prop :=
  ∀ reading, inner.branches? = some reading → ∃ less, depth = less + 1 ∧ Reading.Nests less reading

theorem readNote_nested (depth start : Nat) {cursor : Cursor} {rest : List Char}
    (begins : cursor.rest = '#' :: rest) :
    Ensures (takeWhile (· != ')') >>= fun _ =>
        expect ')' (.unterminatedGroup start) >>= fun _ => pure none : Reading (Option Pattern))
      cursor fun _ after =>
        Nested depth cursor.flags ('(' :: '?' :: cursor.rest) after.rest after.flags := by
  refine .taking (.expected fun left ends => .pure ?_)
  have taken : cursor.rest.takeWhile (· != ')') = '#' :: rest.takeWhile (· != ')') := by
    rw [begins]
    rfl
  have behind : cursor.rest.drop (cursor.rest.takeWhile (· != ')')).length = ')' :: left := ends
  rw [taken, begins, List.length_cons, List.drop_succ_cons] at behind
  have words := Scan.takeWhile_append_drop (· != ')') rest
  rw [behind] at words
  rw [Cursor.rest_advance ends, begins, ← words]
  refine .note (fun member => ?_) .done
  simpa using Scan.of_mem_takeWhile member

section Inner

variable {inner : Inner} {depth : Nat} (nested : inner.Nests depth)
include nested

theorem readEnclosed_closes (start : Nat) (cursor : Cursor) :
    Ensures (readEnclosed inner start) cursor fun _ after => Closes depth cursor after := by
  unfold readEnclosed
  split
  · exact .thrown _
  · next reading known =>
      obtain ⟨less, equal, nests⟩ := nested reading known
      refine .looking ((nests cursor).bind fun branches middle inside => ?_)
      have restored : Ensures (modify ({ · with flags := cursor.flags }) : Reading Unit) middle
          fun _ after => after = { middle with flags := cursor.flags } := .modified rfl
      refine restored.bind ?_
      rintro _ _ rfl
      refine .expected fun rest closes => .pure ⟨rfl, less, middle.flags, equal, ?_⟩
      rw [Cursor.rest_advance closes]
      exact closes ▸ inside

theorem readBody_closes (start : Nat) (cursor : Cursor) :
    Ensures (readBody inner start) cursor fun _ after => Closes depth cursor after :=
  (readEnclosed_closes nested start cursor).bind fun _ _ closes => .pure closes

theorem readNamedGroup_closes {terminator : Char} (neutral : Scan.isNeutral terminator = true)
    (start : Nat) (cursor : Cursor) :
    Ensures (readNamedGroup inner terminator start) cursor fun _ after =>
      Closes depth cursor after := by
  refine .looking (Closes.bind (readGroupName_takes neutral) (fun name cursor => ?_) cursor)
  refine Closes.bind (openGroup_takes _ _) (fun index cursor => ?_) cursor
  exact (readBody_closes nested start cursor).bind fun _ _ closes => .pure closes

theorem readLookAround_closes (direction : Direction) (negated : Bool) (start : Nat)
    (cursor : Cursor) :
    Ensures (readLookAround inner direction negated start) cursor fun _ after =>
      Closes depth cursor after :=
  (readBody_closes nested start cursor).bind fun _ _ closes => .pure closes

theorem readOptions_nested (start : Nat) (cursor : Cursor) :
    Ensures (readOptions inner start) cursor fun _ after =>
      Nested depth cursor.flags ('(' :: '?' :: cursor.rest) after.rest after.flags := by
  have sets (flags : Flags) (before : Cursor) :
      Ensures (modify ({ · with flags := flags }) : Reading Unit) before fun _ after =>
        after = { before with flags := flags } := .modified rfl
  refine .looking ?_
  split
  · next options =>
      refine .skipping ((sets _ _).bind ?_)
      rintro _ _ rfl
      exact .pure (.setting options .done)
  · next options =>
      refine .skipping ((sets _ _).bind ?_)
      rintro _ _ rfl
      refine (readBody_closes nested start _).bind ?_
      rintro body middle ⟨-, less, last, rfl, inside⟩
      refine (sets _ _).bind ?_
      rintro _ _ rfl
      exact .pure (.scope options inside .done)
  · exact .thrown _
  · exact .thrown _

theorem readConditional_nested (start : Nat) (cursor : Cursor) :
    Ensures (readConditional inner start) cursor fun _ after =>
      Nested depth cursor.flags ('(' :: '?' :: '(' :: cursor.rest) after.rest after.flags := by
  refine .looking ((readCondition_ensures cursor).bind ?_)
  rintro target middle ⟨same, condition, split, inside⟩
  refine (readEnclosed_closes nested start middle).bind ?_
  rintro branches after ⟨sameToo, less, last, rfl, enclosed⟩
  have whole : Nested (less + 1) cursor.flags ('(' :: '?' :: '(' :: cursor.rest) after.rest
      after.flags := by
    rw [same] at enclosed sameToo
    rw [sameToo, split]
    exact .conditional inside enclosed .done
  split
  · exact .pure whole
  · exact .pure whole
  · exact .thrown _

theorem readCapture_nested (start : Nat) {cursor : Cursor} (plain : cursor.rest.head? ≠ some '?') :
    Ensures (openGroup none start >>= fun index =>
        readBody inner start >>= fun body => pure (some (.group index body)) :
          Reading (Option Pattern)) cursor fun _ after =>
      Nested depth cursor.flags ('(' :: cursor.rest) after.rest after.flags := by
  have opens : opensGroup cursor.rest = true := by
    unfold opensGroup
    split <;> simp_all
  refine (Closes.bind (openGroup_takes _ _) (fun index cursor => ?_) cursor).weaken
    fun _ _ closes => closes.nested opens
  exact (readBody_closes nested start cursor).bind fun _ _ closes => .pure closes

theorem readPlain_nested (start : Nat) {cursor : Cursor} {rest : List Char}
    (begins : cursor.rest = ':' :: rest) :
    Ensures (skip 1 >>= fun _ => readBody inner start >>= fun body => pure (some body) :
        Reading (Option Pattern)) cursor fun _ after =>
      Nested depth cursor.flags ('(' :: '?' :: cursor.rest) after.rest after.flags := by
  refine .skipping ((readBody_closes nested start _).bind ?_)
  rintro body after ⟨same, less, last, rfl, enclosed⟩
  have sets : scanOptions true cursor.flags 0 cursor.rest = .scope cursor.flags 1 := by
    rw [begins]
    rfl
  refine .pure ?_
  rw [same]
  exact .scope sets enclosed .done

omit nested in
theorem readReferenceByName_nested (depth start : Nat) {cursor : Cursor} {rest : List Char}
    (begins : cursor.rest = 'P' :: '=' :: rest) :
    Ensures (skip 2 >>= fun _ => readGroupName ')' >>= fun name =>
        backReference (.name name) start >>= fun reference => pure (some reference) :
          Reading (Option Pattern)) cursor fun _ after =>
      Nested depth cursor.flags ('(' :: '?' :: cursor.rest) after.rest after.flags := by
  refine .skipping ((readGroupName_ensures ')' _).bind ?_)
  rintro _ middle ⟨same, name, split, parts⟩
  refine .looking (.pure ?_)
  replace split := (Cursor.rest_advance_length ['P', '='] begins).symm.trans split
  rw [begins, split, same]
  refine .reference (fun member => ?_) .done
  exact absurd (parts ')' member) (by decide)

theorem readGroup_nested (start : Nat) (cursor : Cursor) :
    Ensures (readGroup inner start) cursor fun _ after =>
      Nested depth cursor.flags ('(' :: cursor.rest) after.rest after.flags := by
  refine .accepted (fun more begins => ?_) (readCapture_nested nested start)
  have whole : cursor.rest = '?' :: (cursor.advance 1).rest := by
    rw [begins, Cursor.rest_advance begins]
  have sameFlags : cursor.flags = (cursor.advance 1).flags := rfl
  rw [whole, sameFlags]
  generalize cursor.advance 1 = cursor
  have returns {α : Type} {reading : Reading α} {result : α → Option Pattern}
      (closes : ∀ cursor, Ensures reading cursor fun _ after => Closes depth cursor after)
      (cursor : Cursor) :
      Ensures (do return result (← reading)) cursor fun _ after => Closes depth cursor after :=
    (closes cursor).bind fun _ _ closes => .pure closes
  refine .looking (.looking ?_)
  split
  · next follows => exact readNote_nested depth start follows
  · next follows => exact readPlain_nested nested start follows
  · next follows =>
      exact Closes.ofKind ['>'] follows (by decide) rfl (returns (readBody_closes nested start))
  · next follows =>
      exact Closes.ofKind ['='] follows (by decide) rfl
        (returns (readLookAround_closes nested _ _ start))
  · next follows =>
      exact Closes.ofKind ['!'] follows (by decide) rfl
        (returns (readLookAround_closes nested _ _ start))
  · next follows =>
      exact Closes.ofKind ['<', '='] follows (by decide) rfl
        (returns (readLookAround_closes nested _ _ start))
  · next follows =>
      exact Closes.ofKind ['<', '!'] follows (by decide) rfl
        (returns (readLookAround_closes nested _ _ start))
  · next follows =>
      exact Closes.ofKind ['<'] follows (by decide) rfl
        (returns (readNamedGroup_closes nested (by decide) start))
  · next follows =>
      exact Closes.ofKind ['\''] follows (by decide) rfl
        (returns (readNamedGroup_closes nested (by decide) start))
  · next follows =>
      exact Closes.ofKind ['P', '<'] follows (by decide) rfl
        (returns (readNamedGroup_closes nested (by decide) start))
  · next follows => exact readReferenceByName_nested depth start follows
  · next follows =>
      refine .skipping ((readConditional_nested nested start _).bind fun _ after inside => .pure ?_)
      rw [Cursor.rest_advance follows] at inside
      rw [follows]
      exact inside
  · split
    · exact readOptions_nested nested start _
    · exact .thrown _
  · exact .thrown _

end Inner

/-! ## Atoms -/

theorem readNamedReference_takes (start : Nat) : TakesNeutral (readNamedReference start) := by
  have refers {terminator : Char} (neutral : Scan.isNeutral terminator = true) : TakesNeutral (do
      let name ← readGroupName terminator
      backReference (.name name) start) :=
    (readGroupName_takes neutral).bind fun name => backReference_takes _ _
  intro cursor
  refine .nextRead (fun _ => ?_) fun character rest begins => ?_
  · intro value after succeeds
    cases succeeds
  have opened (neutral : Scan.isNeutral character = true) {reading : Reading Pattern}
      (takes : TakesNeutral reading) :
      Ensures reading (cursor.advance 1) fun _ after => cursor.Takes after :=
    (takes _).weaken fun _ _ taken => (Cursor.Takes.one begins neutral).trans taken
  dsimp only
  split
  · next equal =>
      cases equal
      exact opened (by decide) (refers (by decide))
  · next equal =>
      cases equal
      exact opened (by decide) (refers (by decide))
  · next equal =>
      cases equal
      exact opened (by decide) (refers (by decide))
  · intro value after succeeds
    cases succeeds

theorem readReference_takes (start : Nat) : TakesNeutral (readReference start) := by
  refine (TakesNeutral.accept (by decide)).bind fun braced => ?_
  intro cursor
  refine .peeking ?_
  split
  · exact ((readGroupName_takes (by decide)).bind fun name => backReference_takes _ _) cursor
  refine ((TakesNeutral.accept (by decide)).bind fun relative => ?_) cursor
  refine (TakesNeutral.takeWhile fun _ => Scan.isNeutral_of_isDigit).bind fun digits =>
    .guarded fun _ => ?_
  have rest : TakesNeutral (do
      let groupCount := (← get).groupCount
      let number := Scan.number digits
      let group :=
        if !relative then number
        else if number ≤ groupCount && number != 0 then groupCount - number + 1
        else 0
      if group = 0 then
        throw (.invalidBackReference start 0)
      backReference (.number group) start) :=
    .looking fun cursor => .guarded fun _ => backReference_takes _ _ cursor
  dsimp only
  split
  · exact (TakesNeutral.expect (by decide) _).bind fun _ => rest
  · exact rest

theorem readNumbered_takes (digit : Char) (start : Nat) :
    TakesNeutral (readNumbered digit start) := by
  refine .looking fun cursor => ?_
  dsimp only
  split
  · refine .skipping ((backReference_takes _ _ _).weaken fun _ _ taken => ?_)
    refine Cursor.Takes.trans (.front (Scan.takeWhile_append_drop Char.isDigit cursor.rest).symm
      fun _ member => ?_) taken
    exact Scan.isNeutral_of_isDigit (Scan.of_mem_takeWhile member)
  split
  · exact literal_takes digit cursor
  · exact ((Escape.readShortCode_takes _ (fun _ => Escape.isNeutral_of_isOctal) _).bind
      fun code => literal_takes code) cursor

theorem readEscape_takes {start : Nat} {cursor : Cursor} (unquoted : cursor.rest.head? ≠ some 'Q') :
    Ensures (readEscape start) cursor fun _ after => cursor.TakesEscape after := by
  refine .nextRead (fun _ => .thrown _) fun letter rest begins => .looking ?_
  have notQuote : letter ≠ 'Q' := by
    rintro rfl
    exact unquoted (by rw [begins]; rfl)
  have escape {reading : Reading (Option Pattern)} (other : letter ≠ 'c')
      (takes : TakesNeutral reading) :
      Ensures reading (cursor.advance 1) fun _ after => cursor.TakesEscape after :=
    (takes _).weaken fun _ _ taken => .letter begins notQuote other taken
  dsimp only
  split
  case h_2 => exact escape (by decide) ((Escape.readProperty_takes _ _).bind fun _ => .pure _)
  case h_3 => exact escape (by decide) ((Escape.readProperty_takes _ _).bind fun _ => .pure _)
  case h_12 => exact escape (by decide) ((readNamedReference_takes start).bind fun _ => .pure _)
  case h_13 => exact escape (by decide) ((readReference_takes start).bind fun _ => .pure _)
  case h_14 =>
    split
    · next shorthand =>
        refine escape ?_ ((Escape.readShorthand_takes letter).bind fun _ => .pure _)
        rintro rfl
        cases shorthand
    split
    · next digit =>
        refine escape ?_ ((readNumbered_takes letter start).bind fun _ => .pure _)
        rintro rfl
        cases digit
    · refine (Escape.readChar_takes begins notQuote start).bind fun character after taken => ?_
      exact (literal_takes character after).bind fun _ last further => .pure (.behind taken further)
  all_goals exact escape (by decide) (.pure _)

section Inner

variable {inner : Inner} {depth : Nat} (nested : inner.Nests depth)
include nested

theorem readAtom_nested {cursor : Cursor} {first : Char} {rest : List Char}
    (begins : cursor.rest = first :: rest) (opens : first ≠ ')')
    (noComment : cursor.flags.extended = true → first ≠ '#')
    (unquoted : first = '\\' → rest.head? ≠ some 'Q') :
    Ensures (readAtom inner first) cursor fun _ after =>
      Nested depth cursor.flags cursor.rest after.rest after.flags := by
  have moved := Cursor.rest_advance begins
  have ordinary (plain : first ∉ ['(', ')', '[', '\\']) :
      Nested depth cursor.flags cursor.rest (cursor.advance 1).rest (cursor.advance 1).flags := by
    rw [begins, moved]
    exact .ordinary plain noComment .done
  refine .looking (.looking (.skipping ?_))
  split
  · refine (readGroup_nested nested _ _).weaken fun _ after inside => ?_
    rw [begins, ← moved]
    exact inside
  · refine (Bracket.read_takes _ _).bind ?_
    rintro set after ⟨same, members⟩
    refine .pure ?_
    rw [moved] at members
    rw [begins, same]
    exact .bracketed members .done
  · refine (readEscape_takes (by rw [moved]; exact unquoted rfl)).weaken ?_
    rintro _ after ⟨same, front, taken, split, escapes, neutral⟩
    rw [moved] at split
    rw [begins, split, same]
    exact .escape escapes (.neutral neutral .done)
  · exact .pure (ordinary (by decide))
  · exact .pure (ordinary (by decide))
  · exact .pure (ordinary (by decide))
  · next parenthesis bracket backslash _ _ _ =>
      refine (literal_takes first _).bind fun atom after taken => .pure ?_
      refine (ordinary ?_).trans (nested_of_takes depth taken)
      simp only [List.mem_cons, List.not_mem_nil, or_false, not_or]
      exact ⟨parenthesis, opens, bracket, backslash⟩

/-! ## Sequences and branches -/

omit nested in
theorem readLiterals_takes (characters : List Char) : TakesNeutral (characters.mapM literal) := by
  induction characters with
  | nil => exact .pure _
  | cons character characters ih =>
      rw [List.mapM_cons]
      exact (literal_takes character).bind fun _ => ih.bind fun _ => .pure _

omit nested in
theorem readQuoted_nested {cursor : Cursor} {rest : List Char}
    (begins : cursor.rest = '\\' :: 'Q' :: rest) :
    Ensures readQuoted cursor fun _ after =>
      Nested depth cursor.flags cursor.rest after.rest after.flags := by
  have moved : (cursor.advance 2).rest = rest := Cursor.rest_advance_length ['\\', 'Q'] begins
  have quotes : Nested depth cursor.flags cursor.rest
      ((cursor.advance 2).advance (Scan.quoted (cursor.advance 2).rest).2).rest cursor.flags := by
    rw [begins]
    refine .quoted ?_
    rw [Cursor.advance, moved]
    exact .done
  refine .skipping (.looking ?_)
  dsimp only
  refine .skipping ?_
  split
  · exact .pure quotes
  · refine (((readLiterals_takes _).nests depth).bind fun literals => ?_) _ |>.weaken
      fun _ _ further => quotes.trans further
    refine ((literal_takes _).nests depth).bind fun atom => ?_
    exact (readQuantifier_nests depth atom false).bind fun repeated => .pure _

theorem readPiece_nested {cursor : Cursor} {first : Char} {rest : List Char}
    (begins : cursor.rest = first :: rest) (opens : first ≠ ')')
    (noComment : cursor.flags.extended = true → first ≠ '#') :
    Ensures (readPiece inner first) cursor fun _ after =>
      Nested depth cursor.flags cursor.rest after.rest after.flags := by
  refine .looking ?_
  split
  · next quoted => exact readQuoted_nested quoted
  · next unquoted =>
      have notQuote : first = '\\' → rest.head? ≠ some 'Q' := by
        rintro rfl quote
        obtain ⟨more, rfl⟩ := List.head?_eq_some_iff.mp quote
        exact unquoted more begins
      refine (readAtom_nested nested begins opens noComment notQuote).bind
        fun atom? after inside => ?_
      split
      · exact .pure inside
      · refine ((readQuantifier_nests depth _ _).bind fun pattern => .pure _) after |>.weaken
          fun _ _ further => inside.trans further

theorem readItems_nests (fuel : Nat) (items : List Pattern) :
    Nests depth (readItems inner fuel items) := by
  induction fuel generalizing items with
  | zero => exact .pure _
  | succ fuel ih =>
      intro cursor
      refine ((skipTrivia_nests depth cursor).and (skipTrivia_ensures cursor)).bind ?_
      rintro _ middle ⟨trivia, noComment⟩
      refine .looking ?_
      split
      · exact .pure trivia
      · next first rest begins =>
          split
          · exact .pure trivia
          · next other =>
              split
              · exact .thrown _
              · simp only [Bool.or_eq_true, decide_eq_true_eq, not_or] at other
                have plain : middle.flags.extended = true → first ≠ '#' := by
                  rintro extended rfl
                  exact noComment extended (by rw [begins]; rfl)
                refine (readPiece_nested nested begins other.2 plain).bind
                  fun piece after inside => ?_
                exact (ih _ after).weaken fun _ _ further => (trivia.trans inside).trans further

theorem readSequence_nests : Nests depth (readSequence inner) :=
  .looking fun cursor =>
    ((readItems_nests nested _ []).bind fun _ => .pure _) cursor

theorem readMoreBranches_nests (fuel : Nat) (branches : List Pattern) :
    Nests depth (readMoreBranches inner fuel branches) := by
  induction fuel generalizing branches with
  | zero => exact .pure _
  | succ fuel ih =>
      refine ((TakesNeutral.accept (by decide)).nests depth).bind fun more => ?_
      split
      · exact (readSequence_nests nested).bind fun branch => ih _
      · exact .pure _

theorem readBranchesWith_nests : Nests depth (readBranchesWith inner) := by
  refine (readSequence_nests nested).bind fun first => .looking fun cursor => ?_
  exact ((readMoreBranches_nests nested _ _).bind fun branches => .pure _) cursor

end Inner

/-- Branches are nested no deeper than they may be. -/
theorem readBranches_nests (limit depth : Nat) : Nests depth (readBranches limit depth) := by
  induction depth with
  | zero => exact readBranchesWith_nests fun _ impossible => by cases impossible
  | succ depth ih =>
      refine readBranchesWith_nests ?_
      rintro reading ⟨⟩
      exact ⟨depth, rfl, ih⟩

end Reader

end Backtracking
