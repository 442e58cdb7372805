import Backtracking.Proofs.MovedPatterns
import Backtracking.Proofs.PlainReading
import Backtracking.Proofs.TakenTexts

/-!
# What patterns are built from

A pattern is built from the characters of its text.  Every atom takes characters of its own, and so
do a quantifier, a bar between two branches and the parentheses around others.  Options and comments
take characters without adding anything to a pattern, so a pattern may be built from fewer
characters than it is written with, but never from more.
-/

namespace Backtracking

open Reading

namespace Built

/-- Several things are built one after the other. -/
inductive All {α : Type} (built : Nat → α → Prop) : (length : Nat) → List α → Prop
  | nil : All built 0 []
  | cons {length more : Nat} {first : α} {rest : List α} (begins : built length first)
      (follows : All built more rest) : All built (length + more) (first :: rest)

section Enclosed

variable (enclosed : Nat → List Pattern → Prop)

/-- An atom is built from so many characters.  Parentheses enclose branches that are built as
given. -/
inductive Atom : (length : Nat) → Pattern → Prop
  | char (matcher : CharMatcher) : Atom 1 (.char matcher)
  | assert (assertion : Assertion) : Atom 1 (.assert assertion)
  | backReference (target : GroupRef) (ignoresCase : Bool) (offset : Nat) :
      Atom 1 (.backReference target ignoresCase offset)
  | anyLineEnd : Atom 2 Reader.anyLineEnd
  | group {length : Nat} {branches : List Pattern} (index : Nat)
      (inside : enclosed length branches) :
      Atom (length + 2) (.group index (Pattern.choice branches))
  | scope {length : Nat} {branches : List Pattern} (inside : enclosed length branches) :
      Atom (length + 2) (Pattern.choice branches)
  | lookAround {length : Nat} {branches : List Pattern} (direction : Direction) (negated : Bool)
      (offset : Nat) (inside : enclosed length branches) :
      Atom (length + 2) (.lookAround direction negated (Pattern.choice branches) offset)
  | atomic {length : Nat} {branches : List Pattern} (inside : enclosed length branches) :
      Atom (length + 2) (.atomic (Pattern.choice branches))
  | ifOnly {length : Nat} {yes : Pattern} (target : GroupRef) (offset : Nat)
      (inside : enclosed length [yes]) : Atom (length + 2) (.conditional target yes .empty offset)
  | ifElse {length : Nat} {yes no : Pattern} (target : GroupRef) (offset : Nat)
      (inside : enclosed length [yes, no]) : Atom (length + 2) (.conditional target yes no offset)

/-- An atom, with or without a quantifier. -/
inductive Piece : (length : Nat) → Pattern → Prop
  | once {length : Nat} {atom : Pattern} (built : Atom enclosed length atom) : Piece length atom
  | repeated {length : Nat} {atom : Pattern} (built : Atom enclosed length atom) (least : Nat)
      (most : Option Nat) (mode : RepeatMode) :
      Piece (length + 1) (.repeated atom least most mode)

/-- Sequences of such pieces, with bars between them. -/
inductive Branches : (length : Nat) → List Pattern → Prop
  | last {length : Nat} {items : List Pattern} (pieces : All (Piece enclosed) length items) :
      Branches length [Pattern.sequence items]
  | bar {length more : Nat} {items branches : List Pattern}
      (pieces : All (Piece enclosed) length items) (follow : Branches more branches) :
      Branches (length + 1 + more) (Pattern.sequence items :: branches)

end Enclosed

theorem All.one {α : Type} {built : Nat → α → Prop} {length : Nat} {value : α}
    (known : built length value) : All built length [value] :=
  .cons known .nil

theorem All.of_one {α : Type} {built : Nat → α → Prop} {length : Nat} {value : α}
    (all : All built length [value]) : built length value := by
  cases all with
  | cons known rest =>
      cases rest
      exact known

theorem All.append {α : Type} {built : Nat → α → Prop} {length more : Nat} {values others : List α}
    (begins : All built length values) (follows : All built more others) :
    All built (length + more) (values ++ others) := by
  induction begins with
  | nil => simpa using follows
  | cons first _ ih =>
      rw [Nat.add_assoc]
      exact .cons first ih

theorem Branches.behind {enclosed : Nat → List Pattern → Prop} {length more : Nat}
    {items branches : List Pattern} (begin : Branches enclosed length branches)
    (pieces : All (Piece enclosed) more items) :
    Branches enclosed (length + 1 + more) (branches ++ [Pattern.sequence items]) := by
  induction begin with
  | last first => exact .bar first (.last pieces)
  | bar first _ ih =>
      rw [Nat.add_assoc, Nat.add_assoc, ← Nat.add_assoc _ 1 more]
      exact .bar first ih

end Built

/-- Branches are built from so many characters, with parentheses nested at most so deep. -/
def Built : (depth length : Nat) → (branches : List Pattern) → Prop
  | 0 => Built.Branches fun _ _ => False
  | depth + 1 => Built.Branches (Built depth)

/-! ## Places of the text -/

/-- The place that is reached is behind the characters from which something is built. -/
def Cursor.Spans (text : List Char) (start : Nat) (built : Nat → Prop) (after : Cursor) : Prop :=
  ∃ length, built length ∧ after.Within text (start + length)

theorem Cursor.Spans.onward {text : List Char} {start : Nat} {built : Nat → Prop}
    {middle after : Cursor} (spans : middle.Spans text start built)
    (further : after.Within text middle.position) : after.Spans text start built := by
  obtain ⟨length, known, there⟩ := spans
  exact ⟨length, known, further.since there.least_le⟩

theorem Cursor.Within.past {text rest : List Char} {least : Nat} {cursor : Cursor}
    {character : Char} (here : cursor.Within text least)
    (begins : cursor.rest = character :: rest) : (cursor.advance 1).Within text (least + 1) :=
  (here.onward (by simp [begins])).since (Nat.succ_le_succ here.least_le)

theorem Reading.Moves.ensures {α β : Type} {first : Reading α} {second : Reading β} {move : α → β}
    {text : List Char} {least : Nat} {before : Cursor}
    (moves : Moves text 0 first second move before least) :
    Ensures first before fun _ after => after.Within text least := by
  intro value after succeeds
  unfold Moves Displaced at moves
  rw [succeeds] at moves
  exact moves.2

namespace Reader

open Built

variable {text : List Char} {start offset least length : Nat} {before : Cursor}
variable {enclosed : Nat → List Pattern → Prop}

/-! ## Quantifiers -/

variable (enclosed) in
theorem literal_built (character : Char) (here : before.Within text least) :
    Ensures (literal character) before fun atom after =>
      Atom enclosed 1 atom ∧ after.Within text least :=
  .looking (.pure ⟨.char _, here⟩)

theorem readBounds?_built (here : before.Within text least) :
    Ensures readBounds? before fun bounds? after =>
      after.Within text (least + bounds?.toList.length) := by
  refine .looking ?_
  split
  · next begins => exact .skipping (.pure (here.past begins))
  · next begins => exact .skipping (.pure (here.past begins))
  · next begins => exact .skipping (.pure (here.past begins))
  split
  · exact .pure here
  · next bounds found =>
      obtain ⟨taken, rest, split, length, -⟩ := Scan.bounds?_eq_some found
      have fits : bounds.length ≤ before.rest.length := by
        rw [split, List.length_append]
        omega
      have positive := Scan.bounds?_length_pos found
      have reached := here.least_le
      refine .guarded fun _ => .guarded fun _ => .skipping (.pure ((here.onward fits).since ?_))
      simp only [Option.toList_some, List.length_singleton]
      omega

theorem readQuantifier_built {atom : Pattern} (built : Atom enclosed length atom)
    (inParentheses : Bool) (here : before.Within text (start + length)) :
    Ensures (readQuantifier atom inParentheses) before fun pattern after =>
      after.Spans text start (Piece enclosed · pattern) := by
  refine (skipTrivia_moves here).ensures.bind fun _ middle here => .looking ?_
  refine (readBounds?_built here).bind fun bounds? after there => ?_
  split
  · exact .pure ⟨length, .once built, there⟩
  · next least most =>
      have repeats : Ensures (do return .repeated atom least most (← readMode) : Reading Pattern)
          after fun pattern after => after.Spans text start (Piece enclosed · pattern) :=
        (readMode_moves there).ensures.bind fun mode last there =>
          .pure ⟨length + 1, .repeated built least most mode, there⟩
      split
      · exact .thrown _
      · exact repeats

/-! ## Groups -/

/-- The readings of nested patterns build them from what they read. -/
def Inner.Builds (inner : Inner) (enclosed : Nat → List Pattern → Prop) : Prop :=
  ∀ reading, inner.branches? = some reading →
    ∀ (text : List Char) (start : Nat) (before : Cursor), before.Within text start →
      Ensures reading before fun branches after => after.Spans text start (enclosed · branches)

/-- The atom, if there is one, is built from so many characters. -/
def AtomOf (enclosed : Nat → List Pattern → Prop) (atom? : Option Pattern) (length : Nat) : Prop :=
  ∀ atom ∈ atom?, Atom enclosed length atom

theorem some_built {reading : Reading Pattern}
    (builds : Ensures reading before fun atom after =>
      after.Spans text start (Atom enclosed · atom)) :
    Ensures (do return some (← reading)) before fun atom? after =>
      after.Spans text start (AtomOf enclosed atom?) := by
  refine builds.bind ?_
  rintro atom after ⟨length, built, there⟩
  exact .pure ⟨length, by simpa [AtomOf] using built, there⟩

theorem none_built (here : before.Within text start) :
    before.Spans text start (AtomOf enclosed none) :=
  ⟨0, by simp [AtomOf], here⟩

theorem readNote_built (offset : Nat) (here : before.Within text (start + 1)) :
    Ensures (takeWhile (· != ')') >>= fun _ =>
        expect ')' (.unterminatedGroup offset) >>= fun _ => pure none : Reading (Option Pattern))
      before fun atom? after => after.Spans text start (AtomOf enclosed atom?) := by
  refine .taking (.expected fun rest closes => .pure (none_built ?_))
  exact ((here.advance (List.takeWhile_prefix _).length_le).past closes).since (by omega)

section Inner

variable {inner : Inner} (builds : inner.Builds enclosed)
include builds

theorem readEnclosed_built (offset : Nat) (here : before.Within text start) :
    Ensures (readEnclosed inner offset) before fun branches after =>
      after.Spans text (start + 1) (enclosed · branches) := by
  unfold readEnclosed
  split
  · exact .thrown _
  · next reading known =>
      refine .looking ((builds reading known text start before here).bind ?_)
      rintro branches middle ⟨length, built, there⟩
      have restored : Ensures (modify ({ · with flags := before.flags }) : Reading Unit) middle
          fun _ after => after.Within text (start + length) := .modified { there with }
      refine restored.bind fun _ after there => .expected fun rest closes => ?_
      exact .pure ⟨length, built, (there.past closes).since (by omega)⟩

theorem readBody_built (wrap : Pattern → Pattern)
    (wrapped : ∀ length branches, enclosed length branches →
      Atom enclosed (length + 2) (wrap (Pattern.choice branches)))
    (offset : Nat) (here : before.Within text (start + 1)) :
    Ensures (readBody inner offset) before fun body after =>
      after.Spans text start (Atom enclosed · (wrap body)) := by
  refine (readEnclosed_built builds offset here).bind ?_
  rintro branches after ⟨length, inside, there⟩
  exact .pure ⟨length + 2, wrapped length branches inside, there.since (by omega)⟩

theorem readCapture_built {α : Type} (finish : Pattern → α) {built : α → Nat → Prop}
    (finished : ∀ atom length, Atom enclosed length atom → built (finish atom) length)
    (name : Option String) (nameOffset offset : Nat) (here : before.Within text (start + 1))
    (named : nameOffset ≤ text.length) :
    Ensures (do
        let index ← openGroup name nameOffset
        return finish (.group index (← readBody inner offset))) before fun value after =>
      after.Spans text start (built value) := by
  refine (openGroup_moves here name named).ensures.bind fun index middle here => ?_
  refine (readBody_built builds (.group index) (fun _ _ => .group index) offset here).bind ?_
  rintro body after ⟨length, known, there⟩
  exact .pure ⟨length, finished _ _ known, there⟩

theorem readNamedGroup_built (terminator : Char) (offset : Nat)
    (here : before.Within text (start + 1)) :
    Ensures (readNamedGroup inner terminator offset) before fun atom after =>
      after.Spans text start (Atom enclosed · atom) := by
  refine .looking ((readGroupName_moves here terminator).ensures.bind fun name middle there => ?_)
  exact readCapture_built builds id (fun _ _ built => built) (some name) _ offset there
    here.position_le

theorem readLookAround_built (direction : Direction) (negated : Bool) (offset : Nat)
    (here : before.Within text (start + 1)) :
    Ensures (readLookAround inner direction negated offset) before fun atom after =>
      after.Spans text start (Atom enclosed · atom) :=
  (readBody_built builds (.lookAround direction negated · offset)
    (fun _ _ => .lookAround direction negated offset) offset here).bind fun _ _ spans => .pure spans

theorem readOptions_built (offset : Nat) (here : before.Within text (start + 1)) :
    Ensures (readOptions inner offset) before fun atom? after =>
      after.Spans text start (AtomOf enclosed atom?) := by
  have sets (flags : Flags) {before : Cursor} {least : Nat} (here : before.Within text least) :
      Ensures (modify ({ · with flags := flags }) : Reading Unit) before fun _ after =>
        after.Within text least := .modified { here with }
  have bound := scanOptions_length_le true before.flags 0 before.rest
  rw [Nat.zero_add] at bound
  refine .looking ?_
  split
  · next ends =>
      rw [ends] at bound
      refine .skipping ((sets _ (here.advance bound)).bind fun _ after there => ?_)
      exact .pure (none_built (there.since (Nat.le_succ start)))
  · next ends =>
      rw [ends] at bound
      refine .skipping ((sets _ (here.advance bound)).bind fun _ middle there => ?_)
      refine (readBody_built builds id (fun _ _ => .scope) offset there).bind ?_
      rintro body last ⟨length, built, there⟩
      refine (sets _ there).bind fun _ after there => ?_
      exact .pure ⟨length, by simpa [AtomOf] using built, there⟩
  · exact .thrown _
  · exact .thrown _

theorem readConditional_built (offset : Nat) (here : before.Within text (start + 1)) :
    Ensures (readConditional inner offset) before fun atom after =>
      after.Spans text start (Atom enclosed · atom) := by
  refine .looking ((readCondition_moves here).ensures.bind fun target middle there => ?_)
  refine (readEnclosed_built builds offset there).bind ?_
  rintro branches after ⟨length, inside, there⟩
  replace there : after.Within text (start + (length + 2)) := there.since (by omega)
  split
  · exact .pure ⟨_, .ifOnly target _ inside, there⟩
  · exact .pure ⟨_, .ifElse target _ inside, there⟩
  · exact .thrown _

/-- What an opening parenthesis in front of a cursor stands for is built together with it. -/
theorem readGroup_built (here : before.Within text (start + 1)) (opened : offset ≤ text.length) :
    Ensures (readGroup inner offset) before fun atom? after =>
      after.Spans text start (AtomOf enclosed atom?) := by
  have given {atom : Pattern} {length : Nat} (built : Atom enclosed length atom) :
      AtomOf enclosed (some atom) length := by simpa [AtomOf] using built
  refine (Moves.accept here '?').ensures.bind fun extended middle there => ?_
  split
  · exact readCapture_built builds some (fun _ _ => given) none offset offset there opened
  have one {character : Char} {rest : List Char} (begins : middle.rest = character :: rest) :
      (middle.advance 1).Within text (start + 1) := there.advance (by simp [begins])
  have two {first second : Char} {rest : List Char}
      (begins : middle.rest = first :: second :: rest) :
      (middle.advance 2).Within text (start + 1) := there.advance (by simp [begins])
  refine .looking (.looking ?_)
  split
  · exact readNote_built offset there
  · next begins =>
      exact .skipping (some_built (readBody_built builds id (fun _ _ => .scope) offset
        (one begins)))
  · next begins =>
      refine .skipping ((readBody_built builds .atomic (fun _ _ => .atomic) offset
        (one begins)).bind ?_)
      rintro body after ⟨length, built, there⟩
      exact .pure ⟨length, given built, there⟩
  · next begins =>
      exact .skipping (some_built (readLookAround_built builds _ _ offset (one begins)))
  · next begins =>
      exact .skipping (some_built (readLookAround_built builds _ _ offset (one begins)))
  · next begins =>
      exact .skipping (some_built (readLookAround_built builds _ _ offset (two begins)))
  · next begins =>
      exact .skipping (some_built (readLookAround_built builds _ _ offset (two begins)))
  · next begins => exact .skipping (some_built (readNamedGroup_built builds _ offset (one begins)))
  · next begins => exact .skipping (some_built (readNamedGroup_built builds _ offset (one begins)))
  · next begins => exact .skipping (some_built (readNamedGroup_built builds _ offset (two begins)))
  · next begins =>
      refine .skipping ((readGroupName_moves (two begins) ')').ensures.bind
        fun name last there => ?_)
      exact .looking (.pure ⟨1, given (.backReference _ _ _), there⟩)
  · next begins => exact .skipping (some_built (readConditional_built builds offset (one begins)))
  · split
    · exact readOptions_built builds offset there
    · exact .thrown _
  · exact .thrown _

end Inner

/-! ## Atoms -/

/-- The backslash and the letter behind it pay for what an escape stands for. -/
theorem readEscape_built (here : before.Within text (start + 1)) (begun : offset ≤ text.length) :
    Ensures (readEscape offset) before fun atom? after =>
      after.Spans text start (AtomOf enclosed atom?) := by
  refine ((readEscape_keeps offset before).and (readEscape_moves here begun).ensures).weaken ?_
  rintro atom? after ⟨⟨-, simple⟩, there⟩
  replace there : after.Within text (start + 2) := there.since (Nat.succ_le_succ here.least_le)
  cases atom? with
  | none => exact none_built (there.since (Nat.le_add_right start 2))
  | some atom =>
      have given {length : Nat} (built : Atom enclosed length atom) :
          AtomOf enclosed (some atom) length := by simpa [AtomOf] using built
      cases simple atom rfl with
      | anyLineEnd => exact ⟨2, given .anyLineEnd, there⟩
      | char matcher => exact ⟨1, given (.char matcher), there.since (by omega)⟩
      | assert assertion => exact ⟨1, given (.assert assertion), there.since (by omega)⟩
      | backReference => exact ⟨1, given (.backReference _ _ _), there.since (by omega)⟩

section Inner

variable {inner : Inner} (builds : inner.Builds enclosed)
include builds

theorem readAtom_built {first : Char} {rest : List Char} (here : before.Within text start)
    (begins : before.rest = first :: rest) :
    Ensures (readAtom inner first) before fun atom? after =>
      after.Spans text start (AtomOf enclosed atom?) := by
  have there := here.past begins
  have single {atom : Pattern} (built : Atom enclosed 1 atom) :
      (before.advance 1).Spans text start (AtomOf enclosed (some atom)) :=
    ⟨1, by simpa [AtomOf] using built, there⟩
  refine .looking (.looking (.skipping ?_))
  split
  · exact readGroup_built builds there here.position_le
  · refine (Bracket.read_moves there here.position_le).ensures.bind fun set after there => ?_
    exact .pure ⟨1, by simpa [AtomOf] using .char _, there⟩
  · exact readEscape_built there here.position_le
  · exact .pure (single (.char _))
  · exact .pure (single (.assert _))
  · exact .pure (single (.assert _))
  · exact .looking (.pure (single (.char _)))

/-! ## Sequences and branches -/

variable (enclosed) in
omit builds in
theorem readLiterals_built (characters : List Char) (here : before.Within text least) :
    Ensures (characters.mapM literal) before fun literals after =>
      All (Piece enclosed) characters.length literals ∧ after.Within text least := by
  induction characters generalizing before with
  | nil => exact .pure ⟨.nil, here⟩
  | cons character characters ih =>
      rw [List.mapM_cons]
      refine (literal_built enclosed character here).bind ?_
      rintro first middle ⟨built, there⟩
      refine (ih there).bind ?_
      rintro rest after ⟨pieces, there⟩
      rw [List.length_cons, Nat.add_comm]
      exact .pure ⟨.cons (.once built) pieces, there⟩

omit builds in
theorem readQuoted_built {rest : List Char} (here : before.Within text start)
    (begins : before.rest = '\\' :: 'Q' :: rest) :
    Ensures readQuoted before fun pieces after =>
      after.Spans text start (All (Piece enclosed) · pieces) := by
  have there : (before.advance 2).Within text start := here.advance (by simp [begins])
  refine .skipping (.looking ?_)
  dsimp only
  have enough := Scan.length_quoted_le (before.advance 2).rest
  have fits := Scan.quoted_length_le (before.advance 2).rest
  generalize Scan.quoted (before.advance 2).rest = found at enough fits
  obtain ⟨quoted, length⟩ := found
  replace there := (there.fromHere.onward fits).since (Nat.add_le_add_right there.least_le length)
  refine .skipping ?_
  split
  · exact .pure ⟨0, .nil, there.since (Nat.le_add_right start length)⟩
  · next last ends =>
      have split : quoted.length = quoted.dropLast.length + 1 := by
        cases quoted with
        | nil => cases ends
        | cons => simp
      refine (readLiterals_built enclosed quoted.dropLast there).bind ?_
      rintro literals middle ⟨pieces, there⟩
      refine (literal_built enclosed last there).bind ?_
      rintro atom after ⟨built, there⟩
      have counted : after.Within text (start + quoted.dropLast.length + 1) :=
        there.since (by dsimp only at enough; omega)
      refine (readQuantifier_built built false counted).bind ?_
      rintro repeated after ⟨more, piece, there⟩
      rw [Nat.add_assoc] at there
      exact .pure ⟨_, pieces.append (.one piece), there⟩

theorem readPiece_built {first : Char} {rest : List Char} (here : before.Within text start)
    (begins : before.rest = first :: rest) :
    Ensures (readPiece inner first) before fun pieces after =>
      after.Spans text start (All (Piece enclosed) · pieces) := by
  refine .looking ?_
  split
  · next quotes => exact readQuoted_built here quotes
  · refine (readAtom_built builds here begins).bind ?_
    rintro atom? middle ⟨length, built, there⟩
    split
    · exact .pure ⟨0, .nil, there.since (Nat.le_add_right start length)⟩
    · next atom =>
        refine (readQuantifier_built (built atom rfl) _ there).bind ?_
        rintro pattern after ⟨more, piece, there⟩
        exact .pure ⟨more, .one piece, there⟩

/-- What is read so far stands in reverse order. -/
theorem readItems_built {fuel : Nat} {items : List Pattern}
    (pieces : All (Piece enclosed) length items.reverse)
    (here : before.Within text (start + length)) :
    Ensures (readItems inner fuel items) before fun items after =>
      after.Spans text start (All (Piece enclosed) · items.reverse) := by
  induction fuel generalizing before items length with
  | zero => exact .pure ⟨length, pieces, here⟩
  | succ fuel ih =>
      refine (skipTrivia_moves here).ensures.bind fun _ middle there => .looking ?_
      split
      · exact .pure ⟨length, pieces, there⟩
      · next first rest begins =>
          split
          · exact .pure ⟨length, pieces, there⟩
          split
          · exact .thrown _
          refine (readPiece_built builds there begins).bind ?_
          rintro piece after ⟨more, built, there⟩
          refine ih ?_ (Nat.add_assoc .. ▸ there)
          rw [List.reverse_append, List.reverse_reverse]
          exact pieces.append built

theorem readSequence_built (here : before.Within text start) :
    Ensures (readSequence inner) before fun pattern after =>
      after.Spans text start fun length =>
        ∃ items, All (Piece enclosed) length items ∧ pattern = Pattern.sequence items := by
  have none : All (Piece enclosed) 0 ([] : List Pattern).reverse := .nil
  refine .looking ((readItems_built builds none here).bind ?_)
  rintro items after ⟨length, pieces, there⟩
  exact .pure ⟨length, ⟨items.reverse, pieces, rfl⟩, there⟩

theorem readMoreBranches_built {fuel : Nat} {branches : List Pattern}
    (begin : Branches enclosed length branches.reverse)
    (here : before.Within text (start + length)) :
    Ensures (readMoreBranches inner fuel branches) before fun branches after =>
      after.Spans text start (Branches enclosed · branches.reverse) := by
  induction fuel generalizing before branches length with
  | zero => exact .pure ⟨length, begin, here⟩
  | succ fuel ih =>
      refine .accepted (fun rest bar => ?_) fun _ => .pure ⟨length, begin, here⟩
      refine (readSequence_built builds (here.past bar)).bind ?_
      rintro _ after ⟨more, ⟨items, pieces, rfl⟩, there⟩
      refine ih ?_ (there.since (Nat.le_of_eq ?_) : after.Within text (start + (length + 1 + more)))
      · rw [List.reverse_cons]
        exact begin.behind pieces
      · omega

theorem readBranchesWith_built (here : before.Within text start) :
    Ensures (readBranchesWith inner) before fun branches after =>
      after.Spans text start (Branches enclosed · branches) := by
  refine (readSequence_built builds here).bind ?_
  rintro _ middle ⟨length, ⟨items, pieces, rfl⟩, there⟩
  refine .looking ((readMoreBranches_built builds (.last pieces) there).bind ?_)
  exact fun branches after spans => .pure spans

end Inner

theorem readBranches_built (limit depth : Nat) (here : before.Within text start) :
    Ensures (readBranches limit depth) before fun branches after =>
      after.Spans text start (Built depth · branches) := by
  induction depth generalizing text start before with
  | zero => exact readBranchesWith_built (fun _ impossible => by cases impossible) here
  | succ depth ih =>
      refine readBranchesWith_built ?_ here
      rintro reading ⟨⟩ text start before here
      exact ih here

end Reader

/-- A pattern is built from no more characters than its text has, with parentheses nested no deeper
than they may be. -/
theorem ParsedPattern.parseWithin_built {limit : Nat} {text : List Char} {flags : Flags}
    {parsed : ParsedPattern} (read : parseWithin limit text flags = .ok parsed) :
    ∃ length branches, Built limit length branches ∧ length ≤ text.length ∧
      parsed.pattern = Pattern.choice branches := by
  have here : ({ rest := text, flags := flags } : Cursor).Within text 0 :=
    ⟨rfl, Nat.zero_le _, Nat.le_refl _⟩
  simp only [parseWithin] at read
  cases run : (Reader.readBranches limit limit).run { rest := text, flags := flags } with
  | error error =>
      rw [run] at read
      cases read
  | ok result =>
      obtain ⟨branches, cursor⟩ := result
      obtain ⟨length, built, there⟩ :=
        Reader.readBranches_built limit limit here branches cursor run
      rw [run] at read
      change (if cursor.rest.isEmpty then Except.ok _ else Except.error _) = _ at read
      split at read
      · cases read
        have inside := Nat.le_trans there.least_le there.position_le
        exact ⟨length, branches, built, by omega, rfl⟩
      · cases read

end Backtracking
