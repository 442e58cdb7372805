import Backtracking.Proofs.Compilation
import Backtracking.Proofs.Running
import Backtracking.Search.MatchState

/-!
# Calls that fail

An attempt goes back as far as captures are concerned: whatever part of it fails, of any program and
from any registers on, the captures are then what they were when that part began.  A part that
changes them either changes them back itself, or has left this to one that it calls.

The proofs follow the nodes.  Of each it is shown that it fails with the captures of before if all
continuations do.
-/

namespace Backtracking

namespace Running

variable {α β : Type} {before : Registers}

/-! ## Pieces that come to an end -/

/-- Whenever a piece that starts with some registers comes to an end, its result and the registers
behind it satisfy a condition. -/
def Leaves (computation : Running α) (before : Registers) (condition : α → Registers → Prop) :
    Prop :=
  ∀ steps value after,
    computation.run.run ⟨before, steps⟩ = (.ok value, after) → condition value after.registers

theorem Leaves.pure {condition : α → Registers → Prop} {value : α}
    (holds : condition value before) :
    (Pure.pure value : Running α).Leaves before condition := by
  intro steps result after runs
  cases runs
  exact holds

theorem Leaves.throw {condition : α → Registers → Prop} (error : MatchError) :
    (MonadExcept.throw error : Running α).Leaves before condition := by
  intro steps result after runs
  cases runs

theorem Leaves.bind {computation : Running α} {next : α → Running β}
    {middle : α → Registers → Prop} {condition : β → Registers → Prop}
    (begins : computation.Leaves before middle)
    (follows : ∀ value after, middle value after → (next value).Leaves after condition) :
    (computation >>= next).Leaves before condition := by
  intro steps result after runs
  rw [run_bind] at runs
  split at runs
  · next value reached ends =>
      exact follows value reached.registers (begins steps value reached ends) reached.steps result
        after runs
  · cases runs

theorem Leaves.registers {next : Registers → Running β} {condition : β → Registers → Prop}
    (follows : (next before).Leaves before condition) :
    (Running.registers >>= next).Leaves before condition :=
  fun steps => follows steps

theorem Leaves.change {update : Registers → Registers} {next : Unit → Running β}
    {condition : β → Registers → Prop}
    (follows : (next ()).Leaves (update before) condition) :
    (Running.change update >>= next).Leaves before condition :=
  fun steps => follows steps

theorem Leaves.visit {trial : Trial} {next : Unit → Running β} {condition : β → Registers → Prop}
    (follows : (next ()).Leaves before condition) :
    (trial.visit >>= next).Leaves before condition := by
  intro steps result after runs
  rw [run_bind, run_visit] at runs
  split at runs
  · next counted =>
      obtain ⟨-, rfl⟩ := Prod.mk.injEq .. ▸ counted
      exact follows (steps + 1) result after runs
  · cases runs

theorem Leaves.ite {decision : Prop} [Decidable decision] {yes no : Running α}
    {condition : α → Registers → Prop} (left : yes.Leaves before condition)
    (right : no.Leaves before condition) :
    (if decision then yes else no).Leaves before condition := by
  split
  · exact left
  · exact right

/-! ## Pieces that fail -/

/-- A result that is a failure leaves some captures. -/
def Undone (captured : Captured) (result : Option Nat) (after : Registers) : Prop :=
  result = none → after.captured = captured

variable {captured : Captured}

theorem Leaves.fails (same : before.captured = captured) :
    (Pure.pure none : Running (Option Nat)).Leaves before (Undone captured) :=
  .pure fun _ => same

theorem Leaves.succeeds (stop : Nat) :
    (Pure.pure (some stop) : Running (Option Nat)).Leaves before (Undone captured) :=
  .pure nofun

theorem Leaves.orElse {first : Running (Option Nat)} {next : Option Nat → Running (Option Nat)}
    (tries : first.Leaves before (Undone captured))
    (keeps : ∀ stop, next (some stop) = Pure.pure (some stop))
    (retries : ∀ middle, middle.captured = captured →
      (next none).Leaves middle (Undone captured)) :
    (first >>= next).Leaves before (Undone captured) := by
  refine tries.bind fun result middle undone => ?_
  cases result with
  | none => exact retries middle (undone rfl)
  | some stop =>
      rw [keeps]
      exact .succeeds stop

/-- Registers that were changed are changed back where what follows fails. -/
theorem Leaves.undoing {update : Registers → Registers} {attempt : Running (Option Nat)}
    (tries : attempt.Leaves before (Undone before.captured))
    (undoes : ∀ after : Registers, after.captured = before.captured →
      (update after).captured = captured) :
    (Running.undoing update attempt).Leaves before (Undone captured) := by
  refine tries.bind fun result middle undone => ?_
  cases result with
  | none => exact .change (.fails (undoes middle (undone rfl)))
  | some stop => exact .succeeds stop

end Running

/-- A continuation that leaves the captures of before wherever it fails. -/
def Continuation.Undoing (continuation : Continuation) : Prop :=
  ∀ id position before captured, before.captured = captured →
    (continuation id position).Leaves before (Running.Undone captured)

namespace Trial

open Running

section Pieces

variable {deeper twoDeeper again : Continuation} {before : Registers} {captured : Captured}

theorem enterGroup_undone (undoing : deeper.Undoing) (group : Nat) (next : NodeId) (position : Nat)
    (same : before.captured = captured) :
    (enterGroup deeper group next position).Leaves before (Undone captured) := by
  refine .registers (.change ?_)
  exact .undoing (undoing next position _ _ rfl) fun _ back => back.trans same

theorem leaveGroup_undone (undoing : deeper.Undoing) (group : Nat) (next : NodeId) (position : Nat)
    (same : before.captured = captured) :
    (leaveGroup deeper group next position).Leaves before (Undone captured) := by
  refine .registers (.registers (.change ?_))
  refine .undoing (undoing next position _ _ rfl) fun after back => ?_
  exact (Registers.captured_reopened back).trans same

theorem tryAlternatives_undone (undoing : deeper.Undoing) (position : Nat)
    (alternatives : List NodeId) (same : before.captured = captured) :
    (tryAlternatives deeper position alternatives).Leaves before
      fun result => Undone captured result.1 := by
  induction alternatives generalizing before with
  | nil => exact .pure fun _ => same
  | cons alternative alternatives ih =>
      cases alternatives with
      | nil => exact .pure fun _ => same
      | cons second rest =>
          refine (undoing alternative position before captured same).bind
            fun result middle undone => ?_
          cases result with
          | none => exact ih (undone rfl)
          | some stop => exact .pure nofun

theorem iterate_undone (undoing : twoDeeper.Undoing) (slot : Nat) (body : NodeId) (position : Nat)
    (same : before.captured = captured) :
    (iterate twoDeeper slot body position).Leaves before (Undone captured) := by
  refine .registers (.change ?_)
  exact .undoing (undoing body position _ _ rfl) fun _ back => back.trans same

theorem loopStep_undone (trial : Trial) (undoing : deeper.Undoing)
    (undoingTwo : twoDeeper.Undoing) (head : NodeId) (position : Nat)
    (same : before.captured = captured) :
    (trial.loopStep deeper twoDeeper head position).Leaves before (Undone captured) := by
  unfold loopStep
  split
  · next slot least most greedy body next _ =>
      refine .registers ?_
      dsimp only
      split
      · exact iterate_undone undoingTwo slot body position same
      split
      · exact undoing next position before captured same
      split
      · refine .orElse (iterate_undone undoingTwo slot body position same) (fun _ => rfl) ?_
        exact fun middle kept => undoing next position middle captured kept
      · refine .orElse (undoing next position before captured same) (fun _ => rfl) ?_
        exact fun middle kept => iterate_undone undoingTwo slot body position kept
  · exact .fails same

theorem enterLoop_undone (trial : Trial) (undoing : deeper.Undoing)
    (undoingTwo : twoDeeper.Undoing) (head : NodeId) (slot position : Nat)
    (same : before.captured = captured) :
    (trial.enterLoop deeper twoDeeper head slot position).Leaves before (Undone captured) := by
  refine .registers (.change ?_)
  exact .undoing (loopStep_undone trial undoing undoingTwo head position rfl)
    fun _ back => back.trans same

theorem endIteration_undone (trial : Trial) (undoing : deeper.Undoing)
    (undoingTwo : twoDeeper.Undoing) (head : NodeId) (position : Nat)
    (same : before.captured = captured) :
    (trial.endIteration deeper twoDeeper head position).Leaves before (Undone captured) := by
  unfold endIteration
  split
  · refine .registers (.change ?_)
    exact .undoing (loopStep_undone trial undoing undoingTwo head position rfl)
      fun _ back => back.trans same
  · exact .fails same

theorem giveBack_undone (undoing : deeper.Undoing) (next : NodeId) (position least count : Nat)
    (same : before.captured = captured) :
    (giveBack deeper next position least count).Leaves before (Undone captured) := by
  induction count generalizing before with
  | zero => exact .fails same
  | succ count ih =>
      unfold giveBack
      split
      · exact .orElse (undoing next _ before captured same) (fun _ => rfl) fun _ kept => ih kept
      · exact .fails same

theorem takeMore_undone (trial : Trial) (undoing : deeper.Undoing) (matcher : CharMatcher)
    (next : NodeId) (position room count : Nat) (same : before.captured = captured) :
    (trial.takeMore deeper matcher next position room count).Leaves before (Undone captured) := by
  induction room generalizing count before with
  | zero =>
      unfold takeMore
      exact .orElse (undoing next _ before captured same) (fun _ => rfl) fun _ kept => .fails kept
  | succ room ih =>
      unfold takeMore
      refine .orElse (undoing next _ before captured same) (fun _ => rfl) fun middle kept => ?_
      dsimp only
      split
      · exact ih (count + 1) kept
      · exact .fails kept

/-- Going back restores the captures, whatever has changed them. -/
theorem captured_goBack (trial : Trial) (same : before.captured = captured) (after : Registers) :
    (trial.goBack before after).captured = captured :=
  (after.captured_rolledBack trial.rollback before).trans same

theorem repeatPossessively_undone (trial : Trial) (undoing : deeper.Undoing) (body : NodeId)
    (least : Nat) (most : Option Nat) (next : NodeId) (position : Nat)
    (same : before.captured = captured) :
    (trial.repeatPossessively deeper body least most next position).Leaves before
      (Undone captured) := by
  -- Nothing is known of the captures that the iterations leave, which are given up as a whole.
  have iterates : (iteratePossessively deeper body least most (trial.subject.size - position + 1) 0
      position).Leaves before fun _ _ => True := fun _ _ _ _ => trivial
  refine .registers (iterates.bind fun reached middle _ => ?_)
  obtain ⟨count, stop⟩ := reached
  dsimp only
  split
  · exact .change (.fails (trial.captured_goBack same middle))
  · exact .undoing (undoing next stop _ _ rfl) fun after _ => trial.captured_goBack same after

theorem runAtomic_undone (trial : Trial) (undoing : deeper.Undoing) (body next : NodeId)
    (position : Nat) (same : before.captured = captured) :
    (trial.runAtomic deeper body next position).Leaves before (Undone captured) := by
  refine .registers ((undoing body position before captured same).bind fun result middle undone => ?_)
  cases result with
  | none => exact .fails (undone rfl)
  | some stop =>
      exact .undoing (undoing next stop _ _ rfl) fun after _ => trial.captured_goBack same after

theorem matchesBehind_undone (trial : Trial) (undoing : deeper.Undoing) {origin : Registers}
    (origin_eq : origin.captured = captured) (position : Nat) (branches : List (Nat × NodeId))
    (same : before.captured = captured) :
    (trial.matchesBehind deeper origin position branches).Leaves before
      fun matched after => matched = false → after.captured = captured := by
  induction branches generalizing before with
  | nil => exact .pure fun _ => same
  | cons branch branches ih =>
      obtain ⟨width, body⟩ := branch
      unfold matchesBehind
      split
      · refine (undoing body _ before captured same).bind fun result middle undone => ?_
        cases result with
        | none => exact ih (undone rfl)
        | some stop =>
            dsimp only
            split
            · exact .pure nofun
            · exact .change (ih (trial.captured_goBack origin_eq middle))
      · exact ih same

theorem afterLookAround_undone (trial : Trial) (undoing : deeper.Undoing)
    (undoingAgain : again.Undoing) {origin : Registers} (origin_eq : origin.captured = captured)
    {matched : Bool} (negated : Bool) (next : NodeId) (position : Nat)
    (same : matched = false → before.captured = captured) :
    (trial.afterLookAround deeper again origin matched negated next position).Leaves before
      (Undone captured) := by
  cases matched with
  | false =>
      cases negated with
      | false => exact .fails (same rfl)
      | true => exact undoingAgain next position before captured (same rfl)
  | true =>
      cases negated with
      | false =>
          exact .undoing (undoing next position _ _ rfl)
            fun after _ => trial.captured_goBack origin_eq after
      | true => exact .change (.fails (trial.captured_goBack origin_eq before))

theorem pass_undone (trial : Trial) (undoing : deeper.Undoing) (undoingTwo : twoDeeper.Undoing)
    (undoingAgain : again.Undoing) (id : NodeId) (position : Nat) (node : Node)
    (same : before.captured = captured) :
    (trial.pass deeper twoDeeper again id position node).Leaves before (Undone captured) := by
  have passes (next : NodeId) (stop : Nat) :
      (again next stop).Leaves before (Undone captured) :=
    undoingAgain next stop before captured same
  cases node with
  | done => exact .succeeds position
  | char matcher next => exact .ite (passes next _) (.fails same)
  | literal text ignoresCase next => exact .ite (passes next _) (.fails same)
  | assert assertion next =>
      refine .registers ?_
      exact .ite (passes next position) (.fails same)
  | groupStart group next => exact enterGroup_undone undoing group next position same
  | groupEnd group next => exact leaveGroup_undone undoing group next position same
  | backReference group ignoresCase next =>
      refine .registers ?_
      cases before.capture? group with
      | none => exact .fails same
      | some span => exact .ite (passes next _) (.fails same)
  | alternation alternatives =>
      refine (tryAlternatives_undone undoing position alternatives same).bind ?_
      rintro ⟨_ | stop, last?⟩ middle undone
      · cases last? with
        | none => exact .fails (undone rfl)
        | some last => exact undoingAgain last position middle captured (undone rfl)
      · exact .succeeds stop
  | loopHead slot least most greedy body next =>
      exact enterLoop_undone trial undoing undoingTwo id slot position same
  | loopTail head => exact endIteration_undone trial undoing undoingTwo head position same
  | charRepeat matcher least most mode next =>
      refine .ite (.ite ?_ (.fails same)) (.ite (.fails same) (.ite ?_ (passes next _)))
      · exact takeMore_undone trial undoing matcher next position _ least same
      · refine .orElse (giveBack_undone undoing next position least _ same) (fun _ => rfl) ?_
        exact fun middle kept => undoingAgain next _ middle captured kept
  | possessive body least most next =>
      exact repeatPossessively_undone trial undoing body least most next position same
  | atomic body next => exact runAtomic_undone trial undoing body next position same
  | lookAhead body negated next =>
      refine .registers ((undoing body position before captured same).bind
        fun result middle undone => ?_)
      refine afterLookAround_undone trial undoing undoingAgain same negated next position ?_
      exact fun missed => undone (Option.isNone_iff_eq_none.mp (by simpa using missed))
  | lookBehind branches negated next =>
      refine .registers ((matchesBehind_undone trial undoing same position branches same).bind
        fun matched middle undone => ?_)
      exact afterLookAround_undone trial undoing undoingAgain same negated next position undone
  | conditional group yes no =>
      refine .registers ?_
      exact passes _ position

theorem walk_undone (trial : Trial) (undoing : deeper.Undoing) (undoingTwo : twoDeeper.Undoing)
    (fuel : Nat) : (trial.walk deeper twoDeeper fuel).Undoing := by
  induction fuel with
  | zero => exact fun _ _ _ _ same => .fails same
  | succ fuel ih =>
      intro id position before captured same
      refine .visit ?_
      exact pass_undone trial undoing undoingTwo ih id position (trial.program.node id) same

/-- Where the execution of a program fails, from any node on and with any number of levels left, the
captures are those of before. -/
theorem run_undone (trial : Trial) (levels : Nat) : (trial.run levels).Undoing := by
  induction levels using Nat.strongRecOn with
  | _ levels ih =>
      cases levels with
      | zero => exact fun _ _ _ _ _ => .throw _
      | succ levels =>
          rw [run_succ]
          exact walk_undone trial (ih levels (by omega)) (ih (levels - 1) (by omega))
            trial.program.size

end Pieces

/-! ## Transactions -/

/-- Wherever a call fails, all captures, and the greatest number of a captured group, are what they
were when it was made. -/
def Transactional (call : Running (Option Nat)) : Prop :=
  ∀ before after, call.run.run before = (.ok none, after) →
    after.registers.captures = before.registers.captures ∧
      after.registers.highestGroup = before.registers.highestGroup

theorem transactional_of_leaves {call : Running (Option Nat)}
    (leaves : ∀ before : Registers, call.Leaves before (Undone before.captured)) :
    Transactional call := by
  intro before after fails
  have same : after.registers.captured = before.registers.captured :=
    leaves before.registers before.steps none after fails rfl
  exact ⟨congrArg Captured.spans same, congrArg Captured.highest same⟩

/-- All calls that an attempt is made of are transactional, whatever the program is: those of nodes,
of a loop behind its head or behind an iteration, of one more iteration, of a possessive loop, and
of what follows a lazy run of characters. -/
theorem calls_transactional (trial : Trial) (levels : Nat) :
    (∀ id position, Transactional (trial.run levels id position)) ∧
    (∀ head position,
      Transactional (trial.loopStep (trial.run levels) (trial.run (levels - 1)) head position)) ∧
    (∀ slot body position, Transactional (iterate (trial.run levels) slot body position)) ∧
    (∀ body least most next position,
      Transactional
        (trial.repeatPossessively (trial.run levels) body least most next position)) ∧
    ∀ matcher next position room count,
      Transactional (trial.takeMore (trial.run levels) matcher next position room count) := by
  have undoing := trial.run_undone levels
  refine ⟨fun id position => ?_, fun head position => ?_, fun slot body position => ?_,
    fun body least most next position => ?_, fun matcher next position room count => ?_⟩ <;>
    apply transactional_of_leaves <;> intro before
  · exact undoing id position before _ rfl
  · exact loopStep_undone trial undoing (trial.run_undone (levels - 1)) head position rfl
  · exact iterate_undone undoing slot body position rfl
  · exact repeatPossessively_undone trial undoing body least most next position rfl
  · exact takeMore_undone trial undoing matcher next position room count rfl

/-- In `(?>(a))b` the atomic part captures an `a`, which is taken back when no `b` follows. -/
theorem atomic_transactional :
    ∃ regexp after, Regexp.compile ['(', '?', '>', '(', 'a', ')', ')', 'b'] {} = .ok regexp ∧
      ((MatchState.trial regexp ⟨#['a', 'c']⟩).run 8 regexp.program.start 0).run.run
        ⟨.initial regexp.groupCount regexp.program.loopSlots, 0⟩ = (.ok none, after) ∧
      after.registers.captures = Array.replicate regexp.groupCount none ∧
      after.registers.highestGroup = 0 := by
  let attempt (regexp : Regexp) :=
    ((MatchState.trial regexp ⟨#['a', 'c']⟩).run 8 regexp.program.start 0).run.run
      ⟨.initial regexp.groupCount regexp.program.loopSlots, 0⟩
  have fails : (Regexp.compile ['(', '?', '>', '(', 'a', ')', ')', 'b'] {}).toOption.any
      (fun regexp => (attempt regexp).1.toOption == some none) = true := by
    decide +kernel
  obtain ⟨regexp, compiles, ends⟩ := exists_of_toOption_any fails
  rcases runs : attempt regexp with ⟨_ | answer, after⟩ <;> rw [runs] at ends
  · cases ends
  · obtain rfl : answer = none := by simpa [Except.toOption] using ends
    have transactional := calls_transactional (MatchState.trial regexp ⟨#['a', 'c']⟩) 8
    exact ⟨regexp, after, compiles, runs, transactional.1 regexp.program.start 0 _ after runs⟩

end Trial

end Backtracking
