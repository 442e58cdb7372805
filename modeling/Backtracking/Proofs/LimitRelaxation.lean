import Backtracking.Proofs.Running

/-!
# Relaxing the limits

A limit only cuts an attempt off.  An attempt that comes to an end within some limits comes to the
same end, with the same registers, when nothing is allowed less than before: neither depth nor steps
nor the number of steps that are left.
-/

namespace Backtracking

namespace Limits

/-- Some limits allow whatever others do. -/
structure Relaxes (loose tight : Limits) : Prop where
  depth : tight.maxDepth ≤ loose.maxDepth
  steps : ∀ limit, loose.maxSteps = some limit → ∃ bound ≤ limit, tight.maxSteps = some bound

theorem Relaxes.refl (limits : Limits) : limits.Relaxes limits :=
  ⟨Nat.le_refl _, fun limit bounded => ⟨limit, Nat.le_refl _, bounded⟩⟩

end Limits

namespace Trial

open Running

def limited (trial : Trial) (limits : Limits) : Trial := { trial with limits := limits }

/-- What one continuation does, another one does too. -/
def Exceeds (origin : Registers) (loose tight : Continuation) : Prop :=
  ∀ id position, Follows origin (tight id position) (loose id position)

section Pieces

variable {origin : Registers} {tight loose tightTwo looseTwo : Continuation}

theorem enterGroup_follows (exceeds : Exceeds origin loose tight) (group : Nat) (next : NodeId)
    (position : Nat) :
    Follows origin (enterGroup tight group next position)
      (enterGroup loose group next position) := by
  refine .registers fun registers alike => ?_
  refine .change (.setOpened group _) ?_
  exact .undoing (.setOpened group _) (exceeds next position)

theorem leaveGroup_follows (exceeds : Exceeds origin loose tight) (group : Nat) (next : NodeId)
    (position : Nat) :
    Follows origin (leaveGroup tight group next position)
      (leaveGroup loose group next position) := by
  refine .registers fun registers alike => ?_
  refine .registers fun _ alike => ?_
  refine .change (.closeGroup group position) ?_
  exact .undoing (.reopen group _ _) (exceeds next position)

theorem tryAlternatives_follows (exceeds : Exceeds origin loose tight) (position : Nat)
    (alternatives : List NodeId) :
    Follows origin (tryAlternatives tight position alternatives)
      (tryAlternatives loose position alternatives) := by
  induction alternatives with
  | nil => exact .pure _
  | cons alternative alternatives ih =>
      cases alternatives with
      | nil => exact .pure _
      | cons second rest =>
          apply (exceeds alternative position).bind
          intro answer
          cases answer with
          | none => exact ih
          | some stop => exact .pure _

theorem iterate_follows (exceeds : Exceeds origin looseTwo tightTwo) (slot : Nat) (body : NodeId)
    (position : Nat) :
    Follows origin (iterate tightTwo slot body position) (iterate looseTwo slot body position) := by
  refine .registers fun registers alike => ?_
  refine .change (.setLoop slot _) ?_
  exact .undoing (.setLoop slot _) (exceeds body position)

theorem loopStep_follows (trial : Trial) (limits : Limits) (exceeds : Exceeds origin loose tight)
    (exceedsTwo : Exceeds origin looseTwo tightTwo) (head : NodeId) (position : Nat) :
    Follows origin (trial.loopStep tight tightTwo head position)
      ((trial.limited limits).loopStep loose looseTwo head position) := by
  show Follows origin (trial.loopStep tight tightTwo head position)
    (trial.loopStep loose looseTwo head position)
  unfold loopStep
  split
  · next slot least most greedy body next _ =>
      refine .registers fun registers alike => ?_
      dsimp only
      split
      · exact iterate_follows exceedsTwo slot body position
      split
      · exact exceeds next position
      split
      · apply (iterate_follows exceedsTwo slot body position).bind
        intro answer
        cases answer with
        | none => exact exceeds next position
        | some stop => exact .pure _
      · apply (exceeds next position).bind
        intro answer
        cases answer with
        | none => exact iterate_follows exceedsTwo slot body position
        | some stop => exact .pure _
  · exact .pure _

theorem enterLoop_follows (trial : Trial) (limits : Limits) (exceeds : Exceeds origin loose tight)
    (exceedsTwo : Exceeds origin looseTwo tightTwo) (head : NodeId) (slot position : Nat) :
    Follows origin (trial.enterLoop tight tightTwo head slot position)
      ((trial.limited limits).enterLoop loose looseTwo head slot position) := by
  refine .registers fun registers alike => ?_
  refine .change (.setLoop slot _) ?_
  exact .undoing (.setLoop slot _) (loopStep_follows trial limits exceeds exceedsTwo head position)

theorem endIteration_follows (trial : Trial) (limits : Limits)
    (exceeds : Exceeds origin loose tight) (exceedsTwo : Exceeds origin looseTwo tightTwo)
    (head : NodeId) (position : Nat) :
    Follows origin (trial.endIteration tight tightTwo head position)
      ((trial.limited limits).endIteration loose looseTwo head position) := by
  show Follows origin _ (trial.endIteration loose looseTwo head position)
  unfold endIteration
  split
  · refine .registers fun registers alike => ?_
    refine .change (.setLoop _ _) ?_
    exact .undoing (.setLoop _ _)
      (loopStep_follows trial limits exceeds exceedsTwo head position)
  · exact .pure _

theorem giveBack_follows (exceeds : Exceeds origin loose tight) (next : NodeId)
    (position least count : Nat) :
    Follows origin (giveBack tight next position least count)
      (giveBack loose next position least count) := by
  induction count with
  | zero => exact .pure _
  | succ count ih =>
      unfold giveBack
      split
      · apply (exceeds next _).bind
        intro answer
        cases answer with
        | none => exact ih
        | some stop => exact .pure _
      · exact .pure _

theorem takeMore_follows (trial : Trial) (limits : Limits) (exceeds : Exceeds origin loose tight)
    (matcher : CharMatcher) (next : NodeId) (position room count : Nat) :
    Follows origin (trial.takeMore tight matcher next position room count)
      ((trial.limited limits).takeMore loose matcher next position room count) := by
  induction room generalizing count with
  | zero =>
      unfold takeMore
      apply (exceeds next _).bind
      intro answer
      cases answer <;> exact .pure _
  | succ room ih =>
      unfold takeMore
      apply (exceeds next _).bind
      intro answer
      cases answer with
      | none =>
          exact .ite (ih (count + 1)) (.pure _)
      | some stop => exact .pure _

theorem iteratePossessively_follows (exceeds : Exceeds origin loose tight) (body : NodeId)
    (least : Nat) (most : Option Nat) (fuel count position : Nat) :
    Follows origin (iteratePossessively tight body least most fuel count position)
      (iteratePossessively loose body least most fuel count position) := by
  induction fuel generalizing count position with
  | zero => exact .pure _
  | succ fuel ih =>
      unfold iteratePossessively
      split
      · apply (exceeds body position).bind
        intro answer
        cases answer with
        | none => exact .pure _
        | some stop =>
            dsimp only
            split
            · exact .pure _
            · exact ih (count + 1) stop
      · exact .pure _

theorem repeatPossessively_follows (trial : Trial) (limits : Limits)
    (exceeds : Exceeds origin loose tight) (body : NodeId) (least : Nat) (most : Option Nat)
    (next : NodeId) (position : Nat) :
    Follows origin (trial.repeatPossessively tight body least most next position)
      ((trial.limited limits).repeatPossessively loose body least most next position) := by
  refine .registers fun before alike => ?_
  apply (iteratePossessively_follows exceeds body least most _ 0 position).bind
  rintro ⟨count, stop⟩
  dsimp only
  split
  · exact .change (.goBack trial alike) (.pure _)
  · exact .undoing (.goBack trial alike) (exceeds next stop)

theorem runAtomic_follows (trial : Trial) (limits : Limits) (exceeds : Exceeds origin loose tight)
    (body next : NodeId) (position : Nat) :
    Follows origin (trial.runAtomic tight body next position)
      ((trial.limited limits).runAtomic loose body next position) := by
  refine .registers fun before alike => ?_
  apply (exceeds body position).bind
  intro answer
  cases answer with
  | none => exact .pure _
  | some stop => exact .undoing (.goBack trial alike) (exceeds next stop)

theorem matchesBehind_follows (trial : Trial) (limits : Limits)
    (exceeds : Exceeds origin loose tight) {before : Registers} (alike : before.Alike origin)
    (position : Nat) (branches : List (Nat × NodeId)) :
    Follows origin (trial.matchesBehind tight before position branches)
      ((trial.limited limits).matchesBehind loose before position branches) := by
  induction branches with
  | nil => exact .pure _
  | cons branch branches ih =>
      obtain ⟨width, body⟩ := branch
      unfold matchesBehind
      split
      · apply (exceeds body _).bind
        intro answer
        cases answer with
        | none => exact ih
        | some stop =>
            dsimp only
            split
            · exact .pure _
            · exact .change (.goBack trial alike) ih
      · exact ih

theorem afterLookAround_follows (trial : Trial) (limits : Limits)
    {tightAgain looseAgain : Continuation} (exceeds : Exceeds origin loose tight)
    (exceedsAgain : Exceeds origin looseAgain tightAgain) {before : Registers}
    (alike : before.Alike origin) (matched negated : Bool) (next : NodeId) (position : Nat) :
    Follows origin (trial.afterLookAround tight tightAgain before matched negated next position)
      ((trial.limited limits).afterLookAround loose looseAgain before matched negated next
        position) := by
  cases matched <;> cases negated
  · exact .pure _
  · exact exceedsAgain next position
  · exact .undoing (.goBack trial alike) (exceeds next position)
  · exact .change (.goBack trial alike) (.pure _)

theorem visit_follows (trial : Trial) {limits : Limits} (relaxes : limits.Relaxes trial.limits) :
    Follows origin trial.visit (trial.limited limits).visit := by
  intro execution fewer result after alike fewerLe runs
  rw [run_visit] at runs
  obtain ⟨allowed, rfl⟩ := Prod.mk.injEq .. ▸ runs
  refine ⟨alike, Nat.le_succ _, fun value equal => ⟨fewer + 1, Nat.succ_le_succ fewerLe, ?_⟩⟩
  rw [equal] at allowed
  rw [run_visit]
  simp only [limited]
  cases loose : limits.maxSteps with
  | none => rfl
  | some limit =>
      obtain ⟨bound, boundLe, tight⟩ := relaxes.steps limit loose
      have within : ¬execution.steps + 1 > bound := by
        intro exceeded
        simp [tight, exceeded] at allowed
      dsimp only
      rw [if_neg (by omega)]

theorem pass_follows (trial : Trial) (limits : Limits)
    {tight loose tightTwo looseTwo tightAgain looseAgain : Continuation}
    (exceeds : Exceeds origin loose tight) (exceedsTwo : Exceeds origin looseTwo tightTwo)
    (again : Exceeds origin looseAgain tightAgain) (id : NodeId) (position : Nat) (node : Node) :
    Follows origin (trial.pass tight tightTwo tightAgain id position node)
      ((trial.limited limits).pass loose looseTwo looseAgain id position node) := by
  cases node with
  | done => exact .pure _
  | char matcher next =>
      exact .ite (again next _) (.pure _)
  | literal text ignoresCase next =>
      exact .ite (again next _) (.pure _)
  | assert assertion next =>
      refine .registers fun registers alike => ?_
      exact .ite (again next position) (.pure _)
  | groupStart group next => exact enterGroup_follows exceeds group next position
  | groupEnd group next => exact leaveGroup_follows exceeds group next position
  | backReference group ignoresCase next =>
      refine .registers fun registers alike => ?_
      cases registers.capture? group with
      | none => exact .pure _
      | some span => exact .ite (again next _) (.pure _)
  | alternation alternatives =>
      apply (tryAlternatives_follows exceeds position alternatives).bind
      rintro ⟨_ | stop, _ | last⟩
      · exact .pure _
      · exact again last position
      · exact .pure _
      · exact .pure _
  | loopHead slot least most greedy body next =>
      exact enterLoop_follows trial limits exceeds exceedsTwo id slot position
  | loopTail head => exact endIteration_follows trial limits exceeds exceedsTwo head position
  | charRepeat matcher least most mode next =>
      refine .ite (.ite ?_ (.pure _)) (.ite (.pure _) (.ite ?_ (again next _)))
      · exact takeMore_follows trial limits exceeds matcher next position _ least
      · apply (giveBack_follows exceeds next position least _).bind
        intro answer
        cases answer with
        | none => exact again next _
        | some stop => exact .pure _
  | possessive body least most next =>
      exact repeatPossessively_follows trial limits exceeds body least most next position
  | atomic body next => exact runAtomic_follows trial limits exceeds body next position
  | lookAhead body negated next =>
      refine .registers fun before alike => ?_
      apply (exceeds body position).bind
      intro answer
      exact afterLookAround_follows trial limits exceeds again alike answer.isSome negated next
        position
  | lookBehind branches negated next =>
      refine .registers fun before alike => ?_
      apply (matchesBehind_follows trial limits exceeds alike position branches).bind
      intro matched
      exact afterLookAround_follows trial limits exceeds again alike matched negated next position
  | conditional group yes no =>
      refine .registers fun registers alike => ?_
      exact again _ position

theorem walk_follows (trial : Trial) {limits : Limits} (relaxes : limits.Relaxes trial.limits)
    {tight loose tightTwo looseTwo : Continuation} (exceeds : Exceeds origin loose tight)
    (exceedsTwo : Exceeds origin looseTwo tightTwo) (fuel : Nat) :
    Exceeds origin ((trial.limited limits).walk loose looseTwo fuel)
      (trial.walk tight tightTwo fuel) := by
  induction fuel with
  | zero => exact fun _ _ => .pure _
  | succ fuel ih =>
      intro id position
      apply (visit_follows trial relaxes).bind
      intro _
      exact pass_follows trial limits exceeds exceedsTwo ih id position (trial.program.node id)

theorem run_follows (trial : Trial) {limits : Limits} (relaxes : limits.Relaxes trial.limits)
    {levels more : Nat} (enough : levels ≤ more) :
    Exceeds origin ((trial.limited limits).run more) (trial.run levels) := by
  induction levels using Nat.strongRecOn generalizing more with
  | _ levels ih =>
      cases levels with
      | zero => exact fun _ _ => .throw _ _
      | succ levels =>
          obtain ⟨more, rfl⟩ : ∃ fewer, more = fewer + 1 := ⟨more - 1, by omega⟩
          rw [run_succ, run_succ]
          exact walk_follows trial relaxes (ih levels (by omega) (by omega))
            (ih (levels - 1) (by omega) (by omega)) trial.program.size

/-- An attempt that comes to an end comes to the same end when the limits are relaxed. -/
theorem attempt_follows (trial : Trial) {limits : Limits} (relaxes : limits.Relaxes trial.limits)
    (position : Nat) :
    Follows origin (trial.attempt position) ((trial.limited limits).attempt position) := by
  refine .change (fun registers alike => registers.cleared_alike.trans alike) ?_
  exact run_follows trial relaxes (Nat.succ_le_succ relaxes.depth) trial.program.start position

/-- An attempt leaves registers that are alike to those before, even when it exceeds a limit. -/
theorem attempt_alike (trial : Trial) {position : Nat} {before after : Execution}
    {result : Except MatchError (Option Nat)}
    (runs : (trial.attempt position).run.run before = (result, after)) :
    after.registers.Alike before.registers :=
  (attempt_follows trial (.refl trial.limits) position before before.steps result after (.refl _)
    (Nat.le_refl _) runs).1

/-- An attempt takes no step back. -/
theorem attempt_steps_le (trial : Trial) {position : Nat} {before after : Execution}
    {result : Except MatchError (Option Nat)}
    (runs : (trial.attempt position).run.run before = (result, after)) :
    before.steps ≤ after.steps :=
  (attempt_follows trial (.refl trial.limits) position before before.steps result after (.refl _)
    (Nat.le_refl _) runs).2.1

end Pieces

end Trial

end Backtracking
