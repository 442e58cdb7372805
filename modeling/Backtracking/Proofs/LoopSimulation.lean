import Backtracking.Proofs.Realization

/-!
# Simulation of loops

The head and the tail of a loop realize how the repetition goes on, by induction on the number of
iterations that may still come.  Each iteration goes on behind its body at a lower level, where the
slot of the loop tells the number of iterations and where the last one began.
-/

namespace Backtracking

namespace Setting

open Matching Running Trial

section Loop

variable {setting : Setting} {depth : Nat} {groups : List Nat} {slots : Nat}

/-- The levels that a loop takes for some iterations, each of which takes some levels for its body
and two for itself. -/
def loopLevels (levels frames rounds : Nat) : Nat := levels + 1 + rounds * (frames + 2)

variable {body : Matching} {frames slot least levels start : Nat} {most : Option Nat}
  {greedy : Bool} {head first tail next : NodeId} {complete : Completion}
  {frame : Frame setting.sealing}

theorem loopLevels_succ (levels frames rounds : Nat) :
    loopLevels levels frames (rounds + 1) = loopLevels levels frames rounds + frames + 2 := by
  simp only [loopLevels, Nat.succ_mul]
  omega

theorem Proper.slot_lt {registers : Registers} (proper : setting.Proper registers)
    (inside : slot < setting.trial.program.loopSlots) : slot < registers.loops.size := by
  rw [proper.alike.loops_size, setting.loops_size]
  exact inside

theorem Ready.setLoop {position : Nat} {before : Registers}
    (ready : setting.Ready frame start position before) (fresh : slots ≤ slot)
    (avoids : frame.Avoids groups slots) (state : LoopSlot) :
    setting.Ready frame start position (before.setLoop slot state) where
  start_le := ready.start_le
  le_size := ready.le_size
  proper := ⟨(before.setLoop_alike slot state).trans ready.proper.alike, ready.proper.valid⟩
  holds := ready.holds.setLoop avoids fresh state

/-- When what follows fails, the slot of a loop is as it was written, and can be written back. -/
theorem Restored.setLoop {depth : Nat} {before after : Registers} {state : LoopSlot}
    (deep : setting.sealing.loopDepth slot = depth)
    (inside : slot < setting.trial.program.loopSlots) (proper : setting.Proper before)
    (restored : setting.Restored depth (before.setLoop slot state) after) :
    after.loop slot = state ∧
      setting.Restored depth before (after.setLoop slot (before.loop slot)) := by
  refine ⟨?_, ⟨(after.setLoop_alike slot _).trans restored.proper.alike, restored.proper.valid⟩,
    restored.captured_eq, restored.agree.setLoop_back (restored.proper.slot_lt inside)⟩
  rw [restored.agree.loops slot (Nat.lt_succ_of_le (Nat.le_of_eq deep)),
    before.loop_setLoop (proper.slot_lt inside)]

theorem iterates {continuation : Continuation} {position count : Nat} {begun : Option Nat}
    {before : Registers} {expected : Option Outcome} (fresh : slots ≤ slot)
    (avoids : frame.Avoids groups slots) (deep : setting.sealing.loopDepth slot = frame.depth)
    (inside : slot < setting.trial.program.loopSlots)
    (ready : setting.Ready frame start position before)
    (state : before.loop slot = ⟨count, begun⟩)
    (runs : ∀ registers, setting.Ready
        (frame.enter (.loop slot ⟨count, some position⟩) (Nat.le_of_eq deep)) position position
        registers → registers.captured = before.captured →
      (continuation first position).Yields registers
        (setting.Answers frame.depth registers expected)) :
    (iterate continuation slot first position).Yields before
      (setting.Answers frame.depth before expected) := by
  have written := ready.setLoop fresh avoids ⟨count, some position⟩
  have begins : setting.Ready
      (frame.enter (.loop slot ⟨count, some position⟩) (Nat.le_of_eq deep)) position position
      (before.setLoop slot ⟨count, some position⟩) :=
    ⟨Nat.le_refl _, ready.le_size, written.proper, Frame.holds_enter.mpr
      ⟨before.loop_setLoop (ready.proper.slot_lt inside) _, written.holds⟩⟩
  refine .registers (.change ?_)
  rw [state]
  refine undoing (runs _ begins rfl) (Registers.setLoop_agree (Nat.le_of_eq deep.symm) _ before)
    fun after restored => ?_
  obtain ⟨kept, back⟩ := restored.setLoop deep inside ready.proper
  rw [state] at back
  rw [kept]
  exact back

theorem ends_iteration {level position count : Nat} {after : Completion}
    (holds : setting.trial.program.Holds head (.loopHead slot least most greedy first next))
    (closes : setting.trial.program.Holds tail (.loopTail head))
    (fresh : slots ≤ slot) (avoids : frame.Avoids groups slots)
    (deep : setting.sealing.loopDepth slot = frame.depth)
    (inside : slot < setting.trial.program.loopSlots) (begins : start ≤ position)
    (follows : ∀ {higher stop : Nat} {registers : Registers}, level ≤ higher → position ≤ stop →
      setting.Ready frame start stop registers →
      registers.loop slot = ⟨count + 1, some position⟩ →
      (setting.trial.loopStep (setting.trial.run higher) (setting.trial.run (higher - 1)) head
          stop).Yields registers
        (setting.Answers frame.depth registers (after stop registers.captured))) :
    setting.Realizes (frame.enter (.loop slot ⟨count, some position⟩) (Nat.le_of_eq deep)) position
      level tail after := by
  refine .node closes fun {higher fuel stop registers} enough _ reached => ?_
  obtain ⟨kept, holdsAround⟩ := Frame.holds_enter.mp reached.holds
  have kept : registers.loop slot = ⟨count, some position⟩ := kept
  have around : setting.Ready frame start stop registers :=
    ⟨Nat.le_trans begins reached.start_le, reached.le_size, reached.proper, holdsAround⟩
  have goesOn := follows enough reached.start_le
    (around.setLoop fresh avoids ⟨count + 1, some position⟩)
    (registers.loop_setLoop (reached.proper.slot_lt inside) _)
  rw [Trial.pass, endIteration, holds.node_eq]
  refine .registers (.change ?_)
  rw [kept]
  refine undoing goesOn (Registers.setLoop_agree (Nat.le_of_eq deep.symm) _ registers)
    fun final restored => ?_
  obtain ⟨counted, back⟩ := restored.setLoop deep inside reached.proper
  rw [kept] at back
  rw [counted]
  exact back

theorem goes_on (advances : body.Advances setting.subject)
    (holds : setting.trial.program.Holds head (.loopHead slot least most greedy first next))
    (closes : setting.trial.program.Holds tail (.loopTail head))
    (fresh : slots ≤ slot) (avoids : frame.Avoids groups slots)
    (deep : setting.sealing.loopDepth slot = frame.depth)
    (inside : slot < setting.trial.program.loopSlots)
    (leads : setting.Leads frame.depth groups (slot + 1) body frames first tail)
    (realizes : setting.Realizes frame start levels next complete)
    {rounds level position count : Nat} {begun : Option Nat} {before : Registers}
    (fewer : roundsLeft setting.subject.size least count begun position < rounds)
    (enough : loopLevels levels frames rounds ≤ level)
    (ready : setting.Ready frame start position before)
    (state : before.loop slot = ⟨count, begun⟩) :
    (setting.trial.loopStep (setting.trial.run level) (setting.trial.run (level - 1)) head
        position).Yields before
      (setting.Answers frame.depth before (continued body setting.subject.size greedy least most
        complete count begun position before.captured)) := by
  induction rounds generalizing level position count begun before with
  | zero => exact absurd fewer (Nat.not_lt_zero _)
  | succ rounds ih =>
      rw [loopLevels_succ] at enough
      have enter := Nat.le_of_eq deep
      have ending (continues : count < least ∨ begun ≠ some position) :
          setting.Realizes (frame.enter (.loop slot ⟨count, some position⟩) enter) position
            (loopLevels levels frames rounds) tail
            (continued body setting.subject.size greedy least most complete (count + 1)
              (some position)) := by
        refine ends_iteration holds closes fresh avoids deep inside ready.start_le
          fun higher later reached counted => ?_
        have lower := roundsLeft_lt continues later reached.le_size
        exact ih (Nat.lt_of_lt_of_le lower (Nat.le_of_lt_succ fewer)) higher reached counted
      have again (continues : count < least ∨ begun ≠ some position) {middle : Registers}
          (middleReady : setting.Ready frame start position middle)
          (middleState : middle.loop slot = ⟨count, begun⟩) :
          (iterate (setting.trial.run (level - 1)) slot first position).Yields middle
            (setting.Answers frame.depth middle (body.followedBy
              (continued body setting.subject.size greedy least most complete (count + 1)
                (some position)) position middle.captured)) := by
        refine iterates fresh avoids deep inside middleReady middleState
          fun registers begins same => ?_
        rw [← same]
        have bodyRealizes := leads (frame.enter (.loop slot ⟨count, some position⟩) enter) position
          (loopLevels levels frames rounds) _ rfl
          (Frame.avoids_enter.mpr ⟨Nat.lt_succ_self slot,
            avoids.weaken (List.Subset.refl _) (Nat.le_succ_of_le fresh)⟩) (ending continues)
        exact bodyRealizes.runs (by omega) begins
      have leaves {middle : Registers} (middleReady : setting.Ready frame start position middle) :
          (setting.trial.run level next position).Yields middle
            (setting.Answers frame.depth middle (complete position middle.captured)) :=
        realizes.runs (by simp only [loopLevels] at enough; omega) middleReady
      have kept {middle : Registers} (restored : setting.Restored frame.depth before middle) :
          middle.loop slot = ⟨count, begun⟩ := by
        rw [restored.agree.loops slot (Nat.lt_succ_of_le enter), state]
      rw [loopStep, holds.node_eq, continued_eq advances ready.le_size ready.proper.valid]
      refine .registers ?_
      rw [state]
      dsimp only
      split
      · next forced => exact again (.inl forced) ready state
      split
      · exact leaves ready
      next offered =>
      have moved : begun ≠ some position := by
        rintro rfl
        simp at offered
      split
      · refine orElse (again (.inr moved) ready state) (fun _ => rfl) fun middle restored => ?_
        rw [← restored.captured_eq]
        exact leaves (ready.retry restored)
      · refine orElse (leaves ready) (fun _ => rfl) fun middle restored => ?_
        rw [← restored.captured_eq]
        exact again (.inr moved) (ready.retry restored) (kept restored)

/-- A loop takes levels for each of its iterations, of which there are no more than the least number
and one for each character. -/
theorem Leads.loop {mode : RepeatMode} (gives : mode ≠ .possessive)
    (advances : body.Advances setting.subject)
    (holds : setting.trial.program.Holds head
      (.loopHead slot least most (mode = .greedy) first next))
    (closes : setting.trial.program.Holds tail (.loopTail head))
    (fresh : slots ≤ slot) (deep : setting.sealing.loopDepth slot = depth)
    (inside : slot < setting.trial.program.loopSlots)
    (leads : setting.Leads depth groups (slot + 1) body frames first tail) :
    setting.Leads depth groups slots (body.repeated setting.subject.size least most mode)
      (1 + (least + setting.subject.size + 2) * (frames + 2)) head next := by
  intro frame start levels complete same avoids realizes
  subst same
  refine .node holds fun {level fuel position before} enough _ ready => ?_
  have fewer : roundsLeft setting.subject.size least 0 none position <
      least + setting.subject.size + 2 := by
    simp only [roundsLeft, reduceCtorEq, if_false]
    omega
  have levelsEnough : loopLevels levels frames (least + setting.subject.size + 2) ≤ level := by
    rw [loopLevels, Nat.add_assoc]
    exact enough
  have follows := goes_on advances holds closes fresh avoids deep inside leads realizes fewer
    levelsEnough (ready.setLoop fresh avoids {})
    (before.loop_setLoop (ready.proper.slot_lt inside) _)
  rw [repeated_followedBy gives]
  refine .registers (.change ?_)
  exact undoing follows (Registers.setLoop_agree (Nat.le_of_eq deep.symm) _ before)
    fun after restored => (restored.setLoop deep inside ready.proper).2

end Loop

end Setting

end Backtracking
