import Backtracking.Proofs.EnsembleNodes

/-!
# Loops and parts that keep an ensemble together

A loop keeps the attempts together by induction on the levels that are left, for every iteration
goes on at a lower level.  A part that is tried on its own may leave different slots and different
places of groups behind, where nobody reads them: the scopes around it lie less deep.
-/

namespace Backtracking

namespace Ensemble

open Running Trial

variable {ι : Type} {ensemble : Ensemble ι} {depth : Nat} {groups : List Nat} {slots : Nat}

/-! ## Loops -/

section Loop

variable {slot least start level position : Nat} {most : Option Nat} {greedy : Bool}
  {head first tail next : NodeId} {frame : Frame ensemble.sealing} {captured : Captured}
  {before : ι → Registers}

theorem Shares.setLoop (shares : ensemble.Shares captured before) (slot : Nat)
    (state : ι → LoopSlot) :
    ensemble.Shares captured fun index => (before index).setLoop slot (state index) where
  alike index := ((before index).setLoop_alike slot _).trans (shares.alike index)
  captured_eq := shares.captured_eq
  size_eq := shares.size_eq
  coherent := shares.coherent

theorem Shares.slot_lt (shares : ensemble.Shares captured before)
    (inside : slot < ensemble.trial.program.loopSlots) (index : ι) :
    slot < (before index).loops.size := by
  rw [(shares.alike index).loops_size, ensemble.loops_size]
  exact inside

theorem Ready.setLoop (ready : ensemble.Ready frame start position captured before)
    (fresh : slots ≤ slot) (avoids : frame.Avoids groups slots) (state : LoopSlot) :
    ensemble.Ready frame start position captured fun index => (before index).setLoop slot state where
  start_le := ready.start_le
  le_size := ready.le_size
  shares := ready.shares.setLoop slot _
  holds index := (ready.holds index).setLoop avoids fresh state

theorem Restored.setLoop {after : ι → Registers} {state : LoopSlot}
    (deep : ensemble.sealing.loopDepth slot = depth)
    (inside : slot < ensemble.trial.program.loopSlots) (shares : ensemble.Shares captured before)
    (restored : ensemble.Restored depth captured
      (fun index => (before index).setLoop slot state) after) :
    (∀ index, (after index).loop slot = state) ∧
      ensemble.Restored depth captured before fun index =>
        (after index).setLoop slot ((before index).loop slot) := by
  refine ⟨fun index => ?_, restored.shares.setLoop slot _, fun index =>
    (restored.agree index).setLoop_back (restored.shares.slot_lt inside index)⟩
  rw [(restored.agree index).loops slot (Nat.lt_succ_of_le (Nat.le_of_eq deep)),
    (before index).loop_setLoop (shares.slot_lt inside index)]

theorem iterates {lower count : Nat} {begun : Option Nat} (fresh : slots ≤ slot)
    (avoids : frame.Avoids groups slots) (deep : ensemble.sealing.loopDepth slot = frame.depth)
    (inside : slot < ensemble.trial.program.loopSlots)
    (inStep : ensemble.InStep
      (frame.enter (.loop slot ⟨count, some position⟩) (Nat.le_of_eq deep)) position level first)
    (below : lower ≤ level) (ready : ensemble.Ready frame start position captured before)
    (state : ∀ index, (before index).loop slot = ⟨count, begun⟩) :
    ensemble.Together (fun index => iterate (ensemble.runAt lower index) slot first position) before
      (ensemble.Answers frame.depth position captured before) := by
  have written := ready.setLoop fresh avoids ⟨count, some position⟩
  have begins : ensemble.Ready
      (frame.enter (.loop slot ⟨count, some position⟩) (Nat.le_of_eq deep)) position position
      captured fun index => (before index).setLoop slot ⟨count, some position⟩ :=
    ⟨Nat.le_refl _, ready.le_size, written.shares, fun index => Frame.holds_enter.mpr
      ⟨(before index).loop_setLoop (ready.shares.slot_lt inside index) _, written.holds index⟩⟩
  refine .registers (.change ?_)
  simp only [state]
  refine undoing (inStep.runs below begins)
    (fun index => Registers.setLoop_agree (Nat.le_of_eq deep.symm) _ (before index))
    fun after restored => ?_
  obtain ⟨kept, back⟩ := restored.setLoop deep inside ready.shares
  simp only [state] at back
  simp only [kept]
  exact back

/-- Where an iteration ends, it is counted, and the loop goes on. -/
theorem ends_iteration {count : Nat}
    (holds : ensemble.trial.program.Holds head (.loopHead slot least most greedy first next))
    (closes : ensemble.trial.program.Holds tail (.loopTail head))
    (fresh : slots ≤ slot) (avoids : frame.Avoids groups slots)
    (deep : ensemble.sealing.loopDepth slot = frame.depth)
    (inside : slot < ensemble.trial.program.loopSlots) (begins : start ≤ position)
    (follows : ∀ {lower stop : Nat} {captured : Captured} {before : ι → Registers}, lower < level →
      ensemble.Ready frame start stop captured before →
      (∀ index, (before index).loop slot = ⟨count + 1, some position⟩) →
      ensemble.Together (fun index => (ensemble.member index).loopStep
          (ensemble.runAt lower index) (ensemble.runAt (lower - 1) index) head stop) before
        (ensemble.Answers frame.depth stop captured before)) :
    ensemble.InStep (frame.enter (.loop slot ⟨count, some position⟩) (Nat.le_of_eq deep)) position
      level tail := by
  refine .node closes (fun _ _ => trivial) fun {lower fuel stop captured before}
    below _ reached => ?_
  have kept (index : ι) : (before index).loop slot = ⟨count, some position⟩ :=
    (Frame.holds_enter.mp (reached.holds index)).1
  have around : ensemble.Ready frame start stop captured before :=
    ⟨Nat.le_trans begins reached.start_le, reached.le_size, reached.shares, fun index =>
      (Frame.holds_enter.mp (reached.holds index)).2⟩
  have goesOn := follows below (around.setLoop fresh avoids ⟨count + 1, some position⟩)
    fun index => (before index).loop_setLoop (reached.shares.slot_lt inside index) _
  simp only [Trial.pass, endIteration, member_program, holds.node_eq]
  refine .registers (.change ?_)
  simp only [kept]
  refine undoing goesOn
    (fun index => Registers.setLoop_agree (Nat.le_of_eq deep.symm) _ (before index))
    fun after restored => ?_
  obtain ⟨counted, back⟩ := restored.setLoop deep inside reached.shares
  simp only [kept] at back
  simp only [counted]
  exact back

theorem goes_on (holds : ensemble.trial.program.Holds head
      (.loopHead slot least most greedy first next))
    (closes : ensemble.trial.program.Holds tail (.loopTail head))
    (fresh : slots ≤ slot) (avoids : frame.Avoids groups slots)
    (deep : ensemble.sealing.loopDepth slot = frame.depth)
    (inside : slot < ensemble.trial.program.loopSlots)
    (carries : ensemble.Carries frame.depth groups (slot + 1) first tail)
    (inStep : ensemble.InStep frame start level next) {lower count : Nat} {begun : Option Nat}
    (below : lower < level) (ready : ensemble.Ready frame start position captured before)
    (state : ∀ index, (before index).loop slot = ⟨count, begun⟩) :
    ensemble.Together (fun index => (ensemble.member index).loopStep (ensemble.runAt lower index)
        (ensemble.runAt (lower - 1) index) head position) before
      (ensemble.Answers frame.depth position captured before) := by
  induction lower using Nat.strongRecOn generalizing position count begun captured before with
  | _ lower ih =>
      have enter := Nat.le_of_eq deep
      have ending : ensemble.InStep (frame.enter (.loop slot ⟨count, some position⟩) enter)
          position lower tail :=
        ends_iteration holds closes fresh avoids deep inside ready.start_le
          fun less reached counted => ih _ less (Nat.lt_trans less below) reached counted
      have again {middle : ι → Registers}
          (middleReady : ensemble.Ready frame start position captured middle)
          (middleState : ∀ index, (middle index).loop slot = ⟨count, begun⟩) :
          ensemble.Together
            (fun index => iterate (ensemble.runAt (lower - 1) index) slot first position) middle
            (ensemble.Answers frame.depth position captured middle) := by
        have bodyInStep := carries (frame.enter (.loop slot ⟨count, some position⟩) enter) position
          lower rfl (Frame.avoids_enter.mpr ⟨Nat.lt_succ_self slot,
            avoids.weaken (List.Subset.refl _) (Nat.le_succ_of_le fresh)⟩) ending
        exact iterates fresh avoids deep inside bodyInStep (Nat.sub_le lower 1) middleReady
          middleState
      have leaves {middle : ι → Registers}
          (middleReady : ensemble.Ready frame start position captured middle) :
          ensemble.Together (fun index => ensemble.runAt lower index next position) middle
            (ensemble.Answers frame.depth position captured middle) :=
        inStep.runs (Nat.le_of_lt below) middleReady
      have kept {middle : ι → Registers}
          (restored : ensemble.Restored frame.depth captured before middle) (index : ι) :
          (middle index).loop slot = ⟨count, begun⟩ := by
        rw [(restored.agree index).loops slot (Nat.lt_succ_of_le enter), state index]
      simp only [loopStep, member_program, holds.node_eq]
      refine .registers ?_
      simp only [state]
      refine .ite (fun _ => again ready state) fun _ => ?_
      refine .ite (fun _ => leaves ready) fun _ => ?_
      refine .ite (fun _ => ?_) fun _ => ?_
      · refine orElse (again ready state) (fun _ _ => rfl) fun middle restored => ?_
        exact leaves (ready.retry restored)
      · refine orElse (leaves ready) (fun _ _ => rfl) fun middle restored => ?_
        exact again (ready.retry restored) (kept restored)

theorem Carries.loop
    (holds : ensemble.trial.program.Holds head (.loopHead slot least most greedy first next))
    (closes : ensemble.trial.program.Holds tail (.loopTail head))
    (fresh : slots ≤ slot) (deep : ensemble.sealing.loopDepth slot = depth)
    (inside : slot < ensemble.trial.program.loopSlots)
    (carries : ensemble.Carries depth groups (slot + 1) first tail) :
    ensemble.Carries depth groups slots head next := by
  intro frame start level same avoids inStep
  subst same
  refine .node holds (fun _ _ => trivial) fun {lower fuel position captured before}
    below _ ready => ?_
  have follows := goes_on holds closes fresh avoids deep inside carries inStep below
    (ready.setLoop fresh avoids {})
    fun index => (before index).loop_setLoop (ready.shares.slot_lt inside index) _
  refine .registers (.change ?_)
  refine undoing follows
    (fun index => Registers.setLoop_agree (Nat.le_of_eq deep.symm) _ (before index))
    fun after restored => ?_
  exact (restored.setLoop deep inside ready.shares).2

end Loop

/-! ## Parts that are tried on their own -/

section Sealed

variable {start level lower position : Nat} {frame : Frame ensemble.sealing}
  {captured reached : Captured} {before middle : ι → Registers}

/-- Attempts stay together in a part that is tried on its own, one level deeper. -/
theorem Carries.runs {first : NodeId} (done : ensemble.trial.program.Holds Program.done .done)
    (carries : ensemble.Carries (frame.depth + 1) groups slots first Program.done)
    (avoids : frame.Avoids groups slots)
    (ready : ensemble.Ready frame start position captured before) :
    ensemble.Together (fun index => ensemble.runAt level index first position) before
      (ensemble.Answers (frame.depth + 1) position captured before) := by
  have inStep := carries frame.within start level rfl avoids (.done done)
  exact inStep.runs (Nat.le_refl level) ⟨ready.start_le, ready.le_size, ready.shares, ready.holds⟩

/-- Registers behind a part that was tried on its own. -/
structure Beyond (ensemble : Ensemble ι) (depth : Nat) (reached : Captured)
    (before after : ι → Registers) : Prop where
  shares : ensemble.Shares reached after
  agree : ∀ index, (after index).AgreeBelow ensemble.sealing (depth + 1) (before index)

theorem Beyond.trans {further : Captured} {after : ι → Registers}
    (begins : ensemble.Beyond depth reached before middle)
    (follows : ensemble.Beyond depth further middle after) :
    ensemble.Beyond depth further before after :=
  ⟨follows.shares, fun index => (follows.agree index).trans (begins.agree index)⟩

theorem Restored.beyond (restored : ensemble.Restored depth captured before middle) :
    ensemble.Beyond depth captured before middle :=
  ⟨restored.shares, restored.agree⟩

theorem Beyond.goBack (beyond : ensemble.Beyond depth reached before middle)
    (shares : ensemble.Shares captured before) :
    ensemble.Restored depth captured before fun index =>
      (ensemble.member index).goBack (before index) (middle index) := by
  refine ⟨⟨fun index => ?_, fun index => ?_, shares.size_eq, shares.coherent⟩, fun index => ?_⟩
  · have alike := (beyond.shares.alike index).trans (shares.alike index).symm
    exact (Registers.rolledBack_alike alike _).trans (shares.alike index)
  · exact ((middle index).captured_rolledBack _ (before index)).trans (shares.captured_eq index)
  · exact Registers.rolledBack_agree (beyond.agree index) _

/-- What follows a part that was tried on its own is tried, and the captures go back if it fails. -/
theorem Beyond.undoing (beyond : ensemble.Beyond depth reached before middle)
    (shares : ensemble.Shares captured before) {attempt : ι → Running (Option Nat)}
    (tries : ensemble.Together attempt middle (ensemble.Answers depth start reached middle)) :
    ensemble.Together
      (fun index => Running.undoing ((ensemble.member index).goBack (before index)) (attempt index))
      middle (ensemble.Answers depth start captured before) := by
  refine Ensemble.undoing tries (fun index => (beyond.agree index).weaken (Nat.le_succ depth))
    fun after restored => ?_
  exact (beyond.trans restored.beyond).goBack shares

theorem Ready.beyond (ready : ensemble.Ready frame start position captured before)
    (beyond : ensemble.Beyond frame.depth reached before middle) {stop : Nat}
    (ordered : position ≤ stop) (inside : stop ≤ ensemble.subject.size) :
    ensemble.Ready frame start stop reached middle :=
  ⟨Nat.le_trans ready.start_le ordered, inside, beyond.shares, fun index =>
    (ready.holds index).agree (beyond.agree index)⟩

/-- A continuation behind a part that was tried on its own is tried one level deeper. -/
theorem InStep.runsBeyond {next : NodeId} (inStep : ensemble.InStep frame start level next)
    (below : lower < level) (ready : ensemble.Ready frame start position captured before)
    (beyond : ensemble.Beyond frame.depth reached before middle) {stop : Nat}
    (ordered : position ≤ stop) (inside : stop ≤ ensemble.subject.size) :
    ensemble.Together (fun index =>
      Running.undoing ((ensemble.member index).goBack (before index))
        (ensemble.runAt lower index next stop)) middle
      (ensemble.Answers frame.depth position captured before) := by
  refine beyond.undoing ready.shares ?_
  exact (inStep.runs (Nat.le_of_lt below) (ready.beyond beyond ordered inside)).weaken
    fun _ _ answers => answers.earlier ordered

theorem Carries.atomic {entry first next : NodeId}
    (done : ensemble.trial.program.Holds Program.done .done)
    (holds : ensemble.trial.program.Holds entry (.atomic first next))
    (carries : ensemble.Carries (depth + 1) groups slots first Program.done) :
    ensemble.Carries depth groups slots entry next := by
  intro frame start level same avoids inStep
  subst same
  refine .node holds (fun _ _ => trivial) fun {lower fuel position captured before}
    below _ ready => ?_
  refine .registers ((carries.runs done avoids ready).bind fun answer middle answers => ?_)
  cases answers with
  | fails restored => exact .pure (.fails (restored.weaken (Nat.le_succ _)))
  | succeeds ordered inside shares agree =>
      exact inStep.runsBeyond below ready ⟨shares, agree⟩ ordered inside

/-- The body of a possessive loop is run as often by one attempt as by the others. -/
theorem iterates_possessively (least : Nat) (most : Option Nat) {first : NodeId}
    (done : ensemble.trial.program.Holds Program.done .done)
    (carries : ensemble.Carries (frame.depth + 1) groups slots first Program.done)
    (avoids : frame.Avoids groups slots)
    (ready : ensemble.Ready frame start position captured before) (fuel count : Nat) :
    ensemble.Together (fun index =>
        iteratePossessively (ensemble.runAt level index) first least most fuel count position)
      before fun result after => position ≤ result.2 ∧ result.2 ≤ ensemble.subject.size ∧
        ∃ reached, ensemble.Beyond frame.depth reached before after := by
  have stays {position : Nat} {captured : Captured} {registers : ι → Registers}
      (ready : ensemble.Ready frame start position captured registers) :
      position ≤ position ∧ position ≤ ensemble.subject.size ∧
        ∃ reached, ensemble.Beyond frame.depth reached registers registers :=
    ⟨Nat.le_refl _, ready.le_size, captured, ready.shares, fun _ => .refl _⟩
  induction fuel generalizing count position captured before with
  | zero => exact .pure (stays ready)
  | succ fuel ih =>
      simp only [iteratePossessively]
      refine .ite (fun _ => ?_) fun _ => .pure (stays ready)
      refine (carries.runs done avoids ready).bind fun answer middle answers => ?_
      cases answers with
      | fails restored =>
          exact .pure ⟨Nat.le_refl _, ready.le_size, captured,
            (restored.weaken (Nat.le_succ _)).beyond⟩
      | @succeeds stop reached _ ordered inside shares agree =>
          have beyond : ensemble.Beyond frame.depth reached before middle := ⟨shares, agree⟩
          refine .ite (fun nothing => ?_) fun _ => ?_
          · exact .pure ⟨Nat.le_refl _, ready.le_size, reached, beyond⟩
          · refine (ih (ready.beyond beyond ordered inside) (count + 1)).weaken
              fun result after bounds => ?_
            obtain ⟨later, within, further, beyondToo⟩ := bounds
            exact ⟨Nat.le_trans ordered later, within, further, beyond.trans beyondToo⟩

theorem Carries.possessive {least : Nat} {most : Option Nat} {entry first next : NodeId}
    (done : ensemble.trial.program.Holds Program.done .done)
    (holds : ensemble.trial.program.Holds entry (.possessive first least most next))
    (carries : ensemble.Carries (depth + 1) groups slots first Program.done) :
    ensemble.Carries depth groups slots entry next := by
  intro frame start level same avoids inStep
  subst same
  refine .node holds (fun _ _ => trivial) fun {lower fuel position captured before}
    below _ ready => ?_
  refine .registers ((iterates_possessively least most done carries avoids ready
    (ensemble.subject.size - position + 1) 0).bind fun result middle bounds => ?_)
  obtain ⟨ordered, inside, reached, beyond⟩ := bounds
  refine .ite (fun _ => ?_) fun _ => inStep.runsBeyond below ready beyond ordered inside
  exact .change (.pure (.fails (beyond.goBack ready.shares)))

/-! ## Lookaround -/

/-- Whether a body has matched, and the registers behind it. -/
inductive Finds (ensemble : Ensemble ι) (depth : Nat) (captured : Captured)
    (before : ι → Registers) : Bool → (ι → Registers) → Prop where
  | misses {after : ι → Registers} (restored : ensemble.Restored depth captured before after) :
      Finds ensemble depth captured before false after
  | finds {reached : Captured} {after : ι → Registers}
      (beyond : ensemble.Beyond depth reached before after) :
      Finds ensemble depth captured before true after

/-- Whether something follows a lookaround depends on whether its body has matched. -/
theorem looks_around {negated found : Bool} {fuel next : NodeId}
    (inStep : ensemble.InStep frame start level next) (below : lower < level) (order : next < fuel)
    (ready : ensemble.Ready frame start position captured before)
    (finds : ensemble.Finds frame.depth captured before found middle) :
    ensemble.Together (fun index => (ensemble.member index).afterLookAround
        (ensemble.runAt lower index) (ensemble.walkAt lower fuel index) (before index) found negated
        next position) middle
      (ensemble.Answers frame.depth position captured before) := by
  cases finds with
  | misses restored =>
      cases negated with
      | false => exact .pure (.fails restored)
      | true =>
          exact (inStep.walks below order (ready.retry restored)).weaken
            fun _ _ answers => restored.retry answers
  | finds beyond =>
      cases negated with
      | false => exact inStep.runsBeyond below ready beyond (Nat.le_refl _) ready.le_size
      | true => exact .change (.pure (.fails (beyond.goBack ready.shares)))

theorem Carries.lookAhead {negated : Bool} {entry first next : NodeId}
    (done : ensemble.trial.program.Holds Program.done .done) (order : next < entry)
    (holds : ensemble.trial.program.Holds entry (.lookAhead first negated next))
    (carries : ensemble.Carries (depth + 1) groups slots first Program.done) :
    ensemble.Carries depth groups slots entry next := by
  intro frame start level same avoids inStep
  subst same
  refine .node holds (fun _ _ => trivial) fun {lower fuel position captured before}
    below inside ready => ?_
  refine .registers ((carries.runs done avoids ready).bind fun answer middle answers => ?_)
  refine looks_around inStep below (Nat.lt_of_lt_of_le order inside) ready ?_
  cases answers with
  | fails restored => exact .misses (restored.weaken (Nat.le_succ _))
  | succeeds ordered inside shares agree => exact .finds ⟨shares, agree⟩

theorem finds_behind {branches : List (Nat × NodeId)} {origin : ι → Registers}
    (done : ensemble.trial.program.Holds Program.done .done)
    (carries : ∀ branch ∈ branches,
      ensemble.Carries (frame.depth + 1) groups slots branch.2 Program.done)
    (avoids : frame.Avoids groups slots)
    (ready : ensemble.Ready frame start position captured origin)
    (restored : ensemble.Restored frame.depth captured origin before) :
    ensemble.Together (fun index => (ensemble.member index).matchesBehind
        (ensemble.runAt level index) (origin index) position branches) before
      (ensemble.Finds frame.depth captured origin) := by
  induction branches generalizing before with
  | nil => exact .pure (.misses restored)
  | cons branch branches ih =>
      have further {registers : ι → Registers}
          (restored : ensemble.Restored frame.depth captured origin registers) :=
        ih (fun other member => carries other (by simp [member])) restored
      obtain ⟨width, first⟩ := branch
      simp only [matchesBehind]
      refine .ite (fun fits => ?_) fun _ => further restored
      have backward : ensemble.Ready frame 0 (position - width) captured before :=
        ⟨Nat.zero_le _, Nat.le_trans (Nat.sub_le _ _) ready.le_size, restored.shares, fun index =>
          (ready.holds index).agree (restored.agree index)⟩
      refine ((carries (width, first) (by simp)).runs done avoids backward).bind
        fun answer middle answers => ?_
      cases answers with
      | fails again => exact further (restored.trans (again.weaken (Nat.le_succ _)))
      | @succeeds stop reached _ ordered inside shares agree =>
          have beyond : ensemble.Beyond frame.depth reached before middle := ⟨shares, agree⟩
          refine .ite (fun _ => .pure (.finds (restored.beyond.trans beyond))) fun _ => ?_
          exact .change (further ((restored.beyond.trans beyond).goBack ready.shares))

theorem Carries.lookBehind {branches : List (Nat × NodeId)} {negated : Bool} {entry next : NodeId}
    (done : ensemble.trial.program.Holds Program.done .done) (order : next < entry)
    (holds : ensemble.trial.program.Holds entry (.lookBehind branches negated next))
    (carries : ∀ branch ∈ branches,
      ensemble.Carries (depth + 1) groups slots branch.2 Program.done) :
    ensemble.Carries depth groups slots entry next := by
  intro frame start level same avoids inStep
  subst same
  refine .node holds (fun _ _ => trivial) fun {lower fuel position captured before}
    below inside ready => ?_
  refine .registers ((finds_behind done carries avoids ready (.refl ready.shares)).bind
    fun found middle finds => ?_)
  exact looks_around inStep below (Nat.lt_of_lt_of_le order inside) ready finds

end Sealed

end Ensemble

end Backtracking
