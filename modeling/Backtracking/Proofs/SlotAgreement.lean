import Backtracking.Proofs.GeneralLoops
import Backtracking.Proofs.PairedRuns

/-!
# Programs with and without a loop

A program with a repetition of one character, and the one with a loop in its place, are executed
side by side.  The registers agree but for the slot of the loop, which the first program does not
have.  Where the loop is not reached, its slot is not touched; and where it is reached but not from
a part that is tried on its own, the slot is what it was whenever the execution fails.

All nodes but one are the same in both programs.  Of each it is shown here that it does the same in
both, if the continuations do.
-/

namespace Backtracking

namespace CharLoop

variable {program : Program} (loop : CharLoop program)

/-! ## Registers -/

/-- Two sets of registers agree but for the slot of the loop, of which the second set holds some
state. -/
structure Alike (state : LoopSlot) (first second : Registers) : Prop where
  hidden : first.setLoop loop.slot {} = second.setLoop loop.slot {}
  state_eq : second.loop loop.slot = state
  reserved : loop.general.loopSlots ≤ second.loops.size

namespace Alike

variable {loop} {state other : LoopSlot} {first second before beforeToo : Registers}

theorem captures_eq (alike : loop.Alike state first second) : first.captures = second.captures :=
  (congrArg Registers.captures alike.hidden :)

theorem opened?_eq (alike : loop.Alike state first second) (group : Nat) :
    first.opened? group = second.opened? group :=
  congrArg (·.opened? group) alike.hidden

theorem highestGroup_eq (alike : loop.Alike state first second) :
    first.highestGroup = second.highestGroup :=
  (congrArg Registers.highestGroup alike.hidden :)

theorem captured_eq (alike : loop.Alike state first second) : first.captured = second.captured :=
  (congrArg Registers.captured alike.hidden :)

theorem capture?_eq (alike : loop.Alike state first second) (group : Nat) :
    first.capture? group = second.capture? group :=
  congrArg (·.capture? group) alike.hidden

theorem scene_eq (alike : loop.Alike state first second) (trial : Trial) :
    trial.scene first = trial.scene second :=
  (congrArg trial.scene alike.hidden :)

theorem loop_eq (alike : loop.Alike state first second) {slot : Nat} (other : loop.slot ≠ slot) :
    first.loop slot = second.loop slot := by
  rw [← first.loop_setLoop_of_ne other {}, alike.hidden, second.loop_setLoop_of_ne other]

theorem update (alike : loop.Alike state first second) (update : Registers → Registers)
    (apart : ∀ registers, (update registers).setLoop loop.slot {} =
      update (registers.setLoop loop.slot {}))
    (loops : ∀ registers, (update registers).loops = registers.loops) :
    loop.Alike state (update first) (update second) where
  hidden := by rw [apart, apart, alike.hidden]
  state_eq := by
    rw [← alike.state_eq, Registers.loop, Registers.loop, loops]
  reserved := by
    rw [loops]
    exact alike.reserved

theorem setLoop_of_ne (alike : loop.Alike state first second) {slot : Nat}
    (different : loop.slot ≠ slot) (entered : LoopSlot) :
    loop.Alike state (first.setLoop slot entered) (second.setLoop slot entered) where
  hidden := by
    have comm (registers : Registers) : (registers.setLoop slot entered).setLoop loop.slot {} =
        (registers.setLoop loop.slot {}).setLoop slot entered := by
      simp only [Registers.setLoop]
      rw [Array.setIfInBounds_comm _ _ different.symm]
    rw [comm, comm, alike.hidden]
  state_eq := (second.loop_setLoop_of_ne different.symm entered).trans alike.state_eq
  reserved := by simpa [Registers.setLoop] using alike.reserved

theorem setLoop (alike : loop.Alike state first second) (reserved : loop.slot < second.loops.size)
    (entered : LoopSlot) : loop.Alike entered first (second.setLoop loop.slot entered) where
  hidden := by
    rw [alike.hidden]
    simp [Registers.setLoop]
  state_eq := second.loop_setLoop reserved entered
  reserved := by simpa [Registers.setLoop] using alike.reserved

theorem goBack (alike : loop.Alike state first second)
    (alikeBefore : loop.Alike other before beforeToo) {trial : Trial}
    (partly : trial.rollback = .captures) :
    loop.Alike state (trial.goBack before first) (trial.goBack beforeToo second) := by
  rw [Trial.goBack, Trial.goBack, partly, Registers.rolledBack, Registers.rolledBack,
    alikeBefore.captures_eq, alikeBefore.highestGroup_eq]
  exact alike.update
    (fun registers => { registers with
      captures := beforeToo.captures, highestGroup := beforeToo.highestGroup })
    (fun _ => rfl) fun _ => rfl

end Alike

/-! ## Pieces that agree -/

/-- What is left behind two pieces with the same result: registers that are alike, with the state of
the slot that was there before, if this has to be so in any case or where they fail. -/
def Keeps (always failing : Prop) (state : LoopSlot) (result : Option Nat)
    (first second : Registers) : Prop :=
  ∃ left, loop.Alike left first second ∧ (always ∨ failing ∧ result = none → left = state)

/-- Two continuations agree at all positions, from all registers that are alike. -/
def Follow (always failing : Prop) (first second : Nat → Running (Option Nat)) : Prop :=
  ∀ position state before beforeToo, loop.Alike state before beforeToo →
    Running.Agree (first position) (second position) before beforeToo
      (loop.Keeps always failing state)

section Pieces

open Running

variable {loop} {always failing : Prop} {state other : LoopSlot} {result : Option Nat}
  {before beforeToo after afterToo : Registers} {deeper deeperToo again againToo : Continuation}

theorem Keeps.weaken {less least : Prop} (keeps : loop.Keeps always failing state result after
    afterToo) (implies : less ∨ least ∧ result = none → always ∨ failing ∧ result = none) :
    loop.Keeps less least state result after afterToo := by
  obtain ⟨left, alike, same⟩ := keeps
  exact ⟨left, alike, fun needed => same (implies needed)⟩

theorem Follow.weaken {first second : Nat → Running (Option Nat)} {less least : Prop}
    (follow : loop.Follow always failing first second) (lessImplies : less → always)
    (leastImplies : least → always ∨ failing) : loop.Follow less least first second := by
  intro position state before beforeToo alike
  refine (follow position state before beforeToo alike).weaken fun result after afterToo keeps =>
    keeps.weaken ?_
  rintro (needed | ⟨needed, failed⟩)
  · exact .inl (lessImplies needed)
  · exact (leastImplies needed).imp id fun holds => ⟨holds, failed⟩

/-- Nothing was changed. -/
theorem Alike.keeps (alike : loop.Alike state before beforeToo) :
    loop.Keeps always failing state result before beforeToo :=
  ⟨state, alike, fun _ => rfl⟩

/-- What two pieces in a row keep, if the first one fails. -/
theorem Keeps.trans (keeps : loop.Keeps always failing other result after afterToo)
    (same : always ∨ failing → other = state) :
    loop.Keeps always failing state result after afterToo := by
  obtain ⟨left, alike, kept⟩ := keeps
  refine ⟨left, alike, fun needed => (kept needed).trans (same ?_)⟩
  exact needed.imp_right And.left

theorem fails_agree (alike : loop.Alike state before beforeToo) :
    Agree (pure none) (pure none) before beforeToo (loop.Keeps always failing state) :=
  .pure alike.keeps

theorem orElse_agree {first second : Running (Option Nat)}
    {next nextToo : Option Nat → Running (Option Nat)}
    (tries : Agree first second before beforeToo (loop.Keeps always failing state))
    (succeeds : ∀ stop, next (some stop) = pure (some stop))
    (succeedsToo : ∀ stop, nextToo (some stop) = pure (some stop))
    (retries : ∀ left after afterToo, (always ∨ failing → left = state) →
      loop.Alike left after afterToo →
      Agree (next none) (nextToo none) after afterToo (loop.Keeps always failing left)) :
    Agree (first >>= next) (second >>= nextToo) before beforeToo
      (loop.Keeps always failing state) := by
  refine tries.bind fun result after afterToo keeps => ?_
  cases result with
  | none =>
      obtain ⟨left, alike, kept⟩ := keeps
      have same : always ∨ failing → left = state :=
        fun needed => kept (needed.imp_right fun holds => ⟨holds, rfl⟩)
      exact (retries left after afterToo same alike).weaken fun _ _ _ keeps => keeps.trans same
  | some stop =>
      rw [succeeds, succeedsToo]
      exact .pure keeps

/-- What was updated is updated again where the rest fails. -/
theorem undoing_agree {update updateToo : Registers → Registers}
    {first second : Running (Option Nat)}
    (tries : Agree first second before beforeToo (loop.Keeps always failing state))
    (undoes : ∀ left after afterToo, loop.Alike left after afterToo →
      loop.Alike left (update after) (updateToo afterToo)) :
    Agree (undoing update first) (undoing updateToo second) before beforeToo
      (loop.Keeps always failing state) := by
  refine tries.undoing ?_ fun stop after afterToo keeps => keeps
  rintro after afterToo ⟨left, alike, kept⟩
  exact ⟨left, undoes left after afterToo alike, kept⟩

theorem enterGroup_agree {next : NodeId} (follow : loop.Follow always failing (deeper next)
    (deeperToo next)) (group position : Nat) (alike : loop.Alike state before beforeToo) :
    Agree (Trial.enterGroup deeper group next position)
      (Trial.enterGroup deeperToo group next position) before beforeToo
      (loop.Keeps always failing state) := by
  refine .registers (.change ?_)
  rw [alike.opened?_eq]
  refine undoing_agree (follow position state _ _ ?_) fun left after afterToo reached => ?_
  · exact alike.update (·.setOpened group (some position)) (fun _ => rfl) fun _ => rfl
  · exact reached.update (·.setOpened group (beforeToo.opened? group)) (fun _ => rfl) fun _ => rfl

theorem leaveGroup_agree {next : NodeId} (follow : loop.Follow always failing (deeper next)
    (deeperToo next)) (group position : Nat) (alike : loop.Alike state before beforeToo) :
    Agree (Trial.leaveGroup deeper group next position)
      (Trial.leaveGroup deeperToo group next position) before beforeToo
      (loop.Keeps always failing state) := by
  refine .registers (.registers (.change ?_))
  rw [alike.captures_eq, alike.highestGroup_eq]
  refine undoing_agree (follow position state _ _ ?_) fun left after afterToo reached => ?_
  · exact alike.update (·.closeGroup group position) (fun _ => rfl) fun _ => rfl
  · exact reached.update (fun registers =>
      { registers.setCapture group (beforeToo.captures.getD group none) with
        highestGroup := beforeToo.highestGroup }) (fun _ => rfl) fun _ => rfl

theorem tryAlternatives_agree {alternatives : List NodeId}
    (follow : ∀ alternative ∈ alternatives, loop.Follow always failing (deeper alternative)
      (deeperToo alternative)) (position : Nat) (alike : loop.Alike state before beforeToo) :
    Agree (Trial.tryAlternatives deeper position alternatives)
      (Trial.tryAlternatives deeperToo position alternatives) before beforeToo
      fun result after afterToo => loop.Keeps always failing state result.1 after afterToo ∧
        ∀ last, result.2 = some last → last ∈ alternatives := by
  induction alternatives generalizing state before beforeToo with
  | nil => exact .pure ⟨alike.keeps, by simp⟩
  | cons alternative alternatives ih =>
      cases alternatives with
      | nil => exact .pure ⟨alike.keeps, by simp⟩
      | cons second rest =>
          refine (follow alternative (by simp) position state _ _ alike).bind ?_
          rintro (_ | stop) after afterToo ⟨left, reached, kept⟩
          · refine (ih (fun other member => follow other (by simp [member])) reached).weaken ?_
            rintro result _ _ ⟨keeps, member⟩
            refine ⟨keeps.trans fun needed => kept (needed.imp_right fun holds => ⟨holds, rfl⟩),
              fun last found => List.mem_cons_of_mem _ (member last found)⟩
          · exact .pure ⟨⟨left, reached, kept⟩, by simp⟩

theorem iterate_agree {body : NodeId} (follow : loop.Follow always failing (deeper body)
    (deeperToo body)) {slot : Nat} (different : loop.slot ≠ slot) (position : Nat)
    (alike : loop.Alike state before beforeToo) :
    Agree (Trial.iterate deeper slot body position) (Trial.iterate deeperToo slot body position)
      before beforeToo (loop.Keeps always failing state) := by
  refine .registers (.change ?_)
  rw [alike.loop_eq different]
  refine undoing_agree (follow position state _ _ (alike.setLoop_of_ne different _))
    fun left after afterToo reached => ?_
  rw [reached.loop_eq different]
  exact reached.setLoop_of_ne different _

theorem loopStep_agree {trial trialToo : Trial} {head : NodeId}
    {slot least : Nat} {most : Option Nat} {greedy : Bool} {body next : NodeId}
    (node_eq : trial.program.node head = .loopHead slot least most greedy body next)
    (node_eqToo : trialToo.program.node head = .loopHead slot least most greedy body next)
    (different : loop.slot ≠ slot)
    (followNext : loop.Follow always failing (deeper next) (deeperToo next))
    (followBody : loop.Follow always failing (again body) (againToo body)) (position : Nat)
    (alike : loop.Alike state before beforeToo) :
    Agree (trial.loopStep deeper again head position)
      (trialToo.loopStep deeperToo againToo head position) before beforeToo
      (loop.Keeps always failing state) := by
  rw [Trial.loopStep, Trial.loopStep, node_eq, node_eqToo]
  refine .registers ?_
  rw [alike.loop_eq different]
  refine .ite (fun _ => iterate_agree followBody different position alike) fun _ => ?_
  refine .ite (fun _ => followNext position state _ _ alike) fun _ => ?_
  refine .ite (fun _ => ?_) fun _ => ?_
  · exact orElse_agree (iterate_agree followBody different position alike) (fun _ => rfl)
      (fun _ => rfl) fun left _ _ _ reached => followNext position left _ _ reached
  · exact orElse_agree (followNext position state _ _ alike) (fun _ => rfl)
      (fun _ => rfl) fun left _ _ _ reached => iterate_agree followBody different position reached

theorem giveBack_agree {next : NodeId} (follow : loop.Follow always failing (deeper next)
    (deeperToo next)) (position least count : Nat) (alike : loop.Alike state before beforeToo) :
    Agree (Trial.giveBack deeper next position least count)
      (Trial.giveBack deeperToo next position least count) before beforeToo
      (loop.Keeps always failing state) := by
  induction count generalizing state before beforeToo with
  | zero => exact fails_agree alike
  | succ count ih =>
      rw [Trial.giveBack, Trial.giveBack]
      refine .ite (fun _ => ?_) fun _ => fails_agree alike
      exact orElse_agree (follow _ state _ _ alike) (fun _ => rfl) (fun _ => rfl)
        fun _ _ _ _ reached => ih reached

theorem takeMore_agree {trial : Trial} {limits : Limits} {next : NodeId}
    (follow : loop.Follow always failing (deeper next) (deeperToo next)) (matcher : CharMatcher)
    (position room count : Nat) (alike : loop.Alike state before beforeToo) :
    Agree (trial.takeMore deeper matcher next position room count)
      ((loop.trial trial limits).takeMore deeperToo matcher next position room count) before
      beforeToo (loop.Keeps always failing state) := by
  induction room generalizing count state before beforeToo with
  | zero =>
      rw [Trial.takeMore, Trial.takeMore]
      exact orElse_agree (follow _ state _ _ alike) (fun _ => rfl) (fun _ => rfl)
        fun _ _ _ _ reached => fails_agree reached
  | succ room ih =>
      rw [Trial.takeMore, Trial.takeMore]
      refine orElse_agree (follow _ state _ _ alike) (fun _ => rfl) (fun _ => rfl)
        fun _ _ _ _ reached => ?_
      exact .ite (fun _ => ih (count + 1) reached) fun _ => fails_agree reached

/-! Parts that are tried on their own keep the state of the slot in any case, if it has to be kept
at all. -/

theorem iteratePossessively_agree {body : NodeId}
    (follow : loop.Follow always False (deeper body) (deeperToo body)) (least : Nat)
    (most : Option Nat) (fuel count position : Nat) (alike : loop.Alike state before beforeToo) :
    Agree (Trial.iteratePossessively deeper body least most fuel count position)
      (Trial.iteratePossessively deeperToo body least most fuel count position) before beforeToo
      fun _ after afterToo =>
        ∃ left, loop.Alike left after afterToo ∧ (always → left = state) := by
  induction fuel generalizing count position state before beforeToo with
  | zero => exact .pure ⟨state, alike, fun _ => rfl⟩
  | succ fuel ih =>
      rw [Trial.iteratePossessively, Trial.iteratePossessively]
      refine .ite (fun _ => ?_) fun _ => .pure ⟨state, alike, fun _ => rfl⟩
      refine (follow position state _ _ alike).bind ?_
      rintro (_ | stop) after afterToo ⟨left, reached, kept⟩
      · exact .pure ⟨left, reached, fun needed => kept (.inl needed)⟩
      · dsimp only
        refine .ite (fun _ => .pure ⟨left, reached, fun needed => kept (.inl needed)⟩) fun _ => ?_
        refine (ih (count + 1) stop reached).weaken ?_
        rintro _ _ _ ⟨last, ended, same⟩
        exact ⟨last, ended, fun needed => (same needed).trans (kept (.inl needed))⟩

section Trial

variable {trial : Trial} {limits : Limits} (partly : trial.rollback = .captures)
include partly

theorem undoing_goBack_agree {first second : Running (Option Nat)}
    (tries : Agree first second after afterToo (loop.Keeps always failing state))
    (alike : loop.Alike other before beforeToo) :
    Agree (undoing (trial.goBack before) first) (undoing (trial.goBack beforeToo) second) after
      afterToo (loop.Keeps always failing state) :=
  undoing_agree tries fun _ _ _ reached => reached.goBack alike partly

theorem repeatPossessively_agree {body next : NodeId}
    (followBody : loop.Follow (always ∨ failing) False (deeper body) (deeperToo body))
    (followNext : loop.Follow always failing (deeper next) (deeperToo next)) (least : Nat)
    (most : Option Nat) (position : Nat) (alike : loop.Alike state before beforeToo) :
    Agree (trial.repeatPossessively deeper body least most next position)
      ((loop.trial trial limits).repeatPossessively deeperToo body least most next position) before
      beforeToo (loop.Keeps always failing state) := by
  refine .registers ((iteratePossessively_agree followBody least most _ 0 position alike).bind ?_)
  rintro ⟨count, stop⟩ after afterToo ⟨left, reached, kept⟩
  refine Agree.ite (fun _ => ?_) fun _ => ?_
  · exact .change (.pure ⟨left, reached.goBack alike partly,
      fun needed => kept (needed.imp_right And.left)⟩)
  · exact (undoing_goBack_agree partly (followNext stop left _ _ reached) alike).weaken
      fun _ _ _ keeps => keeps.trans kept

theorem runAtomic_agree {body next : NodeId}
    (followBody : loop.Follow (always ∨ failing) False (deeper body) (deeperToo body))
    (followNext : loop.Follow always failing (deeper next) (deeperToo next)) (position : Nat)
    (alike : loop.Alike state before beforeToo) :
    Agree (trial.runAtomic deeper body next position)
      ((loop.trial trial limits).runAtomic deeperToo body next position) before beforeToo
      (loop.Keeps always failing state) := by
  refine .registers ((followBody position state _ _ alike).bind ?_)
  rintro (_ | stop) after afterToo ⟨left, reached, kept⟩
  · exact .pure ⟨left, reached, fun needed => kept (.inl (needed.imp_right And.left))⟩
  · exact (undoing_goBack_agree partly (followNext stop left _ _ reached) alike).weaken
      fun _ _ _ keeps => keeps.trans fun needed => kept (.inl needed)

theorem matchesBehind_agree {branches : List (Nat × NodeId)}
    (follow : ∀ branch ∈ branches, loop.Follow always False (deeper branch.2)
      (deeperToo branch.2)) {origin originToo : Registers}
    (alikeOrigin : loop.Alike other origin originToo) (position : Nat)
    (alike : loop.Alike state before beforeToo) :
    Agree (trial.matchesBehind deeper origin position branches)
      ((loop.trial trial limits).matchesBehind deeperToo originToo position branches) before
      beforeToo
      fun _ after afterToo => ∃ left, loop.Alike left after afterToo ∧ (always → left = state) := by
  induction branches generalizing state before beforeToo with
  | nil => exact .pure ⟨state, alike, fun _ => rfl⟩
  | cons branch branches ih =>
      obtain ⟨width, body⟩ := branch
      have later {left : LoopSlot} {after afterToo : Registers}
          (reached : loop.Alike left after afterToo) (kept : always → left = state) :
          Agree (trial.matchesBehind deeper origin position branches)
            ((loop.trial trial limits).matchesBehind deeperToo originToo position branches) after
            afterToo fun _ after afterToo =>
              ∃ left, loop.Alike left after afterToo ∧ (always → left = state) := by
        refine (ih (fun other member => follow other (by simp [member])) reached).weaken ?_
        rintro _ _ _ ⟨last, ended, same⟩
        exact ⟨last, ended, fun needed => (same needed).trans (kept needed)⟩
      rw [Trial.matchesBehind, Trial.matchesBehind]
      refine .ite (fun _ => ?_) fun _ => later alike fun _ => rfl
      refine (follow (width, body) (by simp) _ state _ _ alike).bind ?_
      rintro (_ | stop) after afterToo ⟨left, reached, kept⟩
      · exact later reached fun needed => kept (.inl needed)
      · dsimp only
        refine .ite (fun _ => .pure ⟨left, reached, fun needed => kept (.inl needed)⟩) fun _ => ?_
        exact .change (later (reached.goBack alikeOrigin partly) fun needed => kept (.inl needed))

theorem afterLookAround_agree {next : NodeId}
    (followDeeper : loop.Follow always failing (deeper next) (deeperToo next))
    (followAgain : loop.Follow always failing (again next) (againToo next))
    {origin originToo : Registers} (alikeOrigin : loop.Alike other origin originToo)
    (matched negated : Bool) (position : Nat) (alike : loop.Alike state before beforeToo) :
    Agree (trial.afterLookAround deeper again origin matched negated next position)
      ((loop.trial trial limits).afterLookAround deeperToo againToo originToo matched negated next
        position) before beforeToo (loop.Keeps always failing state) := by
  cases matched <;> cases negated
  · exact fails_agree alike
  · exact followAgain position state _ _ alike
  · exact undoing_goBack_agree partly (followDeeper position state _ _ alike) alikeOrigin
  · exact .change (fails_agree (alike.goBack alikeOrigin partly))

/-- What a node does is known from the nodes with which it goes on and from those that it tries on
their own, unless it belongs to a loop. -/
theorem pass_agree_of_loopless (node : Node) (headless : node.slot? = none)
    (tailless : node.tail? = none) {twoDeeper twoDeeperToo : Continuation}
    (follow : ∀ target ∈ node.followers,
      loop.Follow always failing (deeper target) (deeperToo target))
    (tries : ∀ target ∈ node.bodies,
      loop.Follow (always ∨ failing) False (deeper target) (deeperToo target))
    (passes : ∀ target ∈ node.continuations,
      loop.Follow always failing (again target) (againToo target))
    (id : NodeId) (position : Nat) (alike : loop.Alike state before beforeToo) :
    Agree (trial.pass deeper twoDeeper again id position node)
      ((loop.trial trial limits).pass deeperToo twoDeeperToo againToo id position node) before
      beforeToo (loop.Keeps always failing state) := by
  cases node with
  | done => exact .pure alike.keeps
  | char matcher next =>
      exact .ite (fun _ => passes next (by simp [Node.continuations]) _ state _ _ alike)
        fun _ => fails_agree alike
  | literal text ignoresCase next =>
      exact .ite (fun _ => passes next (by simp [Node.continuations]) _ state _ _ alike)
        fun _ => fails_agree alike
  | assert assertion next =>
      refine .registers ?_
      rw [alike.scene_eq]
      exact .ite (fun _ => passes next (by simp [Node.continuations]) _ state _ _ alike)
        fun _ => fails_agree alike
  | groupStart group next =>
      exact enterGroup_agree (follow next (by simp [Node.followers])) group position alike
  | groupEnd group next =>
      exact leaveGroup_agree (follow next (by simp [Node.followers])) group position alike
  | backReference group ignoresCase next =>
      refine .registers ?_
      rw [alike.capture?_eq]
      cases beforeToo.capture? group with
      | none => exact fails_agree alike
      | some span =>
          exact .ite (fun _ => passes next (by simp [Node.continuations]) _ state _ _ alike)
            fun _ => fails_agree alike
  | alternation alternatives =>
      refine (tryAlternatives_agree follow position alike).bind ?_
      rintro ⟨_ | stop, last?⟩ after afterToo ⟨keeps, member⟩
      · cases last? with
        | none => exact .pure keeps
        | some last =>
            obtain ⟨left, reached, kept⟩ := keeps
            exact (passes last (member last rfl) position left _ _ reached).weaken
              fun _ _ _ keeps => keeps.trans fun needed =>
                kept (needed.imp_right fun holds => ⟨holds, rfl⟩)
      · exact .pure keeps
  | loopHead slot least most greedy body next => cases headless
  | loopTail head => cases tailless
  | charRepeat matcher least most mode next =>
      have followNext := follow next (by simp [Node.followers])
      refine .ite (fun _ => .ite (fun _ => ?_) fun _ => fails_agree alike) fun _ =>
        .ite (fun _ => fails_agree alike) fun _ => .ite (fun _ => ?_) fun _ => ?_
      · exact takeMore_agree followNext matcher position _ least alike
      · exact orElse_agree (giveBack_agree followNext position least _ alike) (fun _ => rfl)
          (fun _ => rfl) fun left _ _ _ reached =>
            passes next (by simp [Node.continuations]) _ left _ _ reached
      · exact passes next (by simp [Node.continuations]) _ state _ _ alike
  | possessive body least most next =>
      exact repeatPossessively_agree partly (tries body (by simp [Node.bodies]))
        (follow next (by simp [Node.followers])) least most position alike
  | atomic body next =>
      exact runAtomic_agree partly (tries body (by simp [Node.bodies]))
        (follow next (by simp [Node.followers])) position alike
  | lookAhead body negated next =>
      refine .registers ((tries body (by simp [Node.bodies]) position state _ _ alike).bind ?_)
      rintro result after afterToo ⟨left, reached, kept⟩
      exact (afterLookAround_agree partly (follow next (by simp [Node.followers]))
        (passes next (by simp [Node.continuations])) alike _ negated position reached).weaken
          fun _ _ _ keeps => keeps.trans fun needed => kept (.inl needed)
  | lookBehind branches negated next =>
      refine .registers ((matchesBehind_agree partly
        (fun branch member => tries branch.2 (List.mem_map_of_mem member)) alike position
        alike).bind ?_)
      rintro matched after afterToo ⟨left, reached, kept⟩
      exact (afterLookAround_agree partly (follow next (by simp [Node.followers]))
        (passes next (by simp [Node.continuations])) alike matched negated position reached).weaken
          fun _ _ _ keeps => keeps.trans kept
  | conditional group yes no =>
      refine .registers ?_
      rw [alike.capture?_eq]
      refine passes _ ?_ position state _ _ alike
      cases (beforeToo.capture? group).isSome <;> simp [Node.continuations]

end Trial

end Pieces

/-! ## Nodes other than the repetition -/

/-- The repetition is not reached from a node. -/
def Apart (id : NodeId) : Prop := ¬ program.Reaches id loop.entry

/-- What is executed from a node on changes the slot back where it fails, for the repetition is not
reached from anything that is tried on its own. -/
def Flat (id : NodeId) : Prop := program.TriesApart loop.entry id

/-- Two continuations agree on all nodes of the program.  The slot is not touched where the
repetition is not reached. -/
def Matches (first second : Continuation) : Prop :=
  ∀ id < program.size, loop.Follow (loop.Apart id) (loop.Flat id) (first id) (second id)

section Nodes

variable {loop} {id target : NodeId}

theorem Apart.step (apart : loop.Apart id) (member : target ∈ (program.node id).targets) :
    loop.Apart target :=
  fun reaches => apart (.head member reaches)

theorem Flat.follower (flat : loop.Flat id) (member : target ∈ (program.node id).followers) :
    loop.Flat target :=
  fun inner leads => flat inner (.head member leads)

theorem Flat.body (flat : loop.Flat id) (member : target ∈ (program.node id).bodies) :
    loop.Apart target :=
  flat id .refl target member

theorem Follow.follower {first second : Nat → Running (Option Nat)}
    (follow : loop.Follow (loop.Apart target) (loop.Flat target) first second)
    (member : target ∈ (program.node id).followers) :
    loop.Follow (loop.Apart id) (loop.Flat id) first second :=
  follow.weaken (fun apart => apart.step ((program.node id).followers_subset member))
    fun flat => .inr (flat.follower member)

theorem Follow.body {first second : Nat → Running (Option Nat)}
    (follow : loop.Follow (loop.Apart target) (loop.Flat target) first second)
    (member : target ∈ (program.node id).bodies) :
    loop.Follow (loop.Apart id ∨ loop.Flat id) False first second :=
  follow.weaken
    (fun either => either.elim
      (fun apart => apart.step ((program.node id).bodies_subset member)) (·.body member))
    False.elim

section Pass

open Running

variable {groupCount : Nat} (wellFormed : program.WellFormed groupCount) {trial : Trial}
  (executes : trial.program = program) {limits : Limits}
  {deeper deeperToo twoDeeper twoDeeperToo again againToo : Continuation}
  {state : LoopSlot} {before beforeToo : Registers}

include wellFormed

theorem target_lt (member : target ∈ (program.node id).targets) : target < program.size :=
  (wellFormed.sound id _ (Program.holds_of_mem_targets member)).targets_lt target member

/-- The slot is none of those of the program. -/
theorem slot_ne {slot : Nat} (inside : id < program.size)
    (takes : (program.node id).slot? = some slot) : loop.slot ≠ slot :=
  Nat.ne_of_gt (wellFormed.slots_lt id _ slot (Program.holds_of_lt inside) takes)

include executes

theorem loopStep_agree_of_head {head : NodeId} {always failing : Prop} {slot least : Nat}
    {most : Option Nat} {greedy : Bool} {body next : NodeId} (inside : head < program.size)
    (node_eq : program.node head = .loopHead slot least most greedy body next)
    (implies : ∀ {first second}, loop.Follow (loop.Apart head) (loop.Flat head) first second →
      loop.Follow always failing first second)
    (deep : loop.Matches deeper deeperToo) (deepTwo : loop.Matches twoDeeper twoDeeperToo)
    (position : Nat) (alike : loop.Alike state before beforeToo) :
    Agree (trial.loopStep deeper twoDeeper head position)
      ((loop.trial trial limits).loopStep deeperToo twoDeeperToo head position) before beforeToo
      (loop.Keeps always failing state) := by
  have other := loop.ne_entry node_eq
  have follow {first second : Continuation} (known : loop.Matches first second) {target : NodeId}
      (member : target ∈ (program.node head).followers) :
      loop.Follow always failing (first target) (second target) :=
    implies ((known target (target_lt wellFormed
      ((program.node head).followers_subset member))).follower member)
  refine CharLoop.loopStep_agree (by rw [executes]; exact node_eq)
    ((loop.general_node inside other).trans node_eq)
    (slot_ne wellFormed inside (by rw [node_eq]; rfl)) (follow deep ?_) (follow deepTwo ?_) position
    alike <;> simp [node_eq, Node.followers]

/-- What a node other than the repetition does in both programs. -/
theorem pass_agree (partly : trial.rollback = .captures) (inside : id < program.size)
    (deep : loop.Matches deeper deeperToo)
    (deepTwo : loop.Matches twoDeeper twoDeeperToo)
    (goesOn : ∀ target ∈ (program.node id).continuations,
      loop.Follow (loop.Apart target) (loop.Flat target) (again target) (againToo target))
    (position : Nat) (alike : loop.Alike state before beforeToo) :
    Agree (trial.pass deeper twoDeeper again id position (program.node id))
      ((loop.trial trial limits).pass deeperToo twoDeeperToo againToo id position
        (program.node id)) before beforeToo (loop.Keeps (loop.Apart id) (loop.Flat id) state) := by
  have follow (target : NodeId) (member : target ∈ (program.node id).followers) :
      loop.Follow (loop.Apart id) (loop.Flat id) (deeper target) (deeperToo target) :=
    (deep target (target_lt wellFormed ((program.node id).followers_subset member))).follower member
  have body (target : NodeId) (member : target ∈ (program.node id).bodies) :
      loop.Follow (loop.Apart id ∨ loop.Flat id) False (deeper target) (deeperToo target) :=
    (deep target (target_lt wellFormed ((program.node id).bodies_subset member))).body member
  have passes (target : NodeId) (member : target ∈ (program.node id).continuations) :
      loop.Follow (loop.Apart id) (loop.Flat id) (again target) (againToo target) :=
    (goesOn target member).follower ((program.node id).continuations_subset_followers member)
  cases shape : program.node id
  case loopHead slot least most greedy body next =>
    have different : loop.slot ≠ slot := slot_ne wellFormed inside (by rw [shape]; rfl)
    refine .registers (.change ?_)
    rw [alike.loop_eq different]
    refine undoing_agree (loopStep_agree_of_head wellFormed executes inside shape
      (fun known => known) deep deepTwo position (alike.setLoop_of_ne different {}))
      fun left _ _ reached => ?_
    exact reached.setLoop_of_ne different _
  case loopTail head =>
    have leads : head ∈ (program.node id).targets := by simp [shape, Node.targets]
    have held := Program.holds_of_lt (target_lt wellFormed leads)
    obtain ⟨node, slot, found, takes⟩ :=
      (wellFormed.sound id _ (Program.holds_of_lt inside)).head head (by rw [shape]; rfl)
    obtain rfl : program.node head = node := Option.some.inj (held.symm.trans found)
    have headInside := target_lt wellFormed leads
    cases headShape : program.node head <;> rw [headShape] at takes <;> cases takes
    have different : loop.slot ≠ slot := slot_ne wellFormed headInside (by rw [headShape]; rfl)
    have implies {first second : Nat → Running (Option Nat)}
        (known : loop.Follow (loop.Apart head) (loop.Flat head) first second) :
        loop.Follow (loop.Apart id) (loop.Flat id) first second :=
      known.follower (by simp [shape, Node.followers])
    have other := loop.ne_entry headShape
    have node_eq : trial.program.node head = .loopHead _ _ _ _ _ _ := executes ▸ headShape
    have node_eqToo : (loop.trial trial limits).program.node head = .loopHead _ _ _ _ _ _ :=
      (loop.general_node headInside other).trans headShape
    rw [Trial.pass, Trial.pass, Trial.endIteration, Trial.endIteration, node_eq, node_eqToo]
    refine .registers (.change ?_)
    rw [alike.loop_eq different]
    refine undoing_agree (loopStep_agree_of_head wellFormed executes headInside headShape implies
      deep deepTwo position (alike.setLoop_of_ne different _)) fun left _ _ reached => ?_
    rw [reached.loop_eq different]
    exact reached.setLoop_of_ne different _
  all_goals
    rw [← shape]
    exact pass_agree_of_loopless partly _ (by rw [shape]; rfl) (by rw [shape]; rfl) follow body
      passes id position alike

end Pass

end Nodes

end CharLoop

end Backtracking
