import Backtracking.Proofs.RegisterUpdates

/-!
# Scopes

While nodes are executed, some loops and groups are entered and not left yet.  What follows reads
the slot of such a loop and the place where such a group was entered.

Whoever changes one of these registers changes it back when what follows fails.  The exception is a
part that is tried on its own: once it has matched, the registers of its loops and groups stay as
they are.  So each slot and each group has a depth, the number of such parts around it, and what
fails at some depth leaves all registers alone that are no deeper.
-/

namespace Backtracking

/-- The depths of loop slots and groups: the number of parts tried on their own around each. -/
structure Sealing where
  loopDepth : Nat → Nat
  groupDepth : Nat → Nat

/-- Two sets of registers agree on all loop slots and groups whose depth lies below a bound. -/
structure Registers.AgreeBelow (sealing : Sealing) (depth : Nat) (first second : Registers) :
    Prop where
  loops : ∀ slot, sealing.loopDepth slot < depth → first.loop slot = second.loop slot
  groups : ∀ group, sealing.groupDepth group < depth → first.opened? group = second.opened? group

namespace Registers

variable {sealing : Sealing} {depth : Nat} {first second third : Registers}

@[refl]
theorem AgreeBelow.refl (registers : Registers) : registers.AgreeBelow sealing depth registers :=
  ⟨fun _ _ => rfl, fun _ _ => rfl⟩

theorem AgreeBelow.trans (begins : first.AgreeBelow sealing depth second)
    (follows : second.AgreeBelow sealing depth third) : first.AgreeBelow sealing depth third where
  loops slot below := (begins.loops slot below).trans (follows.loops slot below)
  groups group below := (begins.groups group below).trans (follows.groups group below)

theorem AgreeBelow.weaken (agree : first.AgreeBelow sealing depth second) {lower : Nat}
    (lowerLe : lower ≤ depth) : first.AgreeBelow sealing lower second where
  loops slot below := agree.loops slot (Nat.lt_of_lt_of_le below lowerLe)
  groups group below := agree.groups group (Nat.lt_of_lt_of_le below lowerLe)

theorem setLoop_agree {slot : Nat} (deep : depth ≤ sealing.loopDepth slot) (state : LoopSlot)
    (registers : Registers) :
    (registers.setLoop slot state).AgreeBelow sealing depth registers where
  loops other below := by
    have different : slot ≠ other := fun equal => absurd (equal ▸ deep) (Nat.not_le_of_gt below)
    exact registers.loop_setLoop_of_ne different state
  groups _ _ := rfl

theorem setOpened_agree {group : Nat} (deep : depth ≤ sealing.groupDepth group)
    (position : Option Nat) (registers : Registers) :
    (registers.setOpened group position).AgreeBelow sealing depth registers where
  loops _ _ := rfl
  groups other below := by
    have different : group ≠ other := fun equal => absurd (equal ▸ deep) (Nat.not_le_of_gt below)
    exact registers.opened?_setOpened_of_ne different position

theorem closeGroup_agree (group stop : Nat) (registers : Registers) :
    (registers.closeGroup group stop).AgreeBelow sealing depth registers :=
  ⟨fun _ _ => rfl, fun _ _ => rfl⟩

theorem AgreeBelow.setLoop_back {slot : Nat} {state : LoopSlot}
    (agree : second.AgreeBelow sealing depth (first.setLoop slot state))
    (inside : slot < second.loops.size) :
    (second.setLoop slot (first.loop slot)).AgreeBelow sealing depth first where
  loops other below := by
    by_cases same : slot = other
    · rw [← same, second.loop_setLoop inside]
    · rw [second.loop_setLoop_of_ne same, agree.loops other below, first.loop_setLoop_of_ne same]
  groups := agree.groups

theorem AgreeBelow.setOpened_back {group : Nat} {position : Option Nat}
    (agree : second.AgreeBelow sealing depth (first.setOpened group position))
    (inside : group < second.opened.size) :
    (second.setOpened group (first.opened? group)).AgreeBelow sealing depth first where
  loops := agree.loops
  groups other below := by
    by_cases same : group = other
    · rw [← same, second.opened?_setOpened inside]
    · rw [second.opened?_setOpened_of_ne same, agree.groups other below,
        first.opened?_setOpened_of_ne same]

theorem rolledBack_agree (agree : first.AgreeBelow sealing depth second) (rollback : Rollback) :
    (rolledBack rollback second first).AgreeBelow sealing depth second := by
  cases rollback with
  | captures => exact ⟨agree.loops, agree.groups⟩
  | everything => exact .refl second

end Registers

/-- A loop that is being executed, with the state of its slot, or a group that was entered at some
position. -/
inductive Scope where
  | loop (slot : Nat) (state : LoopSlot)
  | group (index position : Nat)

namespace Scope

/-- The registers of a scope are what they were when it was entered. -/
def Holds (registers : Registers) : Scope → Prop
  | .loop slot state => registers.loop slot = state
  | .group index position => registers.opened? index = some position

/-- A scope belongs to none of some groups, and to no loop with a slot from `slots` on. -/
def Avoids (groups : List Nat) (slots : Nat) : Scope → Prop
  | .loop slot _ => slot < slots
  | .group index _ => index ∉ groups

def depth (sealing : Sealing) : Scope → Nat
  | .loop slot _ => sealing.loopDepth slot
  | .group index _ => sealing.groupDepth index

variable {groups : List Nat} {slots : Nat} {scope : Scope} {registers : Registers}

theorem Avoids.weaken (avoids : scope.Avoids groups slots) {fewer : List Nat} {more : Nat}
    (included : fewer ⊆ groups) (slotsLe : slots ≤ more) : scope.Avoids fewer more := by
  cases scope with
  | loop slot state => exact Nat.lt_of_lt_of_le avoids slotsLe
  | group index position => exact fun member => avoids (included member)

theorem Holds.setOpened (holds : scope.Holds registers) (avoids : scope.Avoids groups slots)
    {index : Nat} (member : index ∈ groups) (position : Option Nat) :
    scope.Holds (registers.setOpened index position) := by
  cases scope with
  | loop slot state => exact holds
  | group other entered =>
      have different : index ≠ other := fun equal => avoids (equal ▸ member)
      exact (registers.opened?_setOpened_of_ne different position).trans holds

theorem Holds.setLoop (holds : scope.Holds registers) (avoids : scope.Avoids groups slots)
    {slot : Nat} (above : slots ≤ slot) (state : LoopSlot) :
    scope.Holds (registers.setLoop slot state) := by
  cases scope with
  | loop other entered =>
      have different : slot ≠ other := Nat.ne_of_gt (Nat.lt_of_lt_of_le avoids above)
      exact (registers.loop_setLoop_of_ne different state).trans holds
  | group index entered => exact holds

theorem Holds.agree {sealing : Sealing} {depth : Nat} {other : Registers}
    (holds : scope.Holds registers) (agree : other.AgreeBelow sealing depth registers)
    (below : scope.depth sealing < depth) : scope.Holds other := by
  cases scope with
  | loop slot state => exact (agree.loops slot below).trans holds
  | group index position => exact (agree.groups index below).trans holds

end Scope

/-- The scopes in which nodes are executed, none of which is deeper than these nodes. -/
structure Frame (sealing : Sealing) where
  depth : Nat
  scopes : List Scope
  le_depth : ∀ scope ∈ scopes, scope.depth sealing ≤ depth

namespace Frame

variable {sealing : Sealing}

def outermost (sealing : Sealing) : Frame sealing := ⟨0, [], by simp⟩

/-- The registers of all scopes are what they were when these were entered. -/
def Holds (frame : Frame sealing) (registers : Registers) : Prop :=
  ∀ scope ∈ frame.scopes, scope.Holds registers

/-- No scope belongs to one of some groups, or to a loop with a slot from `slots` on. -/
def Avoids (frame : Frame sealing) (groups : List Nat) (slots : Nat) : Prop :=
  ∀ scope ∈ frame.scopes, scope.Avoids groups slots

def enter (frame : Frame sealing) (scope : Scope) (shallow : scope.depth sealing ≤ frame.depth) :
    Frame sealing where
  depth := frame.depth
  scopes := scope :: frame.scopes
  le_depth := List.forall_mem_cons.mpr ⟨shallow, frame.le_depth⟩

/-- A part begins that is tried on its own. -/
def within (frame : Frame sealing) : Frame sealing where
  depth := frame.depth + 1
  scopes := frame.scopes
  le_depth scope member := Nat.le_succ_of_le (frame.le_depth scope member)

variable {frame : Frame sealing} {scope : Scope} {registers other : Registers}
  {groups fewer : List Nat} {slots more : Nat}

theorem holds_enter {shallow : scope.depth sealing ≤ frame.depth} :
    (frame.enter scope shallow).Holds registers ↔ scope.Holds registers ∧ frame.Holds registers :=
  List.forall_mem_cons

theorem avoids_enter {shallow : scope.depth sealing ≤ frame.depth} :
    (frame.enter scope shallow).Avoids groups slots ↔
      scope.Avoids groups slots ∧ frame.Avoids groups slots :=
  List.forall_mem_cons

theorem Avoids.weaken (avoids : frame.Avoids groups slots) (included : fewer ⊆ groups)
    (slotsLe : slots ≤ more) : frame.Avoids fewer more :=
  fun scope member => (avoids scope member).weaken included slotsLe

theorem Holds.setOpened (holds : frame.Holds registers) (avoids : frame.Avoids groups slots)
    {index : Nat} (member : index ∈ groups) (position : Option Nat) :
    frame.Holds (registers.setOpened index position) :=
  fun scope entered => (holds scope entered).setOpened (avoids scope entered) member position

theorem Holds.setLoop (holds : frame.Holds registers) (avoids : frame.Avoids groups slots)
    {slot : Nat} (above : slots ≤ slot) (state : LoopSlot) :
    frame.Holds (registers.setLoop slot state) :=
  fun scope entered => (holds scope entered).setLoop (avoids scope entered) above state

theorem Holds.agree (holds : frame.Holds registers)
    (agree : other.AgreeBelow sealing (frame.depth + 1) registers) : frame.Holds other :=
  fun scope entered =>
    (holds scope entered).agree agree (Nat.lt_succ_of_le (frame.le_depth scope entered))

end Frame

end Backtracking
