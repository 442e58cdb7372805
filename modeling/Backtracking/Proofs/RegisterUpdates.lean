import Backtracking.Proofs.Outcomes

/-!
# Updates of registers

What the updates of registers change, and what they leave alone.  All registers in the course of a
search are alike: they have places for the same groups and loops, and the same two positions that
the pattern can refer to.
-/

namespace Backtracking

namespace Registers

def captured (registers : Registers) : Captured := ⟨registers.captures, registers.highestGroup⟩

/-- Two sets of registers for the same program, group count and search. -/
structure Alike (first second : Registers) : Prop where
  captures_size : first.captures.size = second.captures.size
  opened_size : first.opened.size = second.opened.size
  loops_size : first.loops.size = second.loops.size
  searchStart_eq : first.searchStart = second.searchStart
  previousEnd_eq : first.previousEnd = second.previousEnd

@[refl]
theorem Alike.refl (registers : Registers) : registers.Alike registers := ⟨rfl, rfl, rfl, rfl, rfl⟩

theorem Alike.trans {first second third : Registers} (begins : first.Alike second)
    (follows : second.Alike third) : first.Alike third where
  captures_size := begins.captures_size.trans follows.captures_size
  opened_size := begins.opened_size.trans follows.opened_size
  loops_size := begins.loops_size.trans follows.loops_size
  searchStart_eq := begins.searchStart_eq.trans follows.searchStart_eq
  previousEnd_eq := begins.previousEnd_eq.trans follows.previousEnd_eq

theorem Alike.symm {first second : Registers} (alike : first.Alike second) :
    second.Alike first where
  captures_size := alike.captures_size.symm
  opened_size := alike.opened_size.symm
  loops_size := alike.loops_size.symm
  searchStart_eq := alike.searchStart_eq.symm
  previousEnd_eq := alike.previousEnd_eq.symm

variable (registers : Registers)

theorem setOpened_alike (group : Nat) (position : Option Nat) :
    (registers.setOpened group position).Alike registers :=
  ⟨rfl, Array.size_setIfInBounds, rfl, rfl, rfl⟩

theorem setLoop_alike (slot : Nat) (state : LoopSlot) :
    (registers.setLoop slot state).Alike registers :=
  ⟨rfl, rfl, Array.size_setIfInBounds, rfl, rfl⟩

theorem setCapture_alike (group : Nat) (span : Option Span) :
    (registers.setCapture group span).Alike registers :=
  ⟨Array.size_setIfInBounds, rfl, rfl, rfl, rfl⟩

theorem closeGroup_alike (group stop : Nat) : (registers.closeGroup group stop).Alike registers :=
  ⟨Array.size_setIfInBounds, rfl, rfl, rfl, rfl⟩

theorem cleared_alike : registers.cleared.Alike registers := by
  constructor <;> simp [cleared]

theorem rolledBack_alike {before after : Registers} (alike : after.Alike before)
    (rollback : Rollback) : (rolledBack rollback before after).Alike before := by
  cases rollback with
  | captures => exact { alike with captures_size := rfl }
  | everything => exact .refl before

@[simp]
theorem captured_rolledBack (rollback : Rollback) (before : Registers) :
    (rolledBack rollback before registers).captured = before.captured := by
  cases rollback <;> rfl

@[simp]
theorem captured_cleared :
    registers.cleared.captured = .nothing registers.captures.size := by
  simp only [captured, cleared, Captured.nothing]
  congr 1
  apply Array.ext <;> simp

theorem capture?_eq (group : Nat) : registers.capture? group = registers.captured.span? group :=
  rfl

theorem captured_closeGroup {group position : Nat}
    (entered : registers.opened? group = some position) (stop : Nat) :
    (registers.closeGroup group stop).captured =
      registers.captured.close group ⟨position, stop⟩ := by
  simp [closeGroup, entered, captured, setCapture, Captured.close]

theorem captured_reopened {before after : Registers} {group stop : Nat}
    (closed : after.captured = (before.closeGroup group stop).captured) :
    { after.setCapture group (before.captures.getD group none) with
      highestGroup := before.highestGroup }.captured = before.captured := by
  have spans : after.captures =
      before.captures.setIfInBounds group ((before.opened? group).map (⟨·, stop⟩)) :=
    congrArg Captured.spans closed
  simp only [captured, setCapture, spans, Array.setIfInBounds_setIfInBounds]
  congr 1
  apply Array.ext
  · simp
  · intro index inside within
    rw [Array.getElem_setIfInBounds within]
    split
    · next same =>
        subst same
        simp [Array.getD_eq_getD_getElem?, within]
    · rfl

theorem loop_setLoop {slot : Nat} (inside : slot < registers.loops.size) (state : LoopSlot) :
    (registers.setLoop slot state).loop slot = state := by
  simp [loop, setLoop, Array.getD_eq_getD_getElem?, inside]

theorem loop_setLoop_of_ne {slot other : Nat} (different : slot ≠ other) (state : LoopSlot) :
    (registers.setLoop slot state).loop other = registers.loop other := by
  simp [loop, setLoop, Array.getD_eq_getD_getElem?, Array.getElem?_setIfInBounds_ne different]

theorem opened?_setOpened {group : Nat} (inside : group < registers.opened.size)
    (position : Option Nat) : (registers.setOpened group position).opened? group = position := by
  simp [opened?, setOpened, Array.getD_eq_getD_getElem?, inside]

theorem opened?_setOpened_of_ne {group other : Nat} (different : group ≠ other)
    (position : Option Nat) :
    (registers.setOpened group position).opened? other = registers.opened? other := by
  simp [opened?, setOpened, Array.getD_eq_getD_getElem?, Array.getElem?_setIfInBounds_ne different]

end Registers

end Backtracking
