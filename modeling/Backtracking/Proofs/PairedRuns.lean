import Backtracking.Proofs.FailedCalls

/-!
# Pairs of runs

Two pieces of attempts, which may belong to different programs and have different limits, agree if
they have the same result whenever both of them come to an end.  As it is not asked that they do,
neither is bound to the steps and levels of the other.  The rules follow the steps of a piece; some
are about steps that only the second piece takes.
-/

namespace Backtracking

namespace Running

variable {α β : Type} {before beforeToo : Registers}

/-- What comes to an end has come to an end up to any point in between. -/
theorem exists_of_run_bind {computation : Running α} {next : α → Running β}
    {execution after : Execution} {result : β}
    (runs : (computation >>= next).run.run execution = (.ok result, after)) :
    ∃ value middle, computation.run.run execution = (.ok value, middle) ∧
      (next value).run.run middle = (.ok result, after) := by
  rw [run_bind] at runs
  split at runs
  · next value middle reached => exact ⟨value, middle, reached, runs⟩
  · cases runs

/-- Whenever two pieces, which start with some registers each, both come to an end, they have the
same result, and this and the registers behind them satisfy a condition. -/
def Agree (first second : Running α) (before beforeToo : Registers)
    (condition : α → Registers → Registers → Prop) : Prop :=
  ∀ steps stepsToo value valueToo after afterToo,
    first.run.run ⟨before, steps⟩ = (.ok value, after) →
    second.run.run ⟨beforeToo, stepsToo⟩ = (.ok valueToo, afterToo) →
    value = valueToo ∧ condition value after.registers afterToo.registers

section Agree

variable {first second : Running α} {condition : α → Registers → Registers → Prop}

theorem Agree.pure {value : α} (holds : condition value before beforeToo) :
    Agree (Pure.pure value) (Pure.pure value) before beforeToo condition := by
  intro steps stepsToo value valueToo after afterToo runs runsToo
  cases runs
  cases runsToo
  exact ⟨rfl, holds⟩

/-- A piece that exceeds a limit agrees with all others. -/
theorem Agree.throw (error : MatchError) :
    Agree (MonadExcept.throw error) second before beforeToo condition := by
  intro steps stepsToo value valueToo after afterToo runs
  cases runs

theorem Agree.throwToo (error : MatchError) :
    Agree first (MonadExcept.throw error) before beforeToo condition := by
  intro steps stepsToo value valueToo after afterToo runs runsToo
  cases runsToo

theorem Agree.weaken {stronger : α → Registers → Registers → Prop}
    (agree : Agree first second before beforeToo stronger)
    (implies : ∀ value after afterToo, stronger value after afterToo →
      condition value after afterToo) : Agree first second before beforeToo condition := by
  intro steps stepsToo value valueToo after afterToo runs runsToo
  obtain ⟨same, holds⟩ := agree steps stepsToo value valueToo after afterToo runs runsToo
  exact ⟨same, implies value after.registers afterToo.registers holds⟩

theorem Agree.bind {computation computationToo : Running β} {next nextToo : β → Running α}
    {middle : β → Registers → Registers → Prop}
    (begins : Agree computation computationToo before beforeToo middle)
    (follows : ∀ value after afterToo, middle value after afterToo →
      Agree (next value) (nextToo value) after afterToo condition) :
    Agree (computation >>= next) (computationToo >>= nextToo) before beforeToo condition := by
  intro steps stepsToo value valueToo after afterToo runs runsToo
  obtain ⟨reached, between, begun, ends⟩ := exists_of_run_bind runs
  obtain ⟨reachedToo, betweenToo, begunToo, endsToo⟩ := exists_of_run_bind runsToo
  obtain ⟨rfl, holds⟩ := begins steps stepsToo reached reachedToo between betweenToo begun begunToo
  exact follows reached between.registers betweenToo.registers holds between.steps betweenToo.steps
    value valueToo after afterToo ends endsToo

theorem Agree.ite {decision : Prop} [Decidable decision] {other otherToo : Running α}
    (yes : decision → Agree first second before beforeToo condition)
    (no : ¬ decision → Agree other otherToo before beforeToo condition) :
    Agree (if decision then first else other) (if decision then second else otherToo) before
      beforeToo condition := by
  split
  · next holds => exact yes holds
  · next fails => exact no fails

theorem Agree.registers {next nextToo : Registers → Running α}
    (follows : Agree (next before) (nextToo beforeToo) before beforeToo condition) :
    Agree (Running.registers >>= next) (Running.registers >>= nextToo) before beforeToo
      condition :=
  fun steps stepsToo => follows steps stepsToo

theorem Agree.change {update updateToo : Registers → Registers} {next nextToo : Unit → Running α}
    (follows : Agree (next ()) (nextToo ()) (update before) (updateToo beforeToo) condition) :
    Agree (Running.change update >>= next) (Running.change updateToo >>= nextToo) before beforeToo
      condition :=
  fun steps stepsToo => follows steps stepsToo

theorem exists_of_run_visit {trial : Trial} {next : Unit → Running α} {registers : Registers}
    {steps : Nat} {value : α} {after : Execution}
    (runs : (trial.visit >>= next).run.run ⟨registers, steps⟩ = (.ok value, after)) :
    (next ()).run.run ⟨registers, steps + 1⟩ = (.ok value, after) := by
  obtain ⟨reached, between, begun, ends⟩ := exists_of_run_bind runs
  rw [run_visit] at begun
  obtain ⟨-, rfl⟩ := Prod.mk.injEq .. ▸ begun
  exact ends

theorem Agree.visit {trial trialToo : Trial} {next nextToo : Unit → Running α}
    (follows : Agree (next ()) (nextToo ()) before beforeToo condition) :
    Agree (trial.visit >>= next) (trialToo.visit >>= nextToo) before beforeToo condition := by
  intro steps stepsToo value valueToo after afterToo runs runsToo
  exact follows (steps + 1) (stepsToo + 1) value valueToo after afterToo
    (exists_of_run_visit runs) (exists_of_run_visit runsToo)

theorem Agree.undoing {update updateToo : Registers → Registers}
    {first second : Running (Option Nat)}
    {middle condition : Option Nat → Registers → Registers → Prop}
    (agree : Agree first second before beforeToo middle)
    (fails : ∀ after afterToo, middle none after afterToo →
      condition none (update after) (updateToo afterToo))
    (succeeds : ∀ stop after afterToo, middle (some stop) after afterToo →
      condition (some stop) after afterToo) :
    Agree (Running.undoing update first) (Running.undoing updateToo second) before beforeToo
      condition := by
  refine agree.bind fun result after afterToo holds => ?_
  cases result with
  | none => exact .change (.pure (fails after afterToo holds))
  | some stop => exact .pure (succeeds stop after afterToo holds)

/-! ### Steps of the second piece only -/

/-- Something that the second piece does before it agrees with the first. -/
theorem Agree.leaves {computation : Running β} {next : β → Running α}
    {middle : β → Registers → Prop} (begins : computation.Leaves beforeToo middle)
    (follows : ∀ value afterToo, middle value afterToo →
      Agree first (next value) before afterToo condition) :
    Agree first (computation >>= next) before beforeToo condition := by
  intro steps stepsToo value valueToo after afterToo runs runsToo
  obtain ⟨reached, between, begun, ends⟩ := exists_of_run_bind runsToo
  exact follows reached between.registers (begins stepsToo reached between begun) steps
    between.steps value valueToo after afterToo runs ends

theorem Agree.registersToo {next : Registers → Running α}
    (follows : Agree first (next beforeToo) before beforeToo condition) :
    Agree first (Running.registers >>= next) before beforeToo condition :=
  fun steps stepsToo => follows steps stepsToo

theorem Agree.changeToo {update : Registers → Registers} {next : Unit → Running α}
    (follows : Agree first (next ()) before (update beforeToo) condition) :
    Agree first (Running.change update >>= next) before beforeToo condition :=
  fun steps stepsToo => follows steps stepsToo

theorem Agree.visitToo {trial : Trial} {next : Unit → Running α}
    (follows : Agree first (next ()) before beforeToo condition) :
    Agree first (trial.visit >>= next) before beforeToo condition := by
  intro steps stepsToo value valueToo after afterToo runs runsToo
  exact follows steps (stepsToo + 1) value valueToo after afterToo runs
    (exists_of_run_visit runsToo)

theorem Agree.undoingToo {update : Registers → Registers} {first second : Running (Option Nat)}
    {middle condition : Option Nat → Registers → Registers → Prop}
    (agree : Agree first second before beforeToo middle)
    (fails : ∀ after afterToo, middle none after afterToo →
      condition none after (update afterToo))
    (succeeds : ∀ stop after afterToo, middle (some stop) after afterToo →
      condition (some stop) after afterToo) :
    Agree first (Running.undoing update second) before beforeToo condition := by
  intro steps stepsToo value valueToo after afterToo runs runsToo
  rw [run_undoing] at runsToo
  rcases ends : second.run.run ⟨beforeToo, stepsToo⟩ with ⟨_ | answer, reached⟩ <;>
    rw [ends] at runsToo
  · cases runsToo
  obtain ⟨rfl, holds⟩ := agree steps stepsToo value answer after reached runs ends
  cases value with
  | none =>
      cases runsToo
      exact ⟨rfl, fails after.registers reached.registers holds⟩
  | some stop =>
      cases runsToo
      exact ⟨rfl, succeeds stop after.registers afterToo.registers holds⟩

theorem Agree.and {left : α → Registers → Prop}
    (agree : Agree first second before beforeToo condition) (leaves : first.Leaves before left) :
    Agree first second before beforeToo fun value after afterToo =>
      condition value after afterToo ∧ left value after := by
  intro steps stepsToo value valueToo after afterToo runs runsToo
  obtain ⟨same, holds⟩ := agree steps stepsToo value valueToo after afterToo runs runsToo
  exact ⟨same, holds, leaves steps value after runs⟩

end Agree

end Running

end Backtracking
