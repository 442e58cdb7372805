import Backtracking.Proofs.RegisterUpdates
import Backtracking.Search.Attempt

/-!
# Reasoning about pieces of an attempt

Two ways to speak of what a piece of an attempt does.  It yields something if it comes to an end
without exceeding a limit, with a result and registers that satisfy a condition.  It is followed by
another piece that may use more of what is limited, if that one comes to the same end whenever it
comes to an end at all; and whether it does or exceeds a limit, it leaves registers that are alike
to those before.  Both are put together along the steps of a piece.
-/

namespace Backtracking

namespace Running

variable {α β : Type} {before : Registers}

theorem run_bind (computation : Running α) (next : α → Running β) (execution : Execution) :
    (computation >>= next).run.run execution =
      match computation.run.run execution with
      | (.ok value, after) => (next value).run.run after
      | (.error error, after) => (.error error, after) := by
  show (ExceptT.bind computation next) execution = _
  simp only [ExceptT.bind, ExceptT.mk, bind, StateT.bind, ExceptT.bindCont, ExceptT.run, StateT.run]
  cases computation execution with
  | mk result after => cases result <;> rfl

@[simp]
theorem run_change (update : Registers → Registers) (execution : Execution) :
    (change update).run.run execution =
      (.ok (), { execution with registers := update execution.registers }) := rfl

theorem run_undoing (update : Registers → Registers) (attempt : Running (Option Nat))
    (execution : Execution) :
    (undoing update attempt).run.run execution =
      match attempt.run.run execution with
      | (.ok none, after) => (.ok none, { after with registers := update after.registers })
      | result => result := by
  rw [undoing, run_bind]
  rcases attempt.run.run execution with ⟨_ | _ | stop, after⟩ <;> rfl

theorem run_visit (trial : Trial) (execution : Execution) :
    trial.visit.run.run execution =
      (match trial.limits.maxSteps with
        | none => .ok ()
        | some limit =>
            if execution.steps + 1 > limit then .error (.stepLimitExceeded limit) else .ok (),
        { execution with steps := execution.steps + 1 }) := by
  cases bound : trial.limits.maxSteps with
  | none =>
      simp only [Trial.visit, bound]
      rfl
  | some limit =>
      simp only [Trial.visit, bound]
      show (if execution.steps + 1 > limit then throw (.stepLimitExceeded limit)
          else pure () : Running Unit).run.run { execution with steps := execution.steps + 1 } = _
      split <;> rfl

/-! ## Coming to an end -/

/-- A piece that starts with some registers comes to an end without exceeding a limit, however many
steps were taken before it, and its result and the registers behind it satisfy a condition. -/
def Yields (computation : Running α) (before : Registers) (condition : α → Registers → Prop) :
    Prop :=
  ∀ steps, ∃ value after,
    computation.run.run ⟨before, steps⟩ = (.ok value, after) ∧ condition value after.registers

theorem Yields.pure {condition : α → Registers → Prop} {value : α}
    (holds : condition value before) : (Pure.pure value : Running α).Yields before condition :=
  fun steps => ⟨value, ⟨before, steps⟩, rfl, holds⟩

theorem Yields.weaken {computation : Running α} {weaker stronger : α → Registers → Prop}
    (yields : computation.Yields before stronger)
    (implies : ∀ value after, stronger value after → weaker value after) :
    computation.Yields before weaker := by
  intro steps
  obtain ⟨value, after, runs, holds⟩ := yields steps
  exact ⟨value, after, runs, implies value after.registers holds⟩

theorem Yields.bind {computation : Running α} {next : α → Running β}
    {middle : α → Registers → Prop} {condition : β → Registers → Prop}
    (begins : computation.Yields before middle)
    (follows : ∀ value after, middle value after → (next value).Yields after condition) :
    (computation >>= next).Yields before condition := by
  intro steps
  obtain ⟨value, ⟨registers, taken⟩, runs, holds⟩ := begins steps
  obtain ⟨result, after, finishes, final⟩ := follows value registers holds taken
  exact ⟨result, after, by rw [run_bind, runs]; exact finishes, final⟩

theorem Yields.registers {next : Registers → Running β} {condition : β → Registers → Prop}
    (follows : (next before).Yields before condition) :
    (Running.registers >>= next).Yields before condition :=
  fun steps => follows steps

theorem Yields.change {update : Registers → Registers} {next : Unit → Running β}
    {condition : β → Registers → Prop}
    (follows : (next ()).Yields (update before) condition) :
    (Running.change update >>= next).Yields before condition :=
  fun steps => follows steps

theorem Yields.undoing {update : Registers → Registers} {attempt : Running (Option Nat)}
    {middle condition : Option Nat → Registers → Prop} (yields : attempt.Yields before middle)
    (fails : ∀ after, middle none after → condition none (update after))
    (succeeds : ∀ stop after, middle (some stop) after → condition (some stop) after) :
    (Running.undoing update attempt).Yields before condition := by
  intro steps
  obtain ⟨answer, ⟨registers, taken⟩, runs, holds⟩ := yields steps
  cases answer with
  | none =>
      exact ⟨none, ⟨update registers, taken⟩, by rw [run_undoing, runs], fails registers holds⟩
  | some stop =>
      exact ⟨some stop, ⟨registers, taken⟩, by rw [run_undoing, runs],
        succeeds stop registers holds⟩

theorem Yields.visit {trial : Trial} (unlimited : trial.limits.maxSteps = none)
    {next : Unit → Running β} {condition : β → Registers → Prop}
    (follows : (next ()).Yields before condition) :
    (trial.visit >>= next).Yields before condition := by
  intro steps
  obtain ⟨value, after, runs, holds⟩ := follows (steps + 1)
  refine ⟨value, after, ?_, holds⟩
  rw [run_bind, run_visit, unlimited]
  exact runs

/-! ## Coming to the same end -/

/-- From registers that are alike to those given, the first piece leaves such registers and takes no
step back, and whenever it comes to an end, so does the second, with the same result and the same
registers, if it starts with as many steps taken or fewer. -/
def Follows (origin : Registers) (first second : Running α) : Prop :=
  ∀ execution fewer result after, execution.registers.Alike origin → fewer ≤ execution.steps →
    first.run.run execution = (result, after) →
    after.registers.Alike origin ∧ execution.steps ≤ after.steps ∧
      ∀ value, result = .ok value → ∃ taken ≤ after.steps,
        second.run.run ⟨execution.registers, fewer⟩ = (.ok value, ⟨after.registers, taken⟩)

/-- An update of registers that leaves them alike to those given. -/
def KeepsAlike (origin : Registers) (update : Registers → Registers) : Prop :=
  ∀ registers, registers.Alike origin → (update registers).Alike origin

section Follows

variable {origin : Registers}

theorem KeepsAlike.setOpened (group : Nat) (position : Option Nat) :
    KeepsAlike origin (·.setOpened group position) :=
  fun registers alike => (registers.setOpened_alike group position).trans alike

theorem KeepsAlike.setLoop (slot : Nat) (state : Registers → LoopSlot) :
    KeepsAlike origin fun registers => registers.setLoop slot (state registers) :=
  fun registers alike => (registers.setLoop_alike slot (state registers)).trans alike

theorem KeepsAlike.closeGroup (group stop : Nat) : KeepsAlike origin (·.closeGroup group stop) :=
  fun registers alike => (registers.closeGroup_alike group stop).trans alike

theorem KeepsAlike.reopen (group highest : Nat) (span : Option Span) :
    KeepsAlike origin fun registers =>
      { registers.setCapture group span with highestGroup := highest } :=
  fun registers alike =>
    { (registers.setCapture_alike group span).trans alike with }

theorem KeepsAlike.goBack (trial : Trial) {before : Registers} (alike : before.Alike origin) :
    KeepsAlike origin (trial.goBack before) :=
  fun _ after => (Registers.rolledBack_alike (after.trans alike.symm) _).trans alike

theorem Follows.pure (value : α) :
    Follows origin (Pure.pure value) (Pure.pure value : Running α) := by
  intro execution fewer result after alike fewerLe runs
  cases runs
  exact ⟨alike, Nat.le_refl _, fun _ equal => by cases equal; exact ⟨fewer, fewerLe, rfl⟩⟩

theorem Follows.throw (error : MatchError) (second : Running α) :
    Follows origin (throw error) second := by
  intro execution fewer result after alike fewerLe runs
  cases runs
  exact ⟨alike, Nat.le_refl _, fun _ equal => by cases equal⟩

theorem Follows.bind {first second : Running α} {firstNext secondNext : α → Running β}
    (begins : Follows origin first second)
    (follows : ∀ value, Follows origin (firstNext value) (secondNext value)) :
    Follows origin (first >>= firstNext) (second >>= secondNext) := by
  intro execution fewer result after alike fewerLe runs
  rw [run_bind] at runs
  split at runs
  · next value middle reached =>
      obtain ⟨middleAlike, stepsLe, same⟩ :=
        begins execution fewer (.ok value) middle alike fewerLe reached
      obtain ⟨taken, takenLe, reachedToo⟩ := same value rfl
      obtain ⟨finalAlike, furtherLe, sameEnd⟩ :=
        follows value middle taken result after middleAlike takenLe runs
      refine ⟨finalAlike, Nat.le_trans stepsLe furtherLe, fun value equal => ?_⟩
      obtain ⟨final, finalLe, finishes⟩ := sameEnd value equal
      exact ⟨final, finalLe, by rw [run_bind, reachedToo]; exact finishes⟩
  · next error middle reached =>
      cases runs
      obtain ⟨afterAlike, stepsLe, -⟩ := begins execution fewer _ after alike fewerLe reached
      exact ⟨afterAlike, stepsLe, fun _ equal => by cases equal⟩

theorem Follows.ite {condition : Prop} [Decidable condition]
    {first second firstElse secondElse : Running α} (yes : Follows origin first second)
    (no : Follows origin firstElse secondElse) :
    Follows origin (if condition then first else firstElse)
      (if condition then second else secondElse) := by
  split
  · exact yes
  · exact no

theorem Follows.registers {first second : Registers → Running β}
    (follows : ∀ registers, registers.Alike origin →
      Follows origin (first registers) (second registers)) :
    Follows origin (Running.registers >>= first) (Running.registers >>= second) := by
  intro execution fewer result after alike fewerLe runs
  exact follows execution.registers alike execution fewer result after alike fewerLe runs

theorem Follows.change {update : Registers → Registers} (keeps : KeepsAlike origin update)
    {first second : Unit → Running β} (follows : Follows origin (first ()) (second ())) :
    Follows origin (Running.change update >>= first) (Running.change update >>= second) := by
  intro execution fewer result after alike fewerLe runs
  exact follows ⟨update execution.registers, execution.steps⟩ fewer result after
    (keeps execution.registers alike) fewerLe runs

theorem Follows.undoing {update : Registers → Registers} (keeps : KeepsAlike origin update)
    {first second : Running (Option Nat)} (follows : Follows origin first second) :
    Follows origin (Running.undoing update first) (Running.undoing update second) := by
  apply follows.bind
  intro result
  cases result with
  | none => exact .change keeps (.pure none)
  | some stop => exact .pure (some stop)

end Follows

end Running

/-- Assertions are about the same scene with alike registers. -/
theorem Trial.scene_of_alike (trial : Trial) {first second : Registers}
    (alike : first.Alike second) : trial.scene first = trial.scene second := by
  simp only [Trial.scene, alike.searchStart_eq, alike.previousEnd_eq]

/-- Every level is executed with the two levels below it. -/
theorem Trial.run_succ (trial : Trial) (levels : Nat) :
    trial.run (levels + 1) =
      trial.walk (trial.run levels) (trial.run (levels - 1)) trial.program.size := by
  cases levels <;> rfl

end Backtracking
