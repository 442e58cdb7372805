import Backtracking.Proofs.Layout
import Backtracking.Proofs.Scopes
import Backtracking.Proofs.Watching

/-!
# Ensembles of attempts

Attempts of one program that are executed side by side, within the same limits.  They may differ in
how far their registers go back, and in who watches them.  They stay together if all of them come to
the same end after the same number of steps, with the same captures, whether they exceed a limit or
not; the slots of loops and the places where groups were entered may differ, where nobody reads
them.

The captures that occur in an attempt are coherent, at its end and at every visit of a node.  This
is true of one attempt because it is an ensemble of its own.
-/

namespace Backtracking

/-! ## Coherent captures -/

namespace Captured

/-- What is written down for a group. -/
def written? (captured : Captured) (group : Nat) : Option Span := captured.spans.getD group none

/-- The captures of an attempt: all texts lie within the subject, the whole match is not known yet,
and the greatest number of a group that is captured is, or it is zero if there is none. -/
structure Coherent (subject : Subject) (captured : Captured) : Prop where
  valid : captured.Valid subject
  zeroth : captured.written? 0 = none
  le_highest : ∀ group, captured.written? group ≠ none → group ≤ captured.highest
  highest_written : captured.highest ≠ 0 → captured.written? captured.highest ≠ none

theorem Valid.written? {subject : Subject} {captured : Captured} (valid : captured.Valid subject)
    {group : Nat} {span : Span} (written : captured.written? group = some span) :
    span.start ≤ span.stop ∧ span.stop ≤ subject.size := by
  apply valid
  rw [Captured.written?, Array.getD_eq_getD_getElem?] at written
  cases entry : captured.spans[group]? with
  | none => simp [entry] at written
  | some span? =>
      simp only [entry, Option.getD_some] at written
      exact written ▸ Array.mem_of_getElem? entry

theorem written?_close {captured : Captured} {group : Nat} (inside : group < captured.spans.size)
    (span : Span) (other : Nat) :
    (captured.close group span).written? other =
      if other = group then some span else captured.written? other := by
  simp only [written?, close, Array.getD_eq_getD_getElem?]
  by_cases same : other = group
  · simp [same, inside]
  · rw [Array.getElem?_setIfInBounds_ne (Ne.symm same), if_neg same]

theorem coherent_nothing (subject : Subject) (groups : Nat) :
    (nothing groups).Coherent subject := by
  have unwritten (group : Nat) : (nothing groups).written? group = none := by
    simp only [written?, nothing, Array.getD_eq_getD_getElem?]
    cases entry : (Array.replicate groups (none : Option Span))[group]? with
    | none => rfl
    | some span? => simp_all [Array.getElem?_replicate]
  exact ⟨valid_nothing subject groups, unwritten 0, fun group set => absurd (unwritten group) set,
    fun positive => absurd rfl positive⟩

theorem Coherent.close {subject : Subject} {captured : Captured}
    (coherent : captured.Coherent subject) {group : Nat} (positive : group ≠ 0)
    (inside : group < captured.spans.size) {span : Span} (ordered : span.start ≤ span.stop)
    (within : span.stop ≤ subject.size) : (captured.close group span).Coherent subject where
  valid := coherent.valid.close ordered within
  zeroth := by
    rw [written?_close inside, if_neg positive.symm]
    exact coherent.zeroth
  le_highest other set := by
    rw [written?_close inside] at set
    split at set
    · next same => exact same ▸ Nat.le_max_right _ _
    · exact Nat.le_trans (coherent.le_highest other set) (Nat.le_max_left _ _)
  highest_written _ := by
    rw [written?_close inside]
    rcases Nat.le_total captured.highest group with below | above
    · simp [Captured.close, Nat.max_eq_right below]
    · have same : (captured.close group span).highest = captured.highest := Nat.max_eq_left above
      rw [same]
      split
      · simp
      · exact coherent.highest_written (by omega)

end Captured

/-! ## Visits -/

/-- What a node expects of the registers when it is visited: a group that is left was entered at the
position or before it. -/
def Node.Expects (position : Nat) (registers : Registers) : Node → Prop
  | .groupEnd group _ => ∃ start ≤ position, registers.opened? group = some start
  | _ => True

/-- A visit as they occur in an attempt that begins with given registers. -/
structure Trial.Visited (trial : Trial) (origin : Registers) (id : NodeId) (position : Nat)
    (registers : Registers) : Prop where
  lt_size : id < trial.program.size
  le_size : position ≤ trial.subject.size
  alike : registers.Alike origin
  coherent : registers.captured.Coherent trial.subject
  expected : (trial.program.node id).Expects position registers

/-- Attempts that are executed side by side, with the depths of loops and groups, and registers that
are alike to those of all the attempts. -/
structure Ensemble (ι : Type) where
  trial : Trial
  rollback : ι → Rollback
  watcher : ι → Watcher
  sealing : Sealing
  origin : Registers
  loops_size : origin.loops.size = trial.program.loopSlots
  captures_size : origin.captures.size = origin.opened.size
  lets : ∀ index, (watcher index).Lets (trial.Visited origin)

namespace Ensemble

variable {ι : Type} (ensemble : Ensemble ι)

abbrev subject : Subject := ensemble.trial.subject

def member (index : ι) : Trial := { ensemble.trial with rollback := ensemble.rollback index }

theorem visit_member (index : ι) : (ensemble.member index).visit = ensemble.trial.visit := rfl

/-- Registers of all attempts that are the same as far as captures are concerned. -/
structure Shares (captured : Captured) (registers : ι → Registers) : Prop where
  alike : ∀ index, (registers index).Alike ensemble.origin
  captured_eq : ∀ index, (registers index).captured = captured
  size_eq : captured.spans.size = ensemble.origin.captures.size
  coherent : captured.Coherent ensemble.subject

/-- Registers that are what they were before, as far as this matters at some depth. -/
structure Restored (depth : Nat) (captured : Captured) (before after : ι → Registers) : Prop where
  shares : ensemble.Shares captured after
  agree : ∀ index, (after index).AgreeBelow ensemble.sealing (depth + 1) (before index)

/-- The common answer of executions at some depth, which end no earlier than at `start`, and the
registers behind it. -/
inductive Answers (depth start : Nat) (captured : Captured) (before : ι → Registers) :
    Option Nat → (ι → Registers) → Prop where
  | fails {after : ι → Registers} (restored : ensemble.Restored depth captured before after) :
      Answers depth start captured before none after
  | succeeds {stop : Nat} {reached : Captured} {after : ι → Registers} (ordered : start ≤ stop)
      (inside : stop ≤ ensemble.subject.size) (shares : ensemble.Shares reached after)
      (agree : ∀ index, (after index).AgreeBelow ensemble.sealing depth (before index)) :
      Answers depth start captured before (some stop) after

/-- Executions may begin at a position, which is no less than `start`. -/
structure Ready (frame : Frame ensemble.sealing) (start position : Nat) (captured : Captured)
    (registers : ι → Registers) : Prop where
  start_le : start ≤ position
  le_size : position ≤ ensemble.subject.size
  shares : ensemble.Shares captured registers
  holds : ∀ index, frame.Holds (registers index)

/-! ## Staying together -/

/-- Pieces of all attempts, each of which starts with its own registers, come to the same end after
the same number of steps.  The result and the registers behind it satisfy a condition, and where a
limit is exceeded the captures are still the same, and coherent. -/
def Together {α : Type} (pieces : ι → Running α) (before : ι → Registers)
    (condition : α → (ι → Registers) → Prop) : Prop :=
  ∀ steps, ∃ result after taken,
    (∀ index, (pieces index).run.run ⟨before index, steps⟩ = (result, ⟨after index, taken⟩)) ∧
    match result with
    | .ok value => condition value after
    | .error _ => ∃ captured, ensemble.Shares captured after

section Together

variable {ensemble} {α β : Type} {before : ι → Registers}

theorem Together.pure {value : α} {condition : α → (ι → Registers) → Prop}
    (holds : condition value before) :
    ensemble.Together (fun _ => Pure.pure value) before condition :=
  fun steps => ⟨.ok value, before, steps, fun _ => rfl, holds⟩

theorem Together.throw {captured : Captured} (shares : ensemble.Shares captured before)
    (error : MatchError) {condition : α → (ι → Registers) → Prop} :
    ensemble.Together (fun _ => MonadExcept.throw error) before condition :=
  fun steps => ⟨.error error, before, steps, fun _ => rfl, captured, shares⟩

theorem Together.weaken {pieces : ι → Running α} {stronger weaker : α → (ι → Registers) → Prop}
    (together : ensemble.Together pieces before stronger)
    (implies : ∀ value after, stronger value after → weaker value after) :
    ensemble.Together pieces before weaker := by
  intro steps
  obtain ⟨result, after, taken, runs, ends⟩ := together steps
  refine ⟨result, after, taken, runs, ?_⟩
  cases result with
  | ok value => exact implies value after ends
  | error error => exact ends

theorem Together.bind {first : ι → Running α} {next : ι → α → Running β}
    {middle : α → (ι → Registers) → Prop} {condition : β → (ι → Registers) → Prop}
    (begins : ensemble.Together first before middle)
    (follows : ∀ value after, middle value after →
      ensemble.Together (fun index => next index value) after condition) :
    ensemble.Together (fun index => first index >>= next index) before condition := by
  intro steps
  obtain ⟨result, between, taken, runs, ends⟩ := begins steps
  cases result with
  | error error =>
      refine ⟨.error error, between, taken, fun index => ?_, ends⟩
      rw [Running.run_bind, runs]
  | ok value =>
      obtain ⟨result, after, final, finishes, ending⟩ := follows value between ends taken
      refine ⟨result, after, final, fun index => ?_, ending⟩
      rw [Running.run_bind, runs]
      exact finishes index

theorem Together.registers {next : ι → Registers → Running β}
    {condition : β → (ι → Registers) → Prop}
    (follows : ensemble.Together (fun index => next index (before index)) before condition) :
    ensemble.Together (fun index => Running.registers >>= next index) before condition :=
  fun steps => follows steps

theorem Together.change {update : ι → Registers → Registers} {next : ι → Unit → Running β}
    {condition : β → (ι → Registers) → Prop}
    (follows : ensemble.Together (fun index => next index ())
      (fun index => update index (before index)) condition) :
    ensemble.Together (fun index => Running.change (update index) >>= next index) before
      condition :=
  fun steps => follows steps

theorem Together.ite {decision : Prop} {decides : ι → Decidable decision} {yes no : ι → Running α}
    {condition : α → (ι → Registers) → Prop}
    (left : decision → ensemble.Together yes before condition)
    (right : ¬ decision → ensemble.Together no before condition) :
    ensemble.Together (fun index => @ite _ decision (decides index) (yes index) (no index)) before
      condition := by
  by_cases decided : decision
  · simp only [if_pos decided]
    exact left decided
  · simp only [if_neg decided]
    exact right decided

theorem Together.visit {captured : Captured} (shares : ensemble.Shares captured before)
    {id : NodeId} {position : Nat}
    (visited : ∀ index, ensemble.trial.Visited ensemble.origin id position (before index))
    {next : ι → Running β} {condition : β → (ι → Registers) → Prop}
    (follows : ensemble.Together next before condition) :
    ensemble.Together (fun index => do
      (ensemble.member index).visit
      ensemble.watcher index id position
      next index) before condition := by
  intro steps
  obtain ⟨verdict, counted⟩ : ∃ verdict, ∀ registers,
      ensemble.trial.visit.run.run ⟨registers, steps⟩ = (verdict, ⟨registers, steps + 1⟩) :=
    ⟨(ensemble.trial.visit.run.run ⟨ensemble.origin, steps⟩).1, fun registers => by
      rw [Running.run_visit, Running.run_visit]⟩
  cases verdict with
  | error error =>
      refine ⟨.error error, before, steps + 1, fun index => ?_, captured, shares⟩
      rw [Running.run_bind, ensemble.visit_member, counted]
  | ok done =>
      obtain ⟨result, after, taken, finishes, ending⟩ := follows (steps + 1)
      refine ⟨result, after, taken, fun index => ?_, ending⟩
      rw [Running.run_bind, ensemble.visit_member, counted]
      dsimp only
      rw [Running.run_bind, ensemble.lets index id position _ (visited index)]
      exact finishes index

end Together

/-! ## Answers -/

section Answers

variable {ensemble} {depth start position : Nat} {captured : Captured}
  {before middle after : ι → Registers}

theorem Restored.refl (shares : ensemble.Shares captured before) :
    ensemble.Restored depth captured before before :=
  ⟨shares, fun index => .refl (before index)⟩

theorem Restored.trans (begins : ensemble.Restored depth captured before middle)
    (follows : ensemble.Restored depth captured middle after) :
    ensemble.Restored depth captured before after :=
  ⟨follows.shares, fun index => (follows.agree index).trans (begins.agree index)⟩

theorem Restored.weaken (restored : ensemble.Restored depth captured before after) {lower : Nat}
    (lowerLe : lower ≤ depth) : ensemble.Restored lower captured before after :=
  ⟨restored.shares, fun index => (restored.agree index).weaken (Nat.succ_le_succ lowerLe)⟩

theorem Restored.retry (restored : ensemble.Restored depth captured before middle)
    {answer : Option Nat} (answers : ensemble.Answers depth start captured middle answer after) :
    ensemble.Answers depth start captured before answer after := by
  cases answers with
  | fails again => exact .fails (restored.trans again)
  | succeeds ordered inside shares agree =>
      exact .succeeds ordered inside shares fun index =>
        (agree index).trans ((restored.agree index).weaken (Nat.le_succ depth))

theorem Answers.earlier {answer : Option Nat} {earlier : Nat} (ordered : earlier ≤ start)
    (answers : ensemble.Answers depth start captured before answer after) :
    ensemble.Answers depth earlier captured before answer after := by
  cases answers with
  | fails restored => exact .fails restored
  | succeeds later inside shares agree =>
      exact .succeeds (Nat.le_trans ordered later) inside shares agree

theorem refuses (shares : ensemble.Shares captured before) :
    ensemble.Together (fun _ => pure none) before
      (ensemble.Answers depth start captured before) :=
  .pure (.fails (.refl shares))

/-- What is tried first is changed back before something else is tried. -/
theorem orElse {first : ι → Running (Option Nat)} {next : ι → Option Nat → Running (Option Nat)}
    (tries : ensemble.Together first before (ensemble.Answers depth start captured before))
    (keeps : ∀ index stop, next index (some stop) = pure (some stop))
    (retries : ∀ middle, ensemble.Restored depth captured before middle →
      ensemble.Together (fun index => next index none) middle
        (ensemble.Answers depth start captured middle)) :
    ensemble.Together (fun index => first index >>= next index) before
      (ensemble.Answers depth start captured before) := by
  refine tries.bind fun answer middle answers => ?_
  cases answers with
  | fails restored =>
      exact (retries middle restored).weaken fun _ _ answered => restored.retry answered
  | succeeds ordered inside shares agree =>
      simp only [keeps]
      exact .pure (.succeeds ordered inside shares agree)

/-- Registers are changed, and changed back when what follows fails. -/
theorem undoing {update : ι → Registers → Registers} {attempt : ι → Running (Option Nat)}
    {changed : ι → Registers} {inner : Captured}
    (tries : ensemble.Together attempt changed (ensemble.Answers depth start inner changed))
    (agree : ∀ index, (changed index).AgreeBelow ensemble.sealing depth (before index))
    (undoes : ∀ after, ensemble.Restored depth inner changed after →
      ensemble.Restored depth captured before fun index => update index (after index)) :
    ensemble.Together (fun index => Running.undoing (update index) (attempt index)) changed
      (ensemble.Answers depth start captured before) := by
  refine tries.bind fun answer middle answers => ?_
  cases answers with
  | fails restored => exact .change (.pure (.fails (undoes middle restored)))
  | succeeds ordered inside shares deeper =>
      exact .pure (.succeeds ordered inside shares fun index =>
        (deeper index).trans (agree index))

end Answers

/-! ## Execution of a node -/

/-- The execution of nodes with so many levels left. -/
abbrev runAt (level : Nat) (index : ι) : Continuation :=
  (ensemble.member index).watchedRun (ensemble.watcher index) level

/-- The execution of nodes at a level, as long as they can be left in one way only. -/
abbrev walkAt (level fuel : Nat) (index : ι) : Continuation :=
  (ensemble.member index).watchedWalk (ensemble.watcher index) (ensemble.runAt level index)
    (ensemble.runAt (level - 1) index) fuel

/-- From positions `start` on, the attempts stay together when they execute a node with as many
levels left or fewer. -/
structure InStep (frame : Frame ensemble.sealing) (start level : Nat) (id : NodeId) : Prop where
  lt_size : id < ensemble.trial.program.size
  walks : ∀ {lower fuel position captured before}, lower < level → id < fuel →
    ensemble.Ready frame start position captured before →
    ensemble.Together (fun index => ensemble.walkAt lower fuel index id position) before
      (ensemble.Answers frame.depth position captured before)

section Nodes

variable {ensemble} {frame : Frame ensemble.sealing} {start level position : Nat} {id : NodeId}
  {captured : Captured} {before middle : ι → Registers}

theorem Ready.retry (ready : ensemble.Ready frame start position captured before)
    (restored : ensemble.Restored frame.depth captured before middle) :
    ensemble.Ready frame start position captured middle :=
  ⟨ready.start_le, ready.le_size, restored.shares,
    fun index => (ready.holds index).agree (restored.agree index)⟩

theorem Ready.forward (ready : ensemble.Ready frame start position captured before) {stop : Nat}
    (ordered : position ≤ stop) (inside : stop ≤ ensemble.subject.size) :
    ensemble.Ready frame start stop captured before :=
  ⟨Nat.le_trans ready.start_le ordered, inside, ready.shares, ready.holds⟩

/-- A node is executed on the same level, behind some characters. -/
theorem InStep.goesOn (inStep : ensemble.InStep frame start level id) {lower fuel stop : Nat}
    (below : lower < level) (order : id < fuel)
    (ready : ensemble.Ready frame start position captured before) (ordered : position ≤ stop)
    (inside : stop ≤ ensemble.subject.size) :
    ensemble.Together (fun index => ensemble.walkAt lower fuel index id stop) before
      (ensemble.Answers frame.depth position captured before) :=
  (inStep.walks below order (ready.forward ordered inside)).weaken
    fun _ _ answers => answers.earlier ordered

theorem InStep.runs (inStep : ensemble.InStep frame start level id) {lower : Nat}
    (below : lower ≤ level) (ready : ensemble.Ready frame start position captured before) :
    ensemble.Together (fun index => ensemble.runAt lower index id position) before
      (ensemble.Answers frame.depth position captured before) := by
  cases lower with
  | zero => exact .throw ready.shares (.depthLimitExceeded ensemble.trial.limits.maxDepth)
  | succ lower =>
      simp only [runAt, Trial.watchedRun_succ]
      exact inStep.walks below inStep.lt_size ready

theorem InStep.node {node : Node} (holds : ensemble.trial.program.Holds id node)
    (expected : ∀ {position captured before},
      ensemble.Ready frame start position captured before →
      ∀ index, node.Expects position (before index))
    (passes : ∀ {lower fuel position captured before}, lower < level → id ≤ fuel →
      ensemble.Ready frame start position captured before →
      ensemble.Together (fun index => (ensemble.member index).pass (ensemble.runAt lower index)
          (ensemble.runAt (lower - 1) index) (ensemble.walkAt lower fuel index) id position node)
        before (ensemble.Answers frame.depth position captured before)) :
    ensemble.InStep frame start level id where
  lt_size := holds.lt_size
  walks {lower fuel position captured before} below inside ready := by
    cases fuel with
    | zero => exact absurd inside (Nat.not_lt_zero id)
    | succ fuel =>
        have visited (index : ι) :
            ensemble.trial.Visited ensemble.origin id position (before index) := by
          refine ⟨holds.lt_size, ready.le_size, ready.shares.alike index, ?_, ?_⟩
          · rw [ready.shares.captured_eq index]
            exact ready.shares.coherent
          · rw [holds.node_eq]
            exact expected ready index
        refine .visit ready.shares visited ?_
        have same (index : ι) : (ensemble.member index).program.node id = node := holds.node_eq
        simp only [same]
        exact passes below (Nat.le_of_lt_succ inside) ready

theorem InStep.done (holds : ensemble.trial.program.Holds Program.done .done) :
    ensemble.InStep frame start level Program.done := by
  refine .node holds (fun _ _ => trivial) fun {lower fuel position captured before} _ _ ready => ?_
  exact .pure (.succeeds (Nat.le_refl position) ready.le_size ready.shares
    fun index => .refl (before index))

end Nodes

end Ensemble

end Backtracking
