import Backtracking.Proofs.Completions
import Backtracking.Proofs.Layout
import Backtracking.Proofs.Running
import Backtracking.Proofs.Scopes

/-!
# What nodes realize

A node realizes a completion if its execution always comes to an end, gives what the completion
says, and leaves the registers as they have to be: behind a match the captures are those of the
outcome, and behind a failure everything that matters to the nodes around is what it was before.

The nodes of a matching lead from its first node to the node that follows: whatever completion the
latter realizes, the former realizes the matching followed by this completion.  How many levels this
takes is counted along, so that a program as a whole is known to need no more than so many.
-/

namespace Backtracking

/-- What stays the same in an attempt without a limit on its steps: the program and the subject, the
depths of loops and groups, and registers that are alike to those of the attempt. -/
structure Setting where
  trial : Trial
  unlimited : trial.limits.maxSteps = none
  sealing : Sealing
  origin : Registers
  loops_size : origin.loops.size = trial.program.loopSlots

namespace Setting

variable (setting : Setting)

abbrev subject : Subject := setting.trial.subject

def scene : Scene := setting.trial.scene setting.origin

/-- Registers as they occur in an attempt. -/
structure Proper (registers : Registers) : Prop where
  alike : registers.Alike setting.origin
  valid : registers.captured.Valid setting.subject

/-- Registers that are what they were before, as far as this matters at some depth. -/
structure Restored (depth : Nat) (before after : Registers) : Prop where
  proper : setting.Proper after
  captured_eq : after.captured = before.captured
  agree : after.AgreeBelow setting.sealing (depth + 1) before

/-- The answer of an execution at some depth, and the registers behind it, are what is expected. -/
inductive Answers (depth : Nat) (before : Registers) :
    Option Outcome → Option Nat → Registers → Prop where
  | fails {after : Registers} (restored : setting.Restored depth before after) :
      Answers depth before none none after
  | succeeds {outcome : Outcome} {after : Registers} (proper : setting.Proper after)
      (captured_eq : after.captured = outcome.captured)
      (agree : after.AgreeBelow setting.sealing depth before) :
      Answers depth before (some outcome) (some outcome.stop) after

/-- An execution may begin at a position, which is no less than `start`. -/
structure Ready (frame : Frame setting.sealing) (start position : Nat) (registers : Registers) :
    Prop where
  start_le : start ≤ position
  le_size : position ≤ setting.subject.size
  proper : setting.Proper registers
  holds : frame.Holds registers

/-- The execution of nodes at a level, as long as they can be left in one way only. -/
abbrev walkAt (level fuel : Nat) : Continuation :=
  setting.trial.walk (setting.trial.run level) (setting.trial.run (level - 1)) fuel

/-- From positions `start` on, a node gives what a completion says, if so many levels are left. -/
structure Realizes (frame : Frame setting.sealing) (start levels : Nat) (id : NodeId)
    (complete : Completion) : Prop where
  lt_size : id < setting.trial.program.size
  walks : ∀ {level fuel position before}, levels ≤ level → id < fuel →
    setting.Ready frame start position before →
    (setting.walkAt level fuel id position).Yields before
      (setting.Answers frame.depth before (complete position before.captured))

/-- Nodes at some depth lead from `entry` to `next` by a matching, which takes so many levels.  They
enter no other groups and loops than those given. -/
def Leads (depth : Nat) (groups : List Nat) (slots : Nat) (matching : Matching) (frames : Nat)
    (entry next : NodeId) : Prop :=
  ∀ (frame : Frame setting.sealing) (start levels : Nat) (complete : Completion),
    frame.depth = depth → frame.Avoids groups slots →
    setting.Realizes frame start levels next complete →
    setting.Realizes frame start (levels + frames) entry (matching.followedBy complete)

end Setting

namespace Setting

variable {setting : Setting} {depth : Nat} {before middle after : Registers}

theorem Proper.scene_eq (proper : setting.Proper before) :
    setting.trial.scene before = setting.scene :=
  setting.trial.scene_of_alike proper.alike

/-! ## Answers -/

theorem Restored.refl (proper : setting.Proper before) : setting.Restored depth before before :=
  ⟨proper, rfl, .refl before⟩

theorem Restored.trans (begins : setting.Restored depth before middle)
    (follows : setting.Restored depth middle after) : setting.Restored depth before after :=
  ⟨follows.proper, follows.captured_eq.trans begins.captured_eq, follows.agree.trans begins.agree⟩

theorem Restored.weaken (restored : setting.Restored depth before after) {lower : Nat}
    (lowerLe : lower ≤ depth) : setting.Restored lower before after :=
  ⟨restored.proper, restored.captured_eq, restored.agree.weaken (Nat.succ_le_succ lowerLe)⟩

theorem Restored.retry (restored : setting.Restored depth before middle)
    {expected : Option Outcome} {answer : Option Nat}
    (answers : setting.Answers depth middle expected answer after) :
    setting.Answers depth before expected answer after := by
  cases answers with
  | fails again => exact .fails (restored.trans again)
  | succeeds proper captured_eq agree =>
      exact .succeeds proper captured_eq (agree.trans (restored.agree.weaken (Nat.le_succ depth)))

theorem refuses (proper : setting.Proper before) :
    (pure none : Running (Option Nat)).Yields before (setting.Answers depth before none) :=
  .pure (.fails (.refl proper))

/-- What is tried first is changed back before something else is tried. -/
theorem orElse {first : Running (Option Nat)} {next : Option Nat → Running (Option Nat)}
    {preferred other : Option Outcome}
    (tries : first.Yields before (setting.Answers depth before preferred))
    (keeps : ∀ stop, next (some stop) = pure (some stop))
    (retries : ∀ middle, setting.Restored depth before middle →
      (next none).Yields middle (setting.Answers depth middle other)) :
    (first >>= next).Yields before (setting.Answers depth before (preferred.or other)) := by
  refine tries.bind ?_
  intro answer middle answers
  cases answers with
  | fails restored =>
      exact (retries middle restored).weaken fun _ _ answered => restored.retry answered
  | succeeds proper captured_eq agree =>
      rw [keeps]
      exact .pure (.succeeds proper captured_eq agree)

theorem undoing {update : Registers → Registers} {attempt : Running (Option Nat)}
    {expected : Option Outcome} {changed : Registers}
    (yields : attempt.Yields changed (setting.Answers depth changed expected))
    (agree : changed.AgreeBelow setting.sealing depth before)
    (undoes : ∀ after, setting.Restored depth changed after →
      setting.Restored depth before (update after)) :
    (Running.undoing update attempt).Yields changed (setting.Answers depth before expected) := by
  apply yields.undoing
  · intro after answers
    cases answers with
    | fails restored => exact .fails (undoes after restored)
  · intro stop after answers
    cases answers with
    | succeeds proper captured_eq deeper =>
        exact .succeeds proper captured_eq (deeper.trans agree)

/-! ## Execution of a node -/

section Nodes

variable {frame : Frame setting.sealing} {start levels level position : Nat} {id : NodeId}
  {complete : Completion}

theorem Ready.retry (ready : setting.Ready frame start position before)
    (restored : setting.Restored frame.depth before middle) :
    setting.Ready frame start position middle :=
  ⟨ready.start_le, ready.le_size, restored.proper, ready.holds.agree restored.agree⟩

theorem Realizes.weaken (realizes : setting.Realizes frame start levels id complete)
    {later more : Nat} (laterLe : start ≤ later) (moreLe : levels ≤ more) :
    setting.Realizes frame later more id complete where
  lt_size := realizes.lt_size
  walks enough inside ready :=
    realizes.walks (Nat.le_trans moreLe enough) inside
      ⟨Nat.le_trans laterLe ready.start_le, ready.le_size, ready.proper, ready.holds⟩

theorem Realizes.runs (realizes : setting.Realizes frame start levels id complete)
    (enough : levels < level) (ready : setting.Ready frame start position before) :
    (setting.trial.run level id position).Yields before
      (setting.Answers frame.depth before (complete position before.captured)) := by
  obtain ⟨fewer, rfl⟩ := Nat.exists_eq_add_one_of_ne_zero (Nat.ne_zero_of_lt enough)
  rw [setting.trial.run_succ]
  exact realizes.walks (Nat.le_of_lt_succ enough) realizes.lt_size ready

theorem Realizes.node {node : Node} (holds : setting.trial.program.Holds id node)
    (passes : ∀ {level fuel position before}, levels ≤ level → id ≤ fuel →
      setting.Ready frame start position before →
      (setting.trial.pass (setting.trial.run level) (setting.trial.run (level - 1))
          (setting.walkAt level fuel) id position node).Yields before
        (setting.Answers frame.depth before (complete position before.captured))) :
    setting.Realizes frame start levels id complete where
  lt_size := holds.lt_size
  walks {level fuel position before} enough inside ready := by
    cases fuel with
    | zero => exact absurd inside (Nat.not_lt_zero id)
    | succ fuel =>
        refine Running.Yields.visit setting.unlimited ?_
        rw [holds.node_eq]
        exact passes enough (Nat.le_of_lt_succ inside) ready

theorem Realizes.done (holds : setting.trial.program.Holds Program.done .done) :
    setting.Realizes frame start 0 Program.done Matching.completed := by
  refine .node holds fun {level fuel position before} _ _ ready => ?_
  have answers : setting.Answers frame.depth before (some ⟨position, before.captured⟩)
      (some position) before := .succeeds ready.proper rfl (.refl before)
  exact .pure answers

end Nodes

end Setting

end Backtracking
