import Backtracking.Proofs.Running

/-!
# Watched attempts

An attempt is watched if something is done at each node that it visits, where the registers are
known, before the node itself is executed.  A watched attempt that does not differ from one that
nobody watches tells what is true of all visits: it is what the watcher must not object to.
-/

namespace Backtracking

/-- What is done when a node is visited at a position. -/
abbrev Watcher := NodeId → Nat → Running Unit

def Watcher.silent : Watcher := fun _ _ => pure ()

/-- A watcher does nothing at the visits that satisfy a condition. -/
def Watcher.Lets (watcher : Watcher) (condition : NodeId → Nat → Registers → Prop) : Prop :=
  ∀ id position execution, condition id position execution.registers →
    (watcher id position).run.run execution = (.ok (), execution)

theorem Watcher.silent_lets (condition : NodeId → Nat → Registers → Prop) :
    Watcher.silent.Lets condition := fun _ _ _ _ => rfl

theorem Watcher.Lets.weaken {watcher : Watcher} {stronger weaker : NodeId → Nat → Registers → Prop}
    (lets : watcher.Lets weaker)
    (implies : ∀ id position registers, stronger id position registers →
      weaker id position registers) : watcher.Lets stronger :=
  fun id position execution holds =>
    lets id position execution (implies id position execution.registers holds)

namespace Trial

open Running

/-- The execution of a program from a node on, where each visit is watched, as long as the nodes can
be left in one way only. -/
def watchedWalk (trial : Trial) (watcher : Watcher) (deeper twoDeeper : Continuation) :
    (fuel : Nat) → Continuation
  | 0, _, _ => return none
  | fuel + 1, id, position => do
      trial.visit
      watcher id position
      trial.pass deeper twoDeeper (watchedWalk trial watcher deeper twoDeeper fuel) id position
        (trial.program.node id)

/-- The execution of a program from a node on, where each visit is watched. -/
def watchedRun (trial : Trial) (watcher : Watcher) : (levels : Nat) → Continuation
  | 0 => trial.refuse
  | 1 => trial.watchedWalk watcher trial.refuse trial.refuse trial.program.size
  | levels + 2 =>
      trial.watchedWalk watcher (watchedRun trial watcher (levels + 1))
        (watchedRun trial watcher levels) trial.program.size

def watchedAttempt (trial : Trial) (watcher : Watcher) (position : Nat) : Running (Option Nat) := do
  change Registers.cleared
  trial.watchedRun watcher (trial.limits.maxDepth + 1) trial.program.start position

variable (trial : Trial)

/-- Every level is executed with the two levels below it. -/
theorem watchedRun_succ (watcher : Watcher) (levels : Nat) :
    trial.watchedRun watcher (levels + 1) =
      trial.watchedWalk watcher (trial.watchedRun watcher levels)
        (trial.watchedRun watcher (levels - 1)) trial.program.size := by
  cases levels <;> rfl

theorem watchedWalk_silent (deeper twoDeeper : Continuation) (fuel : Nat) :
    trial.watchedWalk .silent deeper twoDeeper fuel = trial.walk deeper twoDeeper fuel := by
  induction fuel with
  | zero => rfl
  | succ fuel ih =>
      funext id position
      rw [watchedWalk, walk, ih, Watcher.silent]
      simp only [pure_bind]

theorem watchedRun_silent (levels : Nat) : trial.watchedRun .silent levels = trial.run levels := by
  induction levels using Nat.strongRecOn with
  | _ levels ih =>
      cases levels with
      | zero => rfl
      | succ levels =>
          rw [watchedRun_succ, run_succ, watchedWalk_silent, ih levels (by omega),
            ih (levels - 1) (by omega)]

/-- An attempt that is watched by a watcher who does nothing is an attempt. -/
theorem watchedAttempt_silent (position : Nat) :
    trial.watchedAttempt .silent position = trial.attempt position := by
  rw [watchedAttempt, attempt, watchedRun_silent]

end Trial

end Backtracking
