import Backtracking.Proofs.Realization

/-!
# Simulation of parts that are tried on their own

The nodes of such a part lead to a node at which a match is complete, whatever follows the part.  So
its execution gives the first outcome of the part.  What it leaves in the registers of its loops and
groups matters to none but the part itself, and when what follows fails, the captures go back.
-/

namespace Backtracking

namespace Setting

open Matching Running Trial

variable {setting : Setting} {depth : Nat} {groups : List Nat} {slots : Nat}
  {before middle : Registers}

/-- The nodes of a part that is tried on its own, one level deeper, give its first outcome. -/
theorem Leads.runs {body : Matching} {frames first start level position : Nat}
    {frame : Frame setting.sealing}
    (done : setting.trial.program.Holds Program.done .done)
    (leads : setting.Leads (frame.depth + 1) groups slots body frames first Program.done)
    (avoids : frame.Avoids groups slots) (enough : frames < level)
    (ready : setting.Ready frame start position before) :
    (setting.trial.run level first position).Yields before
      (setting.Answers (frame.depth + 1) before (body position before.captured).head?) := by
  have realizes := leads frame.within start 0 completed rfl avoids (.done done)
  rw [Nat.zero_add] at realizes
  rw [← followedBy_completed]
  exact realizes.runs enough ⟨ready.start_le, ready.le_size, ready.proper, ready.holds⟩

/-! ## Going back -/

/-- Registers behind a part that was tried on its own. -/
structure Beyond (setting : Setting) (depth : Nat) (before after : Registers) : Prop where
  proper : setting.Proper after
  agree : after.AgreeBelow setting.sealing (depth + 1) before

theorem Beyond.trans {after : Registers} (begins : setting.Beyond depth before middle)
    (follows : setting.Beyond depth middle after) : setting.Beyond depth before after :=
  ⟨follows.proper, follows.agree.trans begins.agree⟩

theorem Restored.beyond (restored : setting.Restored depth before middle) :
    setting.Beyond depth before middle :=
  ⟨restored.proper, restored.agree⟩

theorem Beyond.goBack (beyond : setting.Beyond depth before middle)
    (proper : setting.Proper before) :
    setting.Restored depth before (setting.trial.goBack before middle) := by
  have captured : (setting.trial.goBack before middle).captured = before.captured :=
    middle.captured_rolledBack setting.trial.rollback before
  refine ⟨⟨?_, ?_⟩, captured, Registers.rolledBack_agree beyond.agree _⟩
  · exact (Registers.rolledBack_alike (beyond.proper.alike.trans proper.alike.symm) _).trans
      proper.alike
  · rw [captured]
    exact proper.valid

/-- What follows a part that was tried on its own is tried, and the captures go back if it fails. -/
theorem Beyond.undoing (beyond : setting.Beyond depth before middle)
    (proper : setting.Proper before) {attempt : Running (Option Nat)} {expected : Option Outcome}
    (yields : attempt.Yields middle (setting.Answers depth middle expected)) :
    (Running.undoing (setting.trial.goBack before) attempt).Yields middle
      (setting.Answers depth before expected) := by
  refine Setting.undoing yields (beyond.agree.weaken (Nat.le_succ depth)) fun after restored => ?_
  exact (beyond.trans restored.beyond).goBack proper

theorem Ready.beyond {frame : Frame setting.sealing} {start position stop : Nat}
    (ready : setting.Ready frame start position before)
    (beyond : setting.Beyond frame.depth before middle) (ordered : position ≤ stop)
    (inside : stop ≤ setting.subject.size) : setting.Ready frame start stop middle :=
  ⟨Nat.le_trans ready.start_le ordered, inside, beyond.proper, ready.holds.agree beyond.agree⟩

/-! ## Atomic parts and possessive loops -/

theorem Leads.atomic {body : Matching} {frames : Nat} {entry first next : NodeId}
    (done : setting.trial.program.Holds Program.done .done)
    (holds : setting.trial.program.Holds entry (.atomic first next))
    (advances : body.Advances setting.subject)
    (leads : setting.Leads (depth + 1) groups slots body frames first Program.done) :
    setting.Leads depth groups slots body.once (frames + 1) entry next := by
  intro frame start levels complete same avoids realizes
  subst same
  refine .node holds fun {level fuel position before} enough _ ready => ?_
  have runs := leads.runs done avoids (show frames < level by omega) ready
  have extended := advances position before.captured ready.le_size ready.proper.valid
  rw [once_followedBy]
  refine .registers (runs.bind fun answer middle answers => ?_)
  generalize reached : (body position before.captured).head? = outcome? at answers ⊢
  cases answers with
  | fails restored =>
      exact .pure (.fails (restored.weaken (Nat.le_succ _)))
  | @succeeds outcome _ proper captured_eq agree =>
      have behind := extended outcome (List.mem_of_mem_head? reached)
      have beyond : setting.Beyond frame.depth before middle := ⟨proper, agree⟩
      have follows := realizes.runs (show levels < level by omega)
        (ready.beyond beyond behind.le_stop behind.stop_le)
      rw [captured_eq] at follows
      exact beyond.undoing ready.proper follows

theorem iterates_possessively (least : Nat) (most : Option Nat) {body : Matching}
    {frames first start level position : Nat} {frame : Frame setting.sealing}
    (done : setting.trial.program.Holds Program.done .done)
    (advances : body.Advances setting.subject)
    (leads : setting.Leads (frame.depth + 1) groups slots body frames first Program.done)
    (avoids : frame.Avoids groups slots) (enough : frames < level)
    (ready : setting.Ready frame start position before) (fuel count : Nat) :
    (iteratePossessively (setting.trial.run level) first least most fuel count position).Yields
      before fun reached after =>
        let expected := possessiveIterations body least most fuel count position before.captured
        reached = (expected.1, expected.2.stop) ∧ after.captured = expected.2.captured ∧
          setting.Beyond frame.depth before after := by
  have stays {registers : Registers} (proper : setting.Proper registers) :
      setting.Beyond frame.depth registers registers := ⟨proper, .refl registers⟩
  induction fuel generalizing count position before with
  | zero => exact .pure ⟨rfl, rfl, stays ready.proper⟩
  | succ fuel ih =>
      rw [iteratePossessively, possessiveIterations]
      split
      · have runs := leads.runs done avoids enough ready
        have extended := advances position before.captured ready.le_size ready.proper.valid
        refine runs.bind fun answer middle answers => ?_
        generalize reached : (body position before.captured).head? = outcome? at answers ⊢
        cases answers with
        | fails restored =>
            exact .pure ⟨rfl, restored.captured_eq, (restored.weaken (Nat.le_succ _)).beyond⟩
        | @succeeds outcome _ proper captured_eq agree =>
            have behind := extended outcome (List.mem_of_mem_head? reached)
            have beyond : setting.Beyond frame.depth before middle := ⟨proper, agree⟩
            dsimp only
            split
            · next nothing => exact .pure ⟨by rw [nothing], captured_eq, beyond⟩
            · rw [← captured_eq]
              refine (ih (ready.beyond beyond behind.le_stop behind.stop_le) (count + 1)).weaken
                fun result after expected => ?_
              exact ⟨expected.1, expected.2.1, beyond.trans expected.2.2⟩
      · exact .pure ⟨rfl, rfl, stays ready.proper⟩

theorem Leads.possessive {body : Matching} {frames least : Nat} {most : Option Nat}
    {entry first next : NodeId} (done : setting.trial.program.Holds Program.done .done)
    (holds : setting.trial.program.Holds entry (.possessive first least most next))
    (advances : body.Advances setting.subject)
    (leads : setting.Leads (depth + 1) groups slots body frames first Program.done) :
    setting.Leads depth groups slots (body.repeated setting.subject.size least most .possessive)
      (frames + 1) entry next := by
  intro frame start levels complete same avoids realizes
  subst same
  refine .node holds fun {level fuel position before} enough _ ready => ?_
  have extended : (possessiveIterations body least most (setting.subject.size - position + 1) 0
      position before.captured).2.Extends setting.subject position before.captured :=
    possessiveIterations_extends advances ready.le_size ready.proper.valid
  rw [followedBy, repeated]
  dsimp only
  have iterates := iterates_possessively least most done advances leads avoids
    (show frames < level by omega) ready (setting.subject.size - position + 1) 0
  refine .registers (iterates.bind fun reached middle expected => ?_)
  obtain ⟨rfl, captured_eq, beyond⟩ := expected
  generalize possessiveIterations body least most (setting.subject.size - position + 1) 0 position
    before.captured = result at extended captured_eq ⊢
  dsimp only
  split
  · refine .change (.pure ?_)
    exact .fails (beyond.goBack ready.proper)
  · rw [List.findSome?_singleton, ← captured_eq]
    exact beyond.undoing ready.proper (realizes.runs (by omega)
      (ready.beyond beyond extended.le_stop extended.stop_le))

/-! ## Lookaround -/

/-- Whether a body has matched, and the registers behind it. -/
inductive Finds (setting : Setting) (depth : Nat) (before : Registers) :
    Option Outcome → Bool → Registers → Prop where
  | misses {after : Registers} (restored : setting.Restored depth before after) :
      Finds setting depth before none false after
  | finds {outcome : Outcome} {after : Registers} (captured_eq : after.captured = outcome.captured)
      (beyond : setting.Beyond depth before after) :
      Finds setting depth before (some outcome) true after

/-- Whether something follows a lookaround depends on whether its body has matched. -/
theorem looks_around {body : Matching} {negated found : Bool} {start levels level position : Nat}
    {fuel next : NodeId} {frame : Frame setting.sealing} {complete : Completion}
    (realizes : setting.Realizes frame start levels next complete) (enough : levels < level)
    (order : next < fuel) (ready : setting.Ready frame start position before)
    (finds : Finds setting frame.depth before (body position before.captured).head? found middle) :
    (setting.trial.afterLookAround (setting.trial.run level) (setting.walkAt level fuel) before
        found negated next position).Yields middle
      (setting.Answers frame.depth before
        ((looking negated body).followedBy complete position before.captured)) := by
  simp only [followedBy, looking]
  generalize (body position before.captured).head? = outcome? at finds ⊢
  cases finds with
  | misses restored =>
      cases negated with
      | false => exact .pure (.fails restored)
      | true =>
          rw [List.findSome?_singleton, ← restored.captured_eq]
          exact (realizes.walks (Nat.le_of_lt enough) order (ready.retry restored)).weaken
            fun _ _ answers => restored.retry answers
  | @finds outcome _ captured_eq beyond =>
      cases negated with
      | false =>
          rw [List.findSome?_singleton, ← captured_eq]
          exact beyond.undoing ready.proper (realizes.runs enough
            (ready.beyond beyond (Nat.le_refl _) ready.le_size))
      | true => exact .change (.pure (.fails (beyond.goBack ready.proper)))

theorem Leads.lookAhead {body : Matching} {frames : Nat} {negated : Bool}
    {entry first next : NodeId} (done : setting.trial.program.Holds Program.done .done)
    (order : next < entry)
    (holds : setting.trial.program.Holds entry (.lookAhead first negated next))
    (leads : setting.Leads (depth + 1) groups slots body frames first Program.done) :
    setting.Leads depth groups slots (looking negated body) (frames + 1) entry next := by
  intro frame start levels complete same avoids realizes
  subst same
  refine .node holds fun {level fuel position before} enough inside ready => ?_
  have runs := leads.runs done avoids (show frames < level by omega) ready
  refine .registers (runs.bind fun answer middle answers => ?_)
  refine looks_around realizes (by omega) (Nat.lt_of_lt_of_le order inside) ready ?_
  generalize (body position before.captured).head? = outcome? at answers ⊢
  cases answers with
  | fails restored => exact .misses (restored.weaken (Nat.le_succ _))
  | succeeds proper captured_eq agree => exact .finds captured_eq ⟨proper, agree⟩

/-- The branches of a lookbehind, each with its width and the node where it begins. -/
def choiceBehind (branches : List ((Nat × NodeId) × Matching)) : Matching :=
  branches.foldr (fun branch rest => (behind branch.1.1 branch.2).orElse rest) .never

theorem head?_behind {body : Matching} {width position : Nat} {captured : Captured} :
    (behind width body position captured).head? =
      if width ≤ position then (body (position - width) captured).head?.filter (·.stop = position)
      else none := by
  rw [behind]
  split
  · cases (body (position - width) captured).head?.filter (·.stop = position) <;> rfl
  · rfl

theorem finds_behind {branches : List ((Nat × NodeId) × Matching)}
    {frames start level position : Nat} {frame : Frame setting.sealing} {origin : Registers}
    (done : setting.trial.program.Holds Program.done .done)
    (leads : ∀ branch ∈ branches,
      setting.Leads (frame.depth + 1) groups slots branch.2 frames branch.1.2 Program.done)
    (avoids : frame.Avoids groups slots) (enough : frames < level)
    (ready : setting.Ready frame start position origin)
    (restored : setting.Restored frame.depth origin before) :
    (setting.trial.matchesBehind (setting.trial.run level) origin position
        (branches.map Prod.fst)).Yields before
      (Finds setting frame.depth origin
        (choiceBehind branches position origin.captured).head?) := by
  induction branches generalizing before with
  | nil => exact .pure (.misses restored)
  | cons branch branches ih =>
      obtain ⟨⟨width, first⟩, body⟩ := branch
      have further {registers : Registers}
          (restored : setting.Restored frame.depth origin registers) :=
        ih (fun other member => leads other (by simp [member])) restored
      have head : (choiceBehind (((width, first), body) :: branches) position
          origin.captured).head? =
            ((behind width body position origin.captured).head?).or
              (choiceBehind branches position origin.captured).head? :=
        List.head?_append
      rw [head, List.map_cons, matchesBehind, head?_behind]
      split
      · next fits =>
          have backward : setting.Ready frame 0 (position - width) before :=
            ⟨Nat.zero_le _, Nat.le_trans (Nat.sub_le _ _) ready.le_size, restored.proper,
              ready.holds.agree restored.agree⟩
          have runs := (leads ((width, first), body) (by simp)).runs done avoids enough backward
          rw [restored.captured_eq] at runs
          refine runs.bind fun answer middle answers => ?_
          generalize (body (position - width) origin.captured).head? = outcome? at answers ⊢
          cases answers with
          | fails again => exact further (restored.trans (again.weaken (Nat.le_succ _)))
          | @succeeds outcome _ proper' captured_eq agree =>
              have beyond : setting.Beyond frame.depth before middle := ⟨proper', agree⟩
              have beyondOrigin := restored.beyond.trans beyond
              dsimp only
              split
              · next ends =>
                  rw [Option.filter_some, if_pos (by simpa using ends)]
                  exact .pure (.finds captured_eq beyondOrigin)
              · next ends =>
                  rw [Option.filter_some, if_neg (by simpa using ends), Option.none_or]
                  exact .change (further (beyondOrigin.goBack ready.proper))
      · exact further restored

theorem Leads.lookBehind {branches : List ((Nat × NodeId) × Matching)} {frames : Nat}
    {negated : Bool} {entry next : NodeId} (done : setting.trial.program.Holds Program.done .done)
    (order : next < entry)
    (holds : setting.trial.program.Holds entry (.lookBehind (branches.map Prod.fst) negated next))
    (leads : ∀ branch ∈ branches,
      setting.Leads (depth + 1) groups slots branch.2 frames branch.1.2 Program.done) :
    setting.Leads depth groups slots (looking negated (choiceBehind branches)) (frames + 1) entry
      next := by
  intro frame start levels complete same avoids realizes
  subst same
  refine .node holds fun {level fuel position before} enough inside ready => ?_
  have known : levels < level ∧ frames < level := by omega
  refine .registers ((finds_behind done leads avoids known.2 ready (.refl ready.proper)).bind
    fun found middle finds => ?_)
  exact looks_around realizes known.1 (Nat.lt_of_lt_of_le order inside) ready finds

end Setting

end Backtracking
