import Backtracking.Proofs.CharRuns
import Backtracking.Proofs.Ensembles

/-!
# Nodes that keep an ensemble together

Attempts that stay together from some node on stay together from the nodes before it on.  This is
shown for every kind of node that belongs to the pattern around it; the scopes of loops and groups
tell what all attempts find in the registers that they read.
-/

namespace Backtracking

namespace Ensemble

open Running Trial

variable {ι : Type} {ensemble : Ensemble ι} {depth : Nat} {groups : List Nat} {slots : Nat}

@[simp]
theorem member_subject (index : ι) : (ensemble.member index).subject = ensemble.subject := rfl

@[simp]
theorem member_program (index : ι) :
    (ensemble.member index).program = ensemble.trial.program := rfl

/-- Nodes at some depth carry the attempts from `entry` to `next`: they stay together from the first
on if they do so from the second on.  The nodes enter no other groups and loops than those given. -/
def Carries (ensemble : Ensemble ι) (depth : Nat) (groups : List Nat) (slots : Nat)
    (entry next : NodeId) : Prop :=
  ∀ (frame : Frame ensemble.sealing) (start level : Nat), frame.depth = depth →
    frame.Avoids groups slots → ensemble.InStep frame start level next →
    ensemble.InStep frame start level entry

theorem Carries.refl (next : NodeId) : ensemble.Carries depth groups slots next next :=
  fun _ _ _ _ _ inStep => inStep

theorem Carries.trans {entry middle next : NodeId}
    (begins : ensemble.Carries depth groups slots entry middle)
    (follows : ensemble.Carries depth groups slots middle next) :
    ensemble.Carries depth groups slots entry next :=
  fun frame start level same avoids inStep =>
    begins frame start level same avoids (follows frame start level same avoids inStep)

theorem Carries.weaken {entry next : NodeId}
    (carries : ensemble.Carries depth groups slots entry next) {more : List Nat} {fewer : Nat}
    (included : groups ⊆ more) (fewerLe : fewer ≤ slots) :
    ensemble.Carries depth more fewer entry next :=
  fun frame start level same avoids inStep =>
    carries frame start level same (avoids.weaken included fewerLe) inStep

/-! ## Nodes that are passed -/

theorem Carries.char {matcher : CharMatcher} {entry next : NodeId}
    (holds : ensemble.trial.program.Holds entry (.char matcher next)) (order : next < entry) :
    ensemble.Carries depth groups slots entry next := by
  intro frame start level _ _ inStep
  refine .node holds (fun _ _ => trivial) fun {lower fuel position captured before}
    below inside ready => ?_
  simp only [Trial.pass, member_subject]
  refine .ite (fun accepted => ?_) fun _ => refuses ready.shares
  exact inStep.goesOn below (Nat.lt_of_lt_of_le order inside) ready (Nat.le_succ position)
    (Subject.lt_size_of_acceptsAt accepted)

theorem Carries.literal {text : List Char} {ignoresCase : Bool} {entry next : NodeId}
    (holds : ensemble.trial.program.Holds entry (.literal text ignoresCase next))
    (order : next < entry) : ensemble.Carries depth groups slots entry next := by
  intro frame start level _ _ inStep
  refine .node holds (fun _ _ => trivial) fun {lower fuel position captured before}
    below inside ready => ?_
  simp only [Trial.pass, member_subject]
  refine .ite (fun stands => ?_) fun _ => refuses ready.shares
  exact inStep.goesOn below (Nat.lt_of_lt_of_le order inside) ready (Nat.le_add_right _ _)
    (Subject.add_length_le_of_textAt ready.le_size stands)

/-- All attempts have the same scene, whatever else has become of their registers. -/
theorem Shares.scene_eq {captured : Captured} {registers : ι → Registers}
    (shares : ensemble.Shares captured registers) (index : ι) :
    (ensemble.member index).scene (registers index) = ensemble.trial.scene ensemble.origin :=
  ensemble.trial.scene_of_alike (shares.alike index)

theorem Carries.assertion {assertion : Assertion} {entry next : NodeId}
    (holds : ensemble.trial.program.Holds entry (.assert assertion next)) (order : next < entry) :
    ensemble.Carries depth groups slots entry next := by
  intro frame start level _ _ inStep
  refine .node holds (fun _ _ => trivial) fun {lower fuel position captured before}
    below inside ready => ?_
  refine .registers ?_
  simp only [ready.shares.scene_eq]
  refine .ite (fun _ => ?_) fun _ => refuses ready.shares
  exact inStep.goesOn below (Nat.lt_of_lt_of_le order inside) ready (Nat.le_refl position)
    ready.le_size

theorem Shares.capture?_eq {captured : Captured} {registers : ι → Registers}
    (shares : ensemble.Shares captured registers) (index : ι) (group : Nat) :
    (registers index).capture? group = captured.span? group := by
  rw [Registers.capture?_eq, shares.captured_eq index]

theorem Carries.backReference {group : Nat} {ignoresCase : Bool} {entry next : NodeId}
    (holds : ensemble.trial.program.Holds entry (.backReference group ignoresCase next))
    (order : next < entry) : ensemble.Carries depth groups slots entry next := by
  intro frame start level _ _ inStep
  refine .node holds (fun _ _ => trivial) fun {lower fuel position captured before}
    below inside ready => ?_
  refine .registers ?_
  simp only [ready.shares.capture?_eq, member_subject]
  cases found : captured.span? group with
  | none => exact refuses ready.shares
  | some span =>
      have length : (ensemble.subject.slice span.start span.stop).length = span.stop - span.start :=
        Subject.length_slice (ready.shares.coherent.valid.span? found).2
      refine .ite (fun stands => ?_) fun _ => refuses ready.shares
      have within := Subject.add_length_le_of_textAt ready.le_size stands
      rw [length] at within
      exact inStep.goesOn below (Nat.lt_of_lt_of_le order inside) ready (Nat.le_add_right _ _) within

theorem Carries.pendingText {pending : PendingText} {entry : NodeId}
    (encodes : EncodesText ensemble.trial.program pending entry) :
    ensemble.Carries depth groups slots entry pending.next := by
  cases encodes with
  | none => exact .refl _
  | char order holds => exact .char holds order
  | literal order holds => exact .literal holds order

theorem Carries.conditional {group : Nat} {entry yes no next : NodeId}
    (holds : ensemble.trial.program.Holds entry (.conditional group yes no))
    (order : yes < entry ∧ no < entry)
    (carriesYes : ensemble.Carries depth groups slots yes next)
    (carriesNo : ensemble.Carries depth groups slots no next) :
    ensemble.Carries depth groups slots entry next := by
  intro frame start level same avoids inStep
  refine .node holds (fun _ _ => trivial) fun {lower fuel position captured before}
    below inside ready => ?_
  refine .registers ?_
  simp only [ready.shares.capture?_eq]
  split
  · exact (carriesYes frame start level same avoids inStep).walks below
      (Nat.lt_of_lt_of_le order.1 inside) ready
  · exact (carriesNo frame start level same avoids inStep).walks below
      (Nat.lt_of_lt_of_le order.2 inside) ready

/-! ## Groups -/

theorem Shares.setOpened {captured : Captured} {registers : ι → Registers}
    (shares : ensemble.Shares captured registers) (group : Nat) (position : ι → Option Nat) :
    ensemble.Shares captured fun index => (registers index).setOpened group (position index) where
  alike index := ((registers index).setOpened_alike group _).trans (shares.alike index)
  captured_eq := shares.captured_eq
  size_eq := shares.size_eq
  coherent := shares.coherent

theorem Shares.opened_size {captured : Captured} {registers : ι → Registers}
    (shares : ensemble.Shares captured registers) (index : ι) :
    (registers index).opened.size = ensemble.origin.opened.size :=
  (shares.alike index).opened_size

/-- A group that was entered is closed in all registers. -/
theorem Shares.closeGroup {captured : Captured} {registers : ι → Registers}
    (shares : ensemble.Shares captured registers) {group : Nat} (positive : group ≠ 0)
    (inside : group < ensemble.origin.opened.size) {position stop : Nat}
    (entered : ∀ index, (registers index).opened? group = some position)
    (ordered : position ≤ stop) (within : stop ≤ ensemble.subject.size) :
    ensemble.Shares (captured.close group ⟨position, stop⟩)
      fun index => (registers index).closeGroup group stop where
  alike index := ((registers index).closeGroup_alike group stop).trans (shares.alike index)
  captured_eq index := by
    rw [Registers.captured_closeGroup _ (entered index), shares.captured_eq index]
  size_eq := (captured.size_close group _).trans shares.size_eq
  coherent := by
    refine shares.coherent.close positive ?_ ordered within
    rw [shares.size_eq, ensemble.captures_size]
    exact inside

/-- Registers in which a group was closed are restored with the text that it had before. -/
theorem Restored.reopen {depth group stop : Nat} {captured inner : Captured}
    {before after : ι → Registers} (shares : ensemble.Shares captured before)
    (closed : ∀ index, ((before index).closeGroup group stop).captured = inner)
    (restored : ensemble.Restored depth inner
      (fun index => (before index).closeGroup group stop) after) :
    ensemble.Restored depth captured before fun index =>
      { (after index).setCapture group ((before index).captures.getD group none) with
        highestGroup := (before index).highestGroup } := by
  refine ⟨⟨fun index => ?_, fun index => ?_, shares.size_eq, shares.coherent⟩, fun index => ?_⟩
  · have alike := ((after index).setCapture_alike group
      ((before index).captures.getD group none)).trans (restored.shares.alike index)
    exact { alike with }
  · have same : (after index).captured = ((before index).closeGroup group stop).captured :=
      (restored.shares.captured_eq index).trans (closed index).symm
    rw [Registers.captured_reopened same, shares.captured_eq index]
  · have agree := (restored.agree index).trans
      (Registers.closeGroup_agree group stop (before index))
    exact { agree with }

/-- The place where a group was entered is known behind its body, for its scope tells. -/
theorem Carries.capturing {group : Nat} {entry first stop next : NodeId}
    (opens : ensemble.trial.program.Holds entry (.groupStart group first))
    (closes : ensemble.trial.program.Holds stop (.groupEnd group next)) (positive : group ≠ 0)
    (outside : group ∉ groups) (sealed : ensemble.sealing.groupDepth group = depth)
    (inside : group < ensemble.origin.opened.size)
    (carries : ensemble.Carries depth groups slots first stop) :
    ensemble.Carries depth (group :: groups) slots entry next := by
  intro frame start level same avoids inStep
  have deep : ensemble.sealing.groupDepth group = frame.depth := sealed.trans same.symm
  have shallow (position : Nat) :
      (Scope.group group position).depth ensemble.sealing ≤ frame.depth :=
    Nat.le_of_eq deep
  have closing (position : Nat) (startLe : start ≤ position) :
      ensemble.InStep (frame.enter (.group group position) (shallow position)) position level
        stop := by
    have entered {reached : Nat} {captured : Captured} {before : ι → Registers}
        (ready : ensemble.Ready (frame.enter (.group group position) (shallow position)) position
          reached captured before) (index : ι) : (before index).opened? group = some position :=
      (Frame.holds_enter.mp (ready.holds index)).1
    refine .node closes (fun ready index => ⟨position, ready.start_le, entered ready index⟩)
      fun {lower fuel reached captured before} below _ ready => ?_
    have shares := ready.shares.closeGroup positive inside (entered ready) ready.start_le
      ready.le_size
    have closed : ensemble.Ready frame start reached _ _ :=
      ⟨Nat.le_trans startLe ready.start_le, ready.le_size, shares, fun index =>
        (Frame.holds_enter.mp (ready.holds index)).2.agree
          (Registers.closeGroup_agree group reached (before index))⟩
    refine .registers (.registers (.change ?_))
    refine undoing (inStep.runs (Nat.le_of_lt below) closed)
      (fun index => Registers.closeGroup_agree group reached (before index)) fun after restored => ?_
    exact restored.reopen ready.shares shares.captured_eq
  refine .node opens (fun _ _ => trivial) fun {lower fuel position captured before}
    below _ ready => ?_
  have bodyInStep := carries (frame.enter (.group group position) (shallow position)) position
    level same
    (Frame.avoids_enter.mpr ⟨outside, avoids.weaken (List.subset_cons_self _ _) (Nat.le_refl _)⟩)
    (closing position ready.start_le)
  have bound {registers : ι → Registers} (shares : ensemble.Shares captured registers)
      (index : ι) : group < (registers index).opened.size := by
    rw [shares.opened_size index]
    exact inside
  have opened : ensemble.Ready (frame.enter (.group group position) (shallow position)) position
      position captured fun index => (before index).setOpened group (some position) :=
    ⟨Nat.le_refl _, ready.le_size, ready.shares.setOpened group _, fun index =>
      Frame.holds_enter.mpr ⟨(before index).opened?_setOpened (bound ready.shares index) _,
        (ready.holds index).setOpened avoids (List.mem_cons_self ..) _⟩⟩
  refine .registers (.change ?_)
  refine undoing (bodyInStep.runs (Nat.le_of_lt below) opened)
    (fun index => Registers.setOpened_agree (Nat.le_of_eq deep.symm) _ (before index))
    fun after restored => ?_
  exact ⟨restored.shares.setOpened group _, fun index =>
    (restored.agree index).setOpened_back (bound restored.shares index)⟩

/-! ## Choices -/

theorem tries_alternatives {frame : Frame ensemble.sealing} {start level lower fuel position : Nat}
    {entries : List NodeId} {captured : Captured} {before : ι → Registers}
    {finish : ι → Option Nat × Option NodeId → Running (Option Nat)}
    (keeps : ∀ index stop rest, finish index (some stop, rest) = pure (some stop))
    (goesOn : ∀ index last,
      finish index (none, some last) = ensemble.walkAt lower fuel index last position)
    (ends : ∀ index, finish index (none, none) = pure none) (below : lower < level)
    (inStep : ∀ entry ∈ entries, entry < fuel ∧ ensemble.InStep frame start level entry)
    (ready : ensemble.Ready frame start position captured before) :
    ensemble.Together
      (fun index => tryAlternatives (ensemble.runAt lower index) position entries >>= finish index)
      before (ensemble.Answers frame.depth position captured before) := by
  induction entries generalizing before with
  | nil =>
      simp only [tryAlternatives, pure_bind, ends]
      exact refuses ready.shares
  | cons entry entries ih =>
      obtain ⟨order, branchInStep⟩ := inStep entry (by simp)
      cases entries with
      | nil =>
          simp only [tryAlternatives, pure_bind, goesOn]
          exact branchInStep.walks below order ready
      | cons second rest =>
          simp only [tryAlternatives, bind_assoc]
          refine orElse (branchInStep.runs (Nat.le_of_lt below) ready) (fun index stop => ?_)
            fun middle restored => ?_
          · rw [pure_bind, keeps]
          · exact ih (fun other member => inStep other (by simp [member])) (ready.retry restored)

theorem Carries.choice {entries : List NodeId} {entry next : NodeId}
    (holds : ensemble.trial.program.Holds entry (.alternation entries))
    (order : ∀ branch ∈ entries, branch < entry)
    (carries : ∀ branch ∈ entries, ensemble.Carries depth groups slots branch next) :
    ensemble.Carries depth groups slots entry next := by
  intro frame start level same avoids inStep
  refine .node holds (fun _ _ => trivial) fun {lower fuel position captured before}
    below inside ready => ?_
  exact tries_alternatives (fun _ _ _ => rfl) (fun _ _ => rfl) (fun _ => rfl) below
    (fun branch member => ⟨Nat.lt_of_lt_of_le (order branch member) inside,
      carries branch member frame start level same avoids inStep⟩) ready

theorem Carries.either {left right entry next : NodeId}
    (holds : ensemble.trial.program.Holds entry (.alternation [left, right]))
    (order : left < entry ∧ right < entry)
    (carriesLeft : ensemble.Carries depth groups slots left next)
    (carriesRight : ensemble.Carries depth groups slots right next) :
    ensemble.Carries depth groups slots entry next :=
  .choice holds (by simpa using order) (by simpa using ⟨carriesLeft, carriesRight⟩)

/-! ## Repetitions of a character -/

section Runs

variable {frame : Frame ensemble.sealing} {start level lower position : Nat} {next : NodeId}
  {captured : Captured} {before : ι → Registers}

theorem InStep.runsBehind (inStep : ensemble.InStep frame start level next) (below : lower < level)
    (ready : ensemble.Ready frame start position captured before) {count : Nat}
    (room : position + count ≤ ensemble.subject.size) :
    ensemble.Together (fun index => ensemble.runAt lower index next (position + count)) before
      (ensemble.Answers frame.depth position captured before) :=
  (inStep.runs (Nat.le_of_lt below) (ready.forward (Nat.le_add_right _ _) room)).weaken
    fun _ _ answers => answers.earlier (Nat.le_add_right _ _)

theorem gives_back {least : Nat} (inStep : ensemble.InStep frame start level next)
    (below : lower < level) {count : Nat} (room : position + count ≤ ensemble.subject.size)
    (ready : ensemble.Ready frame start position captured before) :
    ensemble.Together
      (fun index => giveBack (ensemble.runAt lower index) next position least count) before
      (ensemble.Answers frame.depth position captured before) := by
  induction count generalizing before with
  | zero => exact refuses ready.shares
  | succ count ih =>
      simp only [giveBack]
      refine .ite (fun _ => ?_) fun _ => refuses ready.shares
      refine orElse (inStep.runsBehind below ready room) (fun _ _ => rfl) fun middle restored => ?_
      exact ih (by omega) (ready.retry restored)

theorem takes_more {matcher : CharMatcher} (inStep : ensemble.InStep frame start level next)
    (below : lower < level) {room count : Nat} (inside : position + count ≤ ensemble.subject.size)
    (ready : ensemble.Ready frame start position captured before) :
    ensemble.Together (fun index => (ensemble.member index).takeMore (ensemble.runAt lower index)
        matcher next position room count) before
      (ensemble.Answers frame.depth position captured before) := by
  induction room generalizing count before with
  | zero =>
      simp only [takeMore]
      refine orElse (inStep.runsBehind below ready inside) (fun _ _ => rfl) fun middle restored => ?_
      exact refuses restored.shares
  | succ room ih =>
      simp only [takeMore, member_subject]
      refine orElse (inStep.runsBehind below ready inside) (fun _ _ => rfl) fun middle restored => ?_
      refine .ite (fun accepted => ?_) fun _ => refuses restored.shares
      exact ih (Subject.lt_size_of_acceptsAt accepted) (ready.retry restored)

theorem Carries.charRepeat {matcher : CharMatcher} {least : Nat} {most : Option Nat}
    {mode : RepeatMode} {entry : NodeId} (order : next < entry)
    (holds : ensemble.trial.program.Holds entry (.charRepeat matcher least most mode next)) :
    ensemble.Carries depth groups slots entry next := by
  intro frame start level same avoids inStep
  refine .node holds (fun _ _ => trivial) fun {lower fuel position captured before}
    below inside ready => ?_
  have fuelEnough : next < fuel := Nat.lt_of_lt_of_le order inside
  have position_le := ready.le_size
  have room_le := ensemble.subject.roomFor_le most position
  have longest_le := ensemble.subject.countAccepted_le matcher position
    (ensemble.subject.roomFor most position) 0
  simp only [pass_charRepeat, member_subject]
  cases mode with
  | greedy =>
      refine .ite (fun _ => refuses ready.shares) fun _ => ?_
      refine orElse (gives_back inStep below (by omega) ready) (fun _ _ => rfl)
        fun middle restored => ?_
      exact inStep.goesOn below fuelEnough (ready.retry restored) (Nat.le_add_right _ _) (by omega)
  | lazy =>
      refine .ite (fun fits => ?_) fun _ => refuses ready.shares
      exact takes_more inStep below (by omega) ready
  | possessive =>
      refine .ite (fun _ => refuses ready.shares) fun _ => ?_
      exact inStep.goesOn below fuelEnough ready (Nat.le_add_right _ _) (by omega)

end Runs

end Ensemble

end Backtracking
