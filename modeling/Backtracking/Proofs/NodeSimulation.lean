import Backtracking.Proofs.CharRuns
import Backtracking.Proofs.Realization

/-!
# Simulation of nodes

For every kind of node, by which matching it leads to the nodes that follow it, and how many levels
this takes.
-/

namespace Backtracking

namespace Setting

open Matching Running Trial

variable {setting : Setting} {depth : Nat} {groups : List Nat} {slots : Nat}

theorem Leads.here (next : NodeId) : setting.Leads depth groups slots .here 0 next next := by
  intro frame start levels complete _ _ realizes
  rw [here_followedBy]
  exact realizes

theorem Leads.andThen {first second : Matching} {frames more : Nat} {entry middle next : NodeId}
    (begins : setting.Leads depth groups slots first frames entry middle)
    (follows : setting.Leads depth groups slots second more middle next) :
    setting.Leads depth groups slots (first.andThen second) (frames + more) entry next := by
  intro frame start levels complete same avoids realizes
  rw [andThen_followedBy, Nat.add_comm frames more, ← Nat.add_assoc]
  exact begins frame start _ _ same avoids (follows frame start _ _ same avoids realizes)

theorem Leads.weaken {matching : Matching} {frames : Nat} {entry next : NodeId}
    (leads : setting.Leads depth groups slots matching frames entry next) {more : List Nat}
    {fewer frames' : Nat} (included : groups ⊆ more) (fewerLe : fewer ≤ slots)
    (framesLe : frames ≤ frames') :
    setting.Leads depth more fewer matching frames' entry next := by
  intro frame start levels complete same avoids realizes
  exact (leads frame start levels complete same (avoids.weaken included fewerLe) realizes).weaken
    (Nat.le_refl start) (Nat.add_le_add_left framesLe levels)

/-! ## Nodes that are passed -/

/-- A node takes some characters and is passed, or refuses the position, as a matching says. -/
inductive Passed (setting : Setting) (matching : Matching) (position : Nat) (before : Registers)
    (execution : Running (Option Nat)) (again : Nat → Running (Option Nat)) : Prop where
  | takes (stop : Nat) (ordered : position ≤ stop) (inside : stop ≤ setting.subject.size)
      (matched : matching position before.captured = [⟨stop, before.captured⟩])
      (goesOn : ∀ condition, (again stop).Yields before condition →
        execution.Yields before condition)
  | refuses (unmatched : matching position before.captured = [])
      (ends : ∀ condition, condition none before → execution.Yields before condition)

/-- Nodes that take some characters or refuse the position are left without going deeper. -/
theorem Leads.passing {matching : Matching} {entry next : NodeId} {node : Node}
    (holds : setting.trial.program.Holds entry node) (order : next < entry)
    (passes : ∀ {deeper twoDeeper again : Continuation} {position : Nat} {before : Registers},
      position ≤ setting.subject.size → setting.Proper before →
      Passed setting matching position before
        (setting.trial.pass deeper twoDeeper again entry position node) (again next)) :
    setting.Leads depth groups slots matching 0 entry next := by
  intro frame start levels complete _ _ realizes
  refine .node holds fun {level fuel position before} enough inside ready => ?_
  cases passes ready.le_size ready.proper with
  | takes stop ordered within matched goesOn =>
      rw [followedBy, matched, List.findSome?_singleton]
      exact goesOn _ (realizes.walks enough (Nat.lt_of_lt_of_le order inside)
        ⟨Nat.le_trans ready.start_le ordered, within, ready.proper, ready.holds⟩)
  | refuses unmatched ends =>
      rw [followedBy, unmatched]
      exact ends _ (.fails (.refl ready.proper))

theorem Leads.char {matcher : CharMatcher} {entry next : NodeId}
    (holds : setting.trial.program.Holds entry (.char matcher next)) (order : next < entry) :
    setting.Leads depth groups slots (.char setting.subject matcher) 0 entry next := by
  refine .passing holds order fun {_ _ _ position before} inside proper => ?_
  by_cases accepted : setting.subject.acceptsAt matcher position = true
  · refine .takes (position + 1) (Nat.le_succ _) (Subject.lt_size_of_acceptsAt accepted)
      (if_pos accepted) fun condition yields => ?_
    rw [Trial.pass, if_pos accepted]
    exact yields
  · refine .refuses (if_neg accepted) fun condition holds => ?_
    rw [Trial.pass, if_neg accepted]
    exact .pure holds

theorem Leads.literal {text : List Char} {ignoresCase : Bool} {entry next : NodeId}
    (holds : setting.trial.program.Holds entry (.literal text ignoresCase next))
    (order : next < entry) :
    setting.Leads depth groups slots (.text setting.subject ignoresCase text) 0 entry next := by
  refine .passing holds order fun {_ _ _ position before} inside proper => ?_
  by_cases stands : setting.subject.textAt ignoresCase text position = true
  · refine .takes (position + text.length) (Nat.le_add_right _ _)
      (Subject.add_length_le_of_textAt inside stands) (if_pos stands) fun condition yields => ?_
    rw [Trial.pass, if_pos stands]
    exact yields
  · refine .refuses (if_neg stands) fun condition holds => ?_
    rw [Trial.pass, if_neg stands]
    exact .pure holds

theorem Leads.assertion {assertion : Assertion} {entry next : NodeId}
    (holds : setting.trial.program.Holds entry (.assert assertion next)) (order : next < entry) :
    setting.Leads depth groups slots (.assertion setting.scene assertion) 0 entry next := by
  refine .passing holds order fun {_ _ _ position before} inside proper => ?_
  by_cases true : setting.scene.holds assertion position = true
  · refine .takes position (Nat.le_refl _) inside (if_pos true) fun condition yields => ?_
    refine .registers ?_
    rw [proper.scene_eq, if_pos true]
    exact yields
  · refine .refuses (if_neg true) fun condition holds => ?_
    refine .registers ?_
    rw [proper.scene_eq, if_neg true]
    exact .pure holds

theorem Leads.backReference {group : Nat} {ignoresCase : Bool} {entry next : NodeId}
    (holds : setting.trial.program.Holds entry (.backReference group ignoresCase next))
    (order : next < entry) :
    setting.Leads depth groups slots (.backReference setting.subject ignoresCase group) 0 entry
      next := by
  refine .passing holds order fun {_ _ again position before} inside proper => ?_
  cases found : before.captured.span? group with
  | none =>
      refine .refuses (by rw [Matching.backReference, found]) fun condition holds => ?_
      refine .registers ?_
      rw [before.capture?_eq, found]
      exact .pure holds
  | some span =>
      have length : (setting.subject.slice span.start span.stop).length = span.stop - span.start :=
        Subject.length_slice (proper.valid.span? found).2
      by_cases stands : setting.subject.textAt ignoresCase
        (setting.subject.slice span.start span.stop) position = true
      · have within := Subject.add_length_le_of_textAt inside stands
        rw [length] at within
        refine .takes (position + (span.stop - span.start)) (Nat.le_add_right _ _) within ?_
          fun condition yields => ?_
        · rw [Matching.backReference, found]
          exact (if_pos stands).trans (by rw [length])
        · refine .registers ?_
          rw [before.capture?_eq, found]
          dsimp only
          rw [if_pos stands]
          exact yields
      · refine .refuses ?_ fun condition holds => ?_
        · rw [Matching.backReference, found]
          exact if_neg stands
        · refine .registers ?_
          rw [before.capture?_eq, found]
          dsimp only
          rw [if_neg stands]
          exact .pure holds

theorem Leads.pendingText {pending : PendingText} {entry : NodeId}
    (encodes : EncodesText setting.trial.program pending entry) :
    setting.Leads depth groups slots (.text setting.subject pending.ignoresCase pending.text) 0
      entry pending.next := by
  cases encodes with
  | none =>
      rw [text_nil]
      exact .here _
  | char order holds =>
      rw [text_cons, text_nil, andThen_here]
      exact .char holds order
  | literal order holds => exact .literal holds order

theorem Leads.conditional {group : Nat} {yes no : Matching} {frames more : Nat}
    {entry yesEntry noEntry next : NodeId}
    (holds : setting.trial.program.Holds entry (.conditional group yesEntry noEntry))
    (order : yesEntry < entry ∧ noEntry < entry)
    (leadsYes : setting.Leads depth groups slots yes frames yesEntry next)
    (leadsNo : setting.Leads depth groups slots no more noEntry next) :
    setting.Leads depth groups slots (.ifCaptured group yes no) (frames + more) entry next := by
  intro frame start levels complete same avoids realizes
  refine .node holds fun {level fuel position before} enough inside ready => ?_
  refine .registers ?_
  dsimp only
  rw [before.capture?_eq, followedBy, ifCaptured]
  split
  · have realizesYes := leadsYes frame start levels complete same avoids realizes
    exact (realizesYes.weaken (Nat.le_refl start) (by omega)).walks enough
      (Nat.lt_of_lt_of_le order.1 inside) ready
  · have realizesNo := leadsNo frame start levels complete same avoids realizes
    exact (realizesNo.weaken (Nat.le_refl start) (by omega)).walks enough
      (Nat.lt_of_lt_of_le order.2 inside) ready

/-! ## Groups -/

theorem Leads.capturing {body : Matching} {frames index : Nat} {entry first stop next : NodeId}
    (opens : setting.trial.program.Holds entry (.groupStart index first))
    (closes : setting.trial.program.Holds stop (.groupEnd index next))
    (outside : index ∉ groups) (sealed : setting.sealing.groupDepth index = depth)
    (inside : index < setting.origin.opened.size)
    (leads : setting.Leads depth groups slots body frames first stop) :
    setting.Leads depth (index :: groups) slots (body.capturing index) (frames + 2) entry next := by
  intro frame start levels complete same avoids realizes
  have deep : setting.sealing.groupDepth index = frame.depth := sealed.trans same.symm
  have shallow (position : Nat) :
      (Scope.group index position).depth setting.sealing ≤ frame.depth :=
    Nat.le_of_eq deep
  have closing (position : Nat) (startLe : start ≤ position) :
      setting.Realizes (frame.enter (.group index position) (shallow position)) position
        (levels + 1) stop fun stop captured =>
          complete stop (captured.close index ⟨position, stop⟩) := by
    refine .node closes fun {level fuel stop before} enough _ ready => ?_
    obtain ⟨entered, holds⟩ := Frame.holds_enter.mp ready.holds
    have captured := before.captured_closeGroup entered stop
    have closed : setting.Ready frame start stop (before.closeGroup index stop) := by
      refine ⟨Nat.le_trans startLe ready.start_le, ready.le_size,
        ⟨(before.closeGroup_alike index stop).trans ready.proper.alike, ?_⟩,
        holds.agree (Registers.closeGroup_agree index stop before)⟩
      rw [captured]
      exact ready.proper.valid.close ready.start_le ready.le_size
    have runs := realizes.runs enough closed
    rw [captured] at runs
    refine .registers (.registers (.change ?_))
    refine undoing runs (Registers.closeGroup_agree index stop before) fun after restored => ?_
    have reopened := Registers.captured_reopened restored.captured_eq
    refine ⟨⟨?_, ?_⟩, reopened, ?_⟩
    · have alike := (after.setCapture_alike index (before.captures.getD index none)).trans
        restored.proper.alike
      exact { alike with }
    · rw [reopened]
      exact ready.proper.valid
    · have agree := restored.agree.trans (Registers.closeGroup_agree index stop before)
      exact { agree with }
  refine .node opens fun {level fuel position before} enough _ ready => ?_
  have bodyRealizes := leads (frame.enter (.group index position) (shallow position)) position
    (levels + 1) _ same
    (Frame.avoids_enter.mpr ⟨outside, avoids.weaken (List.subset_cons_self _ _) (Nat.le_refl _)⟩)
    (closing position ready.start_le)
  have bound (registers : Registers) (alike : registers.Alike setting.origin) :
      index < registers.opened.size := by
    rw [alike.opened_size]
    exact inside
  have opened : setting.Ready (frame.enter (.group index position) (shallow position)) position
      position (before.setOpened index (some position)) := by
    refine ⟨Nat.le_refl _, ready.le_size,
      ⟨(before.setOpened_alike index _).trans ready.proper.alike, ready.proper.valid⟩,
      Frame.holds_enter.mpr ⟨before.opened?_setOpened (bound before ready.proper.alike) _, ?_⟩⟩
    exact ready.holds.setOpened avoids (List.mem_cons_self ..) _
  have deeper : levels + 1 + frames < level := by omega
  have runs := bodyRealizes.runs deeper opened
  rw [capturing_followedBy]
  refine .registers (.change ?_)
  refine undoing runs (Registers.setOpened_agree (Nat.le_of_eq deep.symm) _ before)
    fun after restored => ?_
  exact ⟨⟨(after.setOpened_alike index _).trans restored.proper.alike, restored.proper.valid⟩,
    restored.captured_eq, restored.agree.setOpened_back (bound after restored.proper.alike)⟩

/-! ## Choices -/

/-- Branches, each with the node where it begins, as one choice. -/
def choice (branches : List (Matching × NodeId)) : Matching :=
  branches.foldr (fun branch rest => branch.1.orElse rest) .never

theorem tries_alternatives {frame : Frame setting.sealing} {start levels level fuel position : Nat}
    {branches : List (Matching × NodeId)} {complete : Completion} {before : Registers}
    {finish : Option Nat × Option NodeId → Running (Option Nat)}
    (keeps : ∀ stop rest, finish (some stop, rest) = pure (some stop))
    (goesOn : ∀ last, finish (none, some last) = setting.walkAt level fuel last position)
    (ends : finish (none, none) = pure none) (enough : levels < level)
    (realizes : ∀ branch ∈ branches, branch.2 < fuel ∧
      setting.Realizes frame start levels branch.2 (branch.1.followedBy complete))
    (ready : setting.Ready frame start position before) :
    (tryAlternatives (setting.trial.run level) position (branches.map Prod.snd) >>= finish).Yields
      before (setting.Answers frame.depth before
        ((choice branches).followedBy complete position before.captured)) := by
  induction branches generalizing before with
  | nil =>
      rw [List.map_nil, tryAlternatives, pure_bind, ends]
      exact refuses ready.proper
  | cons branch branches ih =>
      obtain ⟨order, branchRealizes⟩ := realizes branch (by simp)
      rw [choice, List.foldr_cons, orElse_followedBy]
      cases branches with
      | nil =>
          have never : never.followedBy complete position before.captured = none := rfl
          rw [List.map_cons, List.map_nil, tryAlternatives, pure_bind, goesOn, List.foldr_nil,
            never, Option.or_none]
          exact branchRealizes.walks (Nat.le_of_lt enough) order ready
      | cons second rest =>
          simp only [List.map_cons, tryAlternatives, bind_assoc]
          refine orElse (branchRealizes.runs enough ready) (fun stop => ?_)
            fun middle restored => ?_
          · rw [pure_bind, keeps]
          · rw [← restored.captured_eq]
            exact ih (fun other member => realizes other (by simp [member])) (ready.retry restored)

theorem Leads.choice {branches : List (Matching × NodeId)} {frames : Nat} {entry next : NodeId}
    (holds : setting.trial.program.Holds entry (.alternation (branches.map Prod.snd)))
    (order : ∀ branch ∈ branches, branch.2 < entry)
    (leads : ∀ branch ∈ branches, setting.Leads depth groups slots branch.1 frames branch.2 next) :
    setting.Leads depth groups slots (choice branches) (frames + 1) entry next := by
  intro frame start levels complete same avoids realizes
  refine .node holds fun {level fuel position before} enough inside ready => ?_
  have known : levels + frames < level := by omega
  exact tries_alternatives (fun _ _ => rfl) (fun _ => rfl) rfl known
    (fun branch member => ⟨Nat.lt_of_lt_of_le (order branch member) inside,
      leads branch member frame start levels complete same avoids realizes⟩) ready

theorem Leads.either {first second : Matching} {frames : Nat} {entry left right next : NodeId}
    (holds : setting.trial.program.Holds entry (.alternation [left, right]))
    (order : left < entry ∧ right < entry)
    (leadsFirst : setting.Leads depth groups slots first frames left next)
    (leadsSecond : setting.Leads depth groups slots second frames right next) :
    setting.Leads depth groups slots (first.orElse second) (frames + 1) entry next := by
  have both : Setting.choice [(first, left), (second, right)] = first.orElse second := by
    simp [Setting.choice]
  rw [← both]
  exact .choice holds (by simp [order]) (by simp [leadsFirst, leadsSecond])

/-! ## Repetitions of a character -/

theorem runs_cons_followedBy {count : Nat} {counts : List Nat} {complete : Completion}
    {position : Nat} {captured : Captured} :
    (runs (count :: counts)).followedBy complete position captured =
      (complete (position + count) captured).or
        ((runs counts).followedBy complete position captured) := by
  rw [followedBy, runs, List.map_cons, List.findSome?_cons]
  cases complete (position + count) captured <;> rfl

theorem runs_concat_followedBy {count : Nat} {counts : List Nat} {complete : Completion}
    {position : Nat} {captured : Captured} :
    (runs (counts ++ [count])).followedBy complete position captured =
      ((runs counts).followedBy complete position captured).or
        (complete (position + count) captured) := by
  rw [followedBy, runs, List.map_append, List.findSome?_append, List.map_singleton,
    List.findSome?_singleton]
  rfl

theorem gives_back {frame : Frame setting.sealing} {start levels level position least : Nat}
    {next : NodeId} {complete : Completion} {before : Registers}
    (realizes : setting.Realizes frame start levels next complete) (enough : levels < level)
    {count : Nat} (room : position + count ≤ setting.subject.size)
    (ready : setting.Ready frame start position before) :
    (giveBack (setting.trial.run level) next position least count).Yields before
      (setting.Answers frame.depth before ((runs (countsBetween true (least + 1) count)).followedBy
        complete position before.captured)) := by
  induction count generalizing before with
  | zero =>
      rw [countsBetween_of_lt (Nat.succ_pos least)]
      exact refuses ready.proper
  | succ count ih =>
      rw [giveBack]
      split
      · next more =>
          rw [countsBetween_greedy_succ (by omega), runs_cons_followedBy]
          refine orElse (realizes.runs enough ⟨?_, room, ready.proper, ready.holds⟩)
            (fun _ => rfl) fun middle restored => ?_
          · exact Nat.le_trans ready.start_le (Nat.le_add_right _ _)
          · rw [← restored.captured_eq]
            exact ih (by omega) (ready.retry restored)
      · next least =>
          rw [countsBetween_of_lt (by omega)]
          exact refuses ready.proper

theorem takes_more {frame : Frame setting.sealing} {start levels level position : Nat}
    {matcher : CharMatcher} {next : NodeId} {complete : Completion} {before : Registers}
    (realizes : setting.Realizes frame start levels next complete) (enough : levels < level)
    {room count : Nat} (inside : position + count ≤ setting.subject.size)
    (ready : setting.Ready frame start position before) :
    (setting.trial.takeMore (setting.trial.run level) matcher next position room count).Yields
      before (setting.Answers frame.depth before ((runs (countsBetween false count
        (setting.subject.countAccepted matcher position room count))).followedBy complete position
          before.captured)) := by
  have begins {count : Nat} {before : Registers} (inside : position + count ≤ setting.subject.size)
      (ready : setting.Ready frame start position before) :
      (setting.trial.run level next (position + count)).Yields before
        (setting.Answers frame.depth before (complete (position + count) before.captured)) :=
    realizes.runs enough
      ⟨Nat.le_trans ready.start_le (Nat.le_add_right _ _), inside, ready.proper, ready.holds⟩
  induction room generalizing count before with
  | zero =>
      rw [takeMore, Subject.countAccepted, countsBetween_self, runs_cons_followedBy]
      refine orElse (begins inside ready) (fun _ => rfl) fun middle restored => ?_
      exact refuses restored.proper
  | succ room ih =>
      have counted := setting.subject.countAccepted_ge matcher position (room + 1) count
      rw [takeMore, countsBetween_of_le false counted, if_neg Bool.false_ne_true,
        runs_cons_followedBy]
      refine orElse (begins inside ready) (fun _ => rfl) fun middle restored => ?_
      dsimp only
      split
      · next accepted =>
          rw [Subject.countAccepted, if_pos accepted, ← restored.captured_eq]
          exact ih (Subject.lt_size_of_acceptsAt accepted) (ready.retry restored)
      · next refused =>
          rw [Subject.countAccepted, if_neg refused, countsBetween_of_lt (Nat.lt_succ_self _)]
          exact refuses restored.proper

theorem Leads.charRepeat {matcher : CharMatcher} {least : Nat} {most : Option Nat}
    {mode : RepeatMode} {entry next : NodeId} (order : next < entry)
    (holds : setting.trial.program.Holds entry (.charRepeat matcher least most mode next))
    (ordered : ∀ bound, most = some bound → least ≤ bound) :
    setting.Leads depth groups slots
      (.repeated (.char setting.subject matcher) setting.subject.size least most mode) 1 entry
      next := by
  intro frame start levels complete same avoids realizes
  refine .node holds fun {level fuel position before} enough inside ready => ?_
  have onward {registers : Registers} (ready : setting.Ready frame start position registers)
      {count : Nat} (room : position + count ≤ setting.subject.size) :
      setting.Ready frame start (position + count) registers :=
    ⟨Nat.le_trans ready.start_le (Nat.le_add_right _ _), room, ready.proper, ready.holds⟩
  have fuelEnough : next < fuel := Nat.lt_of_lt_of_le order inside
  have position_le := ready.le_size
  have room_le := setting.subject.roomFor_le most position
  have longest_le := setting.subject.countAccepted_le matcher position
    (setting.subject.roomFor most position) 0
  rw [pass_charRepeat]
  cases mode with
  | greedy =>
      rw [followedBy_eq (repeated_char (by decide) ordered ready.le_size), decide_eq_true rfl]
      dsimp only
      generalize setting.subject.countAccepted matcher position
        (setting.subject.roomFor most position) 0 = longest at longest_le ⊢
      split
      · next short =>
          rw [countsBetween_of_lt short]
          exact refuses ready.proper
      · next long =>
          have split := countsBetween_of_le true (Nat.le_of_not_lt long)
          rw [if_pos rfl] at split
          rw [split, runs_concat_followedBy]
          refine orElse (gives_back realizes enough (by omega) ready) (fun _ => rfl)
            fun middle restored => ?_
          rw [← restored.captured_eq]
          exact realizes.walks (Nat.le_of_lt enough) fuelEnough
            (onward (ready.retry restored) (by omega))
  | lazy =>
      rw [followedBy_eq (repeated_char (by decide) ordered ready.le_size)]
      dsimp only
      have counted := setting.subject.countAccepted_add matcher position least
        (setting.subject.roomFor most position - least) 0
      have least_le := setting.subject.countAccepted_le matcher position least 0
      rw [Nat.zero_add] at counted least_le
      by_cases fits : least ≤ setting.subject.roomFor most position
      · rw [Nat.add_sub_cancel' fits] at counted
        by_cases full : setting.subject.countAccepted matcher position least 0 = least
        · rw [if_pos full] at counted
          rw [if_pos (by simp [fits, full]), counted]
          exact takes_more realizes enough (by omega) ready
        · rw [if_neg full] at counted
          rw [if_neg (by simp [full]), counted, countsBetween_of_lt (by omega)]
          exact refuses ready.proper
      · rw [if_neg (by simp [fits]), countsBetween_of_lt (by omega)]
        exact refuses ready.proper
  | possessive =>
      rw [followedBy, repeated_char_possessive]
      dsimp only
      generalize setting.subject.countAccepted matcher position
        (setting.subject.roomFor most position) 0 = longest at longest_le ⊢
      split
      · exact refuses ready.proper
      · rw [List.findSome?_singleton]
        exact realizes.walks (Nat.le_of_lt enough) fuelEnough (onward ready (by omega))

end Setting

end Backtracking
