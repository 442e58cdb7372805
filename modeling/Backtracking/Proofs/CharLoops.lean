import Backtracking.Proofs.CharRuns
import Backtracking.Proofs.SlotAgreement
import Backtracking.Search.MatchState

/-!
# Repetitions of one character

A repetition of one character counts how many of them there are, and tries what follows behind runs
of them, from the longest run or from the shortest one on.  A loop in its place counts in a slot,
and each character takes it two levels deeper.  Both try what follows at the same positions in the
same order, and so they come to the same end.
-/

namespace Backtracking

namespace Running

/-- Tries another piece where one fails. -/
def orElse (first second : Running (Option Nat)) : Running (Option Nat) := do
  match ← first with
  | some stop => return some stop
  | none => second

theorem orElse_assoc (first second third : Running (Option Nat)) :
    orElse (orElse first second) third = orElse first (orElse second third) := by
  simp only [orElse, bind_assoc]
  congr 1
  funext result
  cases result <;> simp

theorem pure_none_orElse (second : Running (Option Nat)) : orElse (pure none) second = second := by
  simp [orElse]

theorem orElse_pure_none (first : Running (Option Nat)) : orElse first (pure none) = first := by
  have same (result : Option Nat) : (match result with
      | some stop => pure (some stop)
      | none => pure none : Running (Option Nat)) = pure result := by
    cases result <;> rfl
  simp [orElse, same]

end Running

namespace Trial

open Running

theorem giveBack_succ (deeper : Continuation) (next : NodeId) (position : Nat) {least count : Nat}
    (more : least < count + 1) :
    giveBack deeper next position least (count + 1) =
      orElse (deeper next (position + (count + 1)))
        (giveBack deeper next position least count) := by
  rw [giveBack, if_pos more]
  rfl

theorem giveBack_of_le (deeper : Continuation) (next : NodeId) (position : Nat) {least count : Nat}
    (few : count ≤ least) : giveBack deeper next position least count = pure none := by
  cases count with
  | zero => rfl
  | succ count => rw [giveBack, if_neg (Nat.not_lt_of_le few)]

/-- To give back down to some number of characters is to give back down to one more, and then to try
that many. -/
theorem giveBack_of_lt (deeper : Continuation) (next : NodeId) (position : Nat) {least count : Nat}
    (more : least < count) :
    giveBack deeper next position least count =
      orElse (giveBack deeper next position (least + 1) count)
        (deeper next (position + (least + 1))) := by
  induction count with
  | zero => exact absurd more (Nat.not_lt_zero least)
  | succ count ih =>
      rw [giveBack_succ deeper next position more]
      rcases Nat.lt_or_eq_of_le (Nat.le_of_lt_succ more) with less | rfl
      · rw [ih less, giveBack_succ deeper next position (Nat.succ_lt_succ less), orElse_assoc]
      · rw [giveBack_of_le deeper next position (Nat.le_refl _),
          giveBack_of_le deeper next position (Nat.le_refl _), orElse_pure_none, pure_none_orElse]

theorem takeMore_eq (trial : Trial) (deeper : Continuation) (matcher : CharMatcher) (next : NodeId)
    (position room count : Nat) :
    trial.takeMore deeper matcher next position room count =
      orElse (deeper next (position + count))
        (if 0 < room ∧ trial.subject.acceptsAt matcher (position + count) = true then
          trial.takeMore deeper matcher next position (room - 1) (count + 1)
        else pure none) := by
  cases room with
  | zero =>
      rw [takeMore, if_neg (fun both => absurd both.1 (Nat.lt_irrefl 0))]
      rfl
  | succ room =>
      rw [takeMore]
      simp only [Nat.succ_pos, true_and, Nat.add_sub_cancel]
      rfl

end Trial

namespace CharLoop

open Running

variable {program : Program} {loop : CharLoop program} {trial : Trial} {limits : Limits}
  {count : Nat} {start : Option Nat} {before beforeToo : Registers} {first : Running (Option Nat)}

section Counted

variable (gives : loop.mode ≠ .possessive)
include gives

theorem general_eq_counted : loop.general = loop.counted := if_neg gives

theorem Alike.slot_lt {state : LoopSlot} (alike : loop.Alike state before beforeToo) :
    loop.slot < beforeToo.loops.size := by
  have reserved := alike.reserved
  rw [general_eq_counted gives] at reserved
  exact reserved

theorem undoing_slot_agree {second : Running (Option Nat)} {entered : LoopSlot}
    (restore : LoopSlot → LoopSlot)
    (agree : Agree first second before beforeToo (loop.Keeps False True entered)) :
    Agree first
      (undoing (fun registers => registers.setLoop loop.slot (restore (registers.loop loop.slot)))
        second) before beforeToo (loop.Keeps False True (restore entered)) := by
  refine agree.undoingToo ?_ ?_
  · rintro after afterToo ⟨left, reached, same⟩
    obtain rfl := same (.inr ⟨trivial, rfl⟩)
    rw [reached.state_eq]
    exact (reached.setLoop (reached.slot_lt gives) (restore left)).keeps
  · rintro stop after afterToo ⟨left, reached, -⟩
    exact ⟨left, reached, by simp⟩

theorem iterate_counted_agree (levels position : Nat)
    (alike : loop.Alike ⟨count, start⟩ before beforeToo)
    (refused : ¬ trial.subject.acceptsAt loop.matcher position = true → first = pure none)
    (accepted : trial.subject.acceptsAt loop.matcher position = true → ∀ levels registers,
      loop.Alike ⟨count + 1, some position⟩ before registers →
      Agree first ((loop.trial trial limits).loopStep ((loop.trial trial limits).run levels)
        ((loop.trial trial limits).run (levels - 1)) loop.entry (position + 1)) before registers
        (loop.Keeps False True ⟨count + 1, some position⟩)) :
    Agree first
      (Trial.iterate ((loop.trial trial limits).run levels) loop.slot program.size position) before
      beforeToo (loop.Keeps False True ⟨count, start⟩) := by
  have program_eq : (loop.trial trial limits).program = loop.counted := general_eq_counted gives
  refine .registersToo (.changeToo ?_)
  rw [alike.state_eq]
  have entered := alike.setLoop (alike.slot_lt gives) ⟨count, some position⟩
  suffices body : Agree first ((loop.trial trial limits).run levels program.size position) before
      (beforeToo.setLoop loop.slot ⟨count, some position⟩)
      (loop.Keeps False True ⟨count, some position⟩) from
    undoing_slot_agree gives (fun slot => { slot with start := start }) body
  cases levels with
  | zero => exact .throwToo _
  | succ levels =>
      rw [Trial.run_succ, program_eq, size_counted]
      refine .visitToo ?_
      rw [program_eq, counted_body, Trial.pass, subject_trial]
      by_cases accepts : trial.subject.acceptsAt loop.matcher position = true
      · rw [if_pos accepts]
        refine .visitToo ?_
        rw [program_eq, counted_tail, Trial.pass, Trial.endIteration, program_eq, counted_head]
        refine .registersToo (.changeToo ?_)
        rw [entered.state_eq]
        exact undoing_slot_agree gives (fun slot => { slot with count := count })
          (accepted accepts levels _ (entered.setLoop (entered.slot_lt gives) _))
      · rw [if_neg accepts, refused accepts]
        exact .pure entered.keeps

/-- What the loop does after some iterations, each of which took one character. -/
theorem loopStep_counted_agree {condition : Option Nat → Registers → Registers → Prop}
    (levels position : Nat) (alike : loop.Alike ⟨count, start⟩ before beforeToo)
    (moved : start ≠ some position)
    (forced : count < loop.least → Agree first
      (Trial.iterate ((loop.trial trial limits).run (levels - 1)) loop.slot program.size position)
      before beforeToo condition)
    (full : loop.least ≤ count → ¬ loop.most.all (count < ·) = true → Agree first
      ((loop.trial trial limits).run levels loop.next position) before beforeToo condition)
    (eager : loop.least ≤ count → loop.most.all (count < ·) = true → loop.mode = .greedy →
      Agree first (orElse
        (Trial.iterate ((loop.trial trial limits).run (levels - 1)) loop.slot program.size position)
        ((loop.trial trial limits).run levels loop.next position)) before beforeToo condition)
    (sparing : loop.least ≤ count → loop.most.all (count < ·) = true → loop.mode = .lazy →
      Agree first (orElse ((loop.trial trial limits).run levels loop.next position)
        (Trial.iterate ((loop.trial trial limits).run (levels - 1)) loop.slot program.size
          position)) before beforeToo condition) :
    Agree first ((loop.trial trial limits).loopStep ((loop.trial trial limits).run levels)
      ((loop.trial trial limits).run (levels - 1)) loop.entry position) before beforeToo
      condition := by
  have program_eq : (loop.trial trial limits).program = loop.counted := general_eq_counted gives
  rw [Trial.loopStep, program_eq, counted_head]
  refine .registersToo ?_
  rw [alike.state_eq]
  have moves : (start != some position) = true := by simpa using moved
  simp only [moves, Bool.and_true, Bool.not_eq_true', decide_eq_true_eq]
  split
  · next few => exact forced few
  next enough =>
  have leastLe := Nat.le_of_not_lt enough
  split
  · next filled => exact full leastLe (by simp [filled])
  next room =>
  have allowed : loop.most.all (count < ·) = true := by simpa using room
  split
  · next prefers => exact eager leastLe allowed prefers
  · next prefers =>
      refine sparing leastLe allowed ?_
      cases shape : loop.mode
      · exact absurd shape prefers
      · rfl
      · exact absurd shape gives

theorem forced_agree {position : Nat}
    (refused : ∀ taken < loop.least,
      ¬ trial.subject.acceptsAt loop.matcher (position + taken) = true → first = pure none)
    (reached : (∀ taken < loop.least,
        trial.subject.acceptsAt loop.matcher (position + taken) = true) →
      ∀ levels start registers, loop.Alike ⟨loop.least, start⟩ before registers →
      start ≠ some (position + loop.least) →
      Agree first ((loop.trial trial limits).loopStep ((loop.trial trial limits).run levels)
        ((loop.trial trial limits).run (levels - 1)) loop.entry (position + loop.least)) before
        registers (loop.Keeps False True ⟨loop.least, start⟩))
    (few : count ≤ loop.least)
    (accepted : ∀ taken < count,
      trial.subject.acceptsAt loop.matcher (position + taken) = true) (levels : Nat)
    (alike : loop.Alike ⟨count, start⟩ before beforeToo) (moved : start ≠ some (position + count)) :
    Agree first ((loop.trial trial limits).loopStep ((loop.trial trial limits).run levels)
      ((loop.trial trial limits).run (levels - 1)) loop.entry (position + count)) before beforeToo
      (loop.Keeps False True ⟨count, start⟩) := by
  induction missing : loop.least - count generalizing count start levels beforeToo with
  | zero =>
      obtain rfl : count = loop.least := by omega
      exact reached accepted levels start beforeToo alike moved
  | succ missing ih =>
      have forced : count < loop.least := by omega
      refine loopStep_counted_agree gives levels _ alike moved (fun _ => ?_)
        (fun enough => absurd forced (Nat.not_lt_of_le enough))
        (fun enough => absurd forced (Nat.not_lt_of_le enough))
        (fun enough => absurd forced (Nat.not_lt_of_le enough))
      refine iterate_counted_agree gives (levels - 1) _ alike (refused count forced)
        fun accepts levels registers entered => ?_
      refine ih forced (fun taken below => ?_) levels entered (by simp) (by omega)
      rcases Nat.lt_or_eq_of_le (Nat.le_of_lt_succ below) with earlier | rfl
      · exact accepted taken earlier
      · exact accepts

section Free

variable {deeper : Continuation}
  (follow : ∀ levels, loop.Follow False True (deeper loop.next)
    ((loop.trial trial limits).run levels loop.next))
include follow

/-- A greedy loop takes all characters that it can, and gives them back one after another. -/
theorem greedy_agree (prefers : loop.mode = .greedy) {last : Nat → Running (Option Nat)}
    (followLast : ∀ levels, loop.Follow False True last
      ((loop.trial trial limits).run levels loop.next)) {position room : Nat}
    (enough : trial.subject.roomFor loop.most position - count < room)
    (leastLe : loop.least ≤ count) (levels : Nat)
    (alike : loop.Alike ⟨count, start⟩ before beforeToo) (moved : start ≠ some (position + count)) :
    Agree (orElse
        (Trial.giveBack deeper loop.next position count (trial.subject.countAccepted loop.matcher
          position (trial.subject.roomFor loop.most position - count) count))
        (last (position + count)))
      ((loop.trial trial limits).loopStep ((loop.trial trial limits).run levels)
        ((loop.trial trial limits).run (levels - 1)) loop.entry (position + count)) before beforeToo
      (loop.Keeps False True ⟨count, start⟩) := by
  induction room generalizing count start levels beforeToo last with
  | zero => exact absurd enough (Nat.not_lt_zero _)
  | succ room ih =>
      refine loopStep_counted_agree gives levels _ alike moved
        (fun few => absurd few (Nat.not_lt_of_le leastLe)) (fun _ full => ?_)
        (fun _ allowed _ => ?_) (fun _ _ waits => absurd (prefers.symm.trans waits) nofun)
      · rw [Subject.countAccepted_of_exhausted full,
          Trial.giveBack_of_le deeper _ _ (Nat.le_refl _), pure_none_orElse]
        exact followLast levels _ _ _ _ alike
      by_cases accepts : trial.subject.acceptsAt loop.matcher (position + count) = true
      · have room_lt := Subject.lt_roomFor accepts allowed
        have counted := Subject.countAccepted_ge trial.subject loop.matcher position
          (trial.subject.roomFor loop.most position - (count + 1)) (count + 1)
        rw [Subject.countAccepted_of_accepted accepts allowed,
          Trial.giveBack_of_lt deeper _ _ counted]
        -- The loop tries all longer runs first, and this one behind them.
        refine orElse_agree (iterate_counted_agree gives (levels - 1) _ alike
          (fun refused => absurd accepts refused) fun _ levels registers entered => ?_)
          (fun _ => rfl) (fun _ => rfl) fun left _ _ _ reached => followLast levels _ _ _ _ reached
        exact ih follow (by omega) (Nat.le_succ_of_le leastLe) levels entered (by simp)
      · rw [Subject.countAccepted_of_refused accepts,
          Trial.giveBack_of_le deeper _ _ (Nat.le_refl _)]
        exact orElse_agree (iterate_counted_agree gives (levels - 1) _ alike (fun _ => rfl)
          fun accepted => absurd accepted accepts)
          (fun _ => rfl) (fun _ => rfl) fun left _ _ _ reached => followLast levels _ _ _ _ reached

/-- A lazy loop takes one character more after each that was not enough. -/
theorem lazy_agree (prefers : loop.mode = .lazy) {position room : Nat}
    (room_eq : room = trial.subject.roomFor loop.most position - count)
    (leastLe : loop.least ≤ count) (levels : Nat)
    (alike : loop.Alike ⟨count, start⟩ before beforeToo) (moved : start ≠ some (position + count)) :
    Agree (trial.takeMore deeper loop.matcher loop.next position room count)
      ((loop.trial trial limits).loopStep ((loop.trial trial limits).run levels)
        ((loop.trial trial limits).run (levels - 1)) loop.entry (position + count)) before beforeToo
      (loop.Keeps False True ⟨count, start⟩) := by
  induction room using Nat.strongRecOn generalizing count start levels before beforeToo with
  | _ room ih =>
      rw [Trial.takeMore_eq]
      refine loopStep_counted_agree gives levels _ alike moved
        (fun few => absurd few (Nat.not_lt_of_le leastLe)) (fun _ full => ?_)
        (fun _ _ goesOn => absurd (prefers.symm.trans goesOn) nofun) (fun _ allowed _ => ?_)
      · have filled : trial.subject.roomFor loop.most position ≤ count :=
          Subject.roomFor_le_of_full full
        rw [if_neg (by omega), orElse_pure_none]
        exact follow levels _ _ _ _ alike
      · refine orElse_agree (follow levels _ _ _ _ alike) (fun _ => rfl) (fun _ => rfl)
          fun left after afterToo same reached => ?_
        obtain rfl := same (.inr trivial)
        refine iterate_counted_agree gives (levels - 1) _ reached
          (fun refused => if_neg fun both => refused both.2)
          fun accepts levels registers entered => ?_
        have room_lt := Subject.lt_roomFor accepts allowed
        rw [if_pos ⟨by omega, accepts⟩]
        exact ih (room - 1) (by omega) (by omega) (Nat.le_succ_of_le leastLe) levels entered
          (by simp)

/-- A greedy repetition of one character does what a greedy loop does from its head on. -/
theorem longest_agree (prefers : loop.mode = .greedy) {again : Continuation}
    (followAgain : ∀ levels, loop.Follow False True (again loop.next)
      ((loop.trial trial limits).run levels loop.next)) (levels position : Nat)
    (alike : loop.Alike ⟨0, none⟩ before beforeToo) :
    Agree
      (let count := trial.subject.countAccepted loop.matcher position
          (trial.subject.roomFor loop.most position) 0
        if count < loop.least then pure none
        else orElse (Trial.giveBack deeper loop.next position loop.least count)
          (again loop.next (position + loop.least)))
      ((loop.trial trial limits).loopStep ((loop.trial trial limits).run levels)
        ((loop.trial trial limits).run (levels - 1)) loop.entry position) before beforeToo
      (loop.Keeps False True ⟨0, none⟩) := by
  refine forced_agree gives (fun taken below refused => ?_) (fun accepted levels start registers
    entered moved => ?_) (Nat.zero_le _) (by simp) levels alike (by simp)
  · refine if_pos (Nat.lt_of_not_le fun reaches => refused ?_)
    exact (Subject.least_le_countAccepted_iff loop.ordered).mp reaches taken below
  · dsimp only
    rw [if_neg (Nat.not_lt_of_le ((Subject.least_le_countAccepted_iff loop.ordered).mpr accepted)),
      Subject.countAccepted_from_least loop.ordered accepted]
    exact greedy_agree gives follow prefers followAgain (Nat.lt_succ_self _) (Nat.le_refl _) levels
      entered moved

theorem shortest_agree (prefers : loop.mode = .lazy) (levels position : Nat)
    (alike : loop.Alike ⟨0, none⟩ before beforeToo) :
    Agree
      (if loop.least ≤ trial.subject.roomFor loop.most position &&
          trial.subject.countAccepted loop.matcher position loop.least 0 = loop.least then
        trial.takeMore deeper loop.matcher loop.next position
          (trial.subject.roomFor loop.most position - loop.least) loop.least
      else pure none)
      ((loop.trial trial limits).loopStep ((loop.trial trial limits).run levels)
        ((loop.trial trial limits).run (levels - 1)) loop.entry position) before beforeToo
      (loop.Keeps False True ⟨0, none⟩) := by
  have fits : (decide (loop.least ≤ trial.subject.roomFor loop.most position) &&
      decide (trial.subject.countAccepted loop.matcher position loop.least 0 = loop.least)) = true ↔
      ∀ taken < loop.least, trial.subject.acceptsAt loop.matcher (position + taken) = true := by
    rw [Bool.and_eq_true, decide_eq_true_iff, decide_eq_true_iff]
    exact Subject.least_fits_iff loop.ordered
  refine forced_agree gives (fun taken below refused => ?_) (fun accepted levels start registers
    entered moved => ?_) (Nat.zero_le _) (by simp) levels alike (by simp)
  · exact if_neg fun holds => refused (fits.mp holds taken below)
  · rw [if_pos (fits.mpr accepted)]
    exact lazy_agree gives follow prefers rfl (Nat.le_refl _) levels entered moved

end Free

/-- Entering the loop, a slot is cleared that is written back where everything fails. -/
theorem enterLoop_agree {state : LoopSlot} (levels position : Nat)
    (alike : loop.Alike state before beforeToo)
    (enters : ∀ registers, loop.Alike ⟨0, none⟩ before registers →
      Agree first ((loop.trial trial limits).loopStep ((loop.trial trial limits).run levels)
        ((loop.trial trial limits).run (levels - 1)) loop.entry position) before registers
        (loop.Keeps False True ⟨0, none⟩)) :
    Agree first ((loop.trial trial limits).enterLoop ((loop.trial trial limits).run levels)
      ((loop.trial trial limits).run (levels - 1)) loop.entry loop.slot position) before beforeToo
      (loop.Keeps False True state) := by
  refine .registersToo (.changeToo ?_)
  rw [alike.state_eq]
  exact undoing_slot_agree gives (fun _ => state)
    (enters _ (alike.setLoop (alike.slot_lt gives) {}))

end Counted

section Possessive

variable (keeps : loop.mode = .possessive) (done : program.Holds Program.done .done)
include keeps

theorem general_eq_possessive : loop.general = loop.possessive := if_pos keeps

include done

theorem body_possessive_leaves (levels position : Nat) (before : Registers) :
    ((loop.trial trial limits).run levels program.size position).Leaves before
      fun result after => after = before ∧
        result = if trial.subject.acceptsAt loop.matcher position then some (position + 1)
          else none := by
  have program_eq : (loop.trial trial limits).program = loop.possessive :=
    general_eq_possessive keeps
  obtain ⟨size, size_eq⟩ := Nat.exists_eq_succ_of_ne_zero (Nat.ne_zero_of_lt loop.entry_lt)
  have last : loop.possessive.node Program.done = .done := by
    have other : Program.done ≠ loop.entry := by
      intro same
      have node_eq := loop.holds.node_eq
      rw [← same, done.node_eq] at node_eq
      cases node_eq
    rw [← general_eq_possessive keeps, loop.general_node done.lt_size other, done.node_eq]
  cases levels with
  | zero => exact .throw _
  | succ levels =>
      rw [Trial.run_succ, program_eq, size_possessive]
      refine .visit ?_
      rw [program_eq, possessive_body, Trial.pass, subject_trial]
      split
      · rw [size_eq]
        refine .visit ?_
        rw [program_eq, last]
        exact .pure ⟨rfl, rfl⟩
      · exact .pure ⟨rfl, rfl⟩

/-- The possessive repetition takes the longest run. -/
theorem iteratePossessively_leaves (levels : Nat) {position fuel : Nat}
    (enough : trial.subject.size < fuel + (position + count)) (before : Registers) :
    (Trial.iteratePossessively ((loop.trial trial limits).run levels) program.size loop.least
      loop.most fuel count (position + count)).Leaves before fun reached after =>
        after = before ∧ reached =
          (trial.subject.countAccepted loop.matcher position
              (trial.subject.roomFor loop.most position - count) count,
            position + trial.subject.countAccepted loop.matcher position
              (trial.subject.roomFor loop.most position - count) count) := by
  induction fuel generalizing count with
  | zero =>
      have room := trial.subject.roomFor_le loop.most position
      rw [show trial.subject.roomFor loop.most position - count = 0 by omega]
      exact .pure ⟨rfl, rfl⟩
  | succ fuel ih =>
      rw [Trial.iteratePossessively]
      split
      · next allowed =>
          refine (body_possessive_leaves keeps done levels _ before).bind ?_
          rintro _ _ ⟨rfl, rfl⟩
          by_cases accepts : trial.subject.acceptsAt loop.matcher (position + count) = true
          · simp only [accepts, if_true, if_neg (Nat.succ_ne_self (position + count))]
            rw [Subject.countAccepted_of_accepted accepts allowed]
            exact ih (by omega)
          · simp only [accepts]
            rw [Subject.countAccepted_of_refused accepts]
            exact .pure ⟨rfl, rfl⟩
      · next full =>
          rw [Subject.countAccepted_of_exhausted full]
          exact .pure ⟨rfl, rfl⟩

theorem repeatPossessively_agree_longest (partly : trial.rollback = .captures)
    {again : Continuation} (undoing : again.Undoing)
    (follow : ∀ levels, loop.Follow False True (again loop.next)
      ((loop.trial trial limits).run levels loop.next)) {state : LoopSlot} (levels position : Nat)
    (alike : loop.Alike state before beforeToo) :
    Agree
      (let count := trial.subject.countAccepted loop.matcher position
          (trial.subject.roomFor loop.most position) 0
        if count < loop.least then pure none else again loop.next (position + count))
      ((loop.trial trial limits).repeatPossessively ((loop.trial trial limits).run levels)
        program.size loop.least loop.most loop.next position) before beforeToo
      (loop.Keeps False True state) := by
  refine .registersToo (.leaves (iteratePossessively_leaves keeps done levels
    (show trial.subject.size < trial.subject.size - position + 1 + (position + 0) by omega)
    beforeToo) ?_)
  rintro _ after ⟨same, rfl⟩
  subst after
  -- Where everything fails, the captures are written back; they are what they were anyway.
  have back {after : Registers} (same : after.captured = beforeToo.captured) :
      (loop.trial trial limits).goBack beforeToo after = after := by
    have goBack_eq : (loop.trial trial limits).goBack beforeToo = trial.goBack beforeToo := rfl
    have captures_eq : after.captures = beforeToo.captures := congrArg Captured.spans same
    have highest_eq : after.highestGroup = beforeToo.highestGroup := congrArg Captured.highest same
    rw [goBack_eq, Trial.goBack, partly, Registers.rolledBack, ← captures_eq, ← highest_eq]
  dsimp only
  rw [Nat.sub_zero]
  by_cases few : trial.subject.countAccepted loop.matcher position
      (trial.subject.roomFor loop.most position) 0 < loop.least
  · rw [if_pos few, if_pos few]
    refine .changeToo ?_
    rw [back rfl]
    exact fails_agree alike
  · rw [if_neg few, if_neg few]
    refine ((follow levels _ state _ _ alike).and (undoing _ _ before _ rfl)).undoingToo ?_
      fun stop after afterToo both => both.1
    rintro after afterToo ⟨⟨left, reached, kept⟩, undone⟩
    have same : afterToo.captured = beforeToo.captured := by
      rw [← reached.captured_eq, undone rfl, alike.captured_eq]
    rw [back same]
    exact ⟨left, reached, kept⟩

end Possessive

/-! ## The repetition and the loop -/

section Entry

/-- Behind the repetition, what fails leaves the slot as it was. -/
theorem Follow.behind_entry (flat : loop.Flat loop.entry)
    {first second : Nat → Running (Option Nat)}
    (known : loop.Follow (loop.Apart loop.next) (loop.Flat loop.next) first second) :
    loop.Follow False True first second := by
  refine known.weaken False.elim fun _ => .inr (flat.follower ?_)
  simp [loop.holds.node_eq, Node.followers]

variable (partly : trial.rollback = .captures) (done : program.Holds Program.done .done)
include partly done

/-- The repetition of one character does what the general nodes do in its place. -/
theorem pass_entry_agree {deeper twoDeeper again againToo : Continuation}
    (undoing : again.Undoing)
    (follow : ∀ levels, loop.Follow False True (deeper loop.next)
      ((loop.trial trial limits).run levels loop.next))
    (followAgain : ∀ levels, loop.Follow False True (again loop.next)
      ((loop.trial trial limits).run levels loop.next)) {state : LoopSlot} (levels position : Nat)
    (alike : loop.Alike state before beforeToo) :
    Agree (trial.pass deeper twoDeeper again loop.entry position
        (.charRepeat loop.matcher loop.least loop.most loop.mode loop.next))
      ((loop.trial trial limits).pass ((loop.trial trial limits).run levels)
        ((loop.trial trial limits).run (levels - 1)) againToo loop.entry position
        (loop.general.node loop.entry)) before beforeToo (loop.Keeps False True state) := by
  by_cases keeps : loop.mode = .possessive
  · rw [general_eq_possessive keeps, possessive_head, Trial.pass, keeps]
    exact repeatPossessively_agree_longest keeps done partly undoing followAgain levels position
      alike
  rw [general_eq_counted keeps, counted_head, Trial.pass]
  refine enterLoop_agree keeps levels position alike fun registers entered => ?_
  cases prefers : loop.mode with
  | greedy => exact longest_agree keeps follow prefers followAgain levels position entered
  | lazy => exact shortest_agree keeps follow prefers levels position entered
  | possessive => exact absurd prefers keeps

variable {groupCount : Nat} (wellFormed : program.WellFormed groupCount)
  (encloses : program.Encloses) (executes : trial.program = program)
include wellFormed encloses executes

theorem walk_agree {deeper twoDeeper : Continuation} (undoing : deeper.Undoing)
    (undoingTwo : twoDeeper.Undoing)
    (deep : ∀ levels, loop.Matches deeper ((loop.trial trial limits).run levels))
    (deepTwo : ∀ levels, loop.Matches twoDeeper ((loop.trial trial limits).run levels))
    (levels : Nat) {fuel fuelToo : Nat} {id : NodeId} (inside : id < program.size)
    (enough : id < fuel) (enoughToo : id < fuelToo) :
    loop.Follow (loop.Apart id) (loop.Flat id) (trial.walk deeper twoDeeper fuel id)
      ((loop.trial trial limits).walk ((loop.trial trial limits).run levels)
        ((loop.trial trial limits).run (levels - 1)) fuelToo id) := by
  have flat : loop.Flat loop.entry := encloses.triesApart done loop.entry
  induction fuel generalizing levels fuelToo id with
  | zero => exact absurd enough (Nat.not_lt_zero id)
  | succ fuel ih =>
      cases fuelToo with
      | zero => exact absurd enoughToo (Nat.not_lt_zero id)
      | succ fuelToo =>
          have order {target : NodeId} (member : target ∈ (program.node id).continuations) :
              target < id ∧ target < program.size := by
            have lower := (wellFormed.sound id _ (Program.holds_of_lt inside)).continuations_lt
              target member
            exact ⟨lower, Nat.lt_trans lower inside⟩
          intro position state before beforeToo alike
          refine .visit ?_
          rw [executes]
          by_cases same : id = loop.entry
          · subst id
            have node_eq := loop.holds.node_eq
            have member : loop.next ∈ (program.node loop.entry).continuations := by
              simp [node_eq, Node.continuations]
            obtain ⟨lower, nextInside⟩ := order member
            have nextRuns (levels : Nat) :
                loop.Follow (loop.Apart loop.next) (loop.Flat loop.next)
                  (trial.walk deeper twoDeeper fuel loop.next)
                  ((loop.trial trial limits).run levels loop.next) := by
              cases levels with
              | zero => exact fun _ _ _ _ _ => .throwToo _
              | succ levels =>
                  rw [Trial.run_succ]
                  exact ih levels nextInside
                    (Nat.lt_of_lt_of_le lower (Nat.le_of_lt_succ enough))
                    (Nat.lt_trans nextInside loop.size_lt_general)
            rw [node_eq]
            refine (pass_entry_agree partly done (Trial.walk_undone trial undoing undoingTwo fuel)
              (fun levels => (deep levels loop.next nextInside).behind_entry flat)
              (fun levels => (nextRuns levels).behind_entry flat) levels position alike).weaken
                fun _ _ _ keeps => keeps.weaken ?_
            rintro (apart | ⟨-, failed⟩)
            · exact absurd .refl apart
            · exact .inr ⟨trivial, failed⟩
          · rw [show (loop.trial trial limits).program.node id = program.node id from
              loop.general_node inside same]
            refine pass_agree wellFormed executes partly inside (deep levels) (deepTwo (levels - 1))
              (fun target member => ?_) position alike
            obtain ⟨lower, targetInside⟩ := order member
            exact ih levels targetInside (Nat.lt_of_lt_of_le lower (Nat.le_of_lt_succ enough))
              (Nat.lt_of_lt_of_le lower (Nat.le_of_lt_succ enoughToo))

/-- Both programs do the same from each node on. -/
theorem run_agree (levels levelsToo : Nat) :
    loop.Matches (trial.run levels) ((loop.trial trial limits).run levelsToo) := by
  induction levels using Nat.strongRecOn generalizing levelsToo with
  | _ levels ih =>
      intro id inside
      cases levels with
      | zero => exact fun _ _ _ _ _ => .throw _
      | succ levels =>
          cases levelsToo with
          | zero => exact fun _ _ _ _ _ => .throwToo _
          | succ levelsToo =>
              rw [Trial.run_succ, Trial.run_succ, executes]
              exact walk_agree partly done wellFormed encloses executes (trial.run_undone levels)
                (trial.run_undone (levels - 1)) (ih levels (by omega)) (ih (levels - 1) (by omega))
                levelsToo inside inside (Nat.lt_trans inside loop.size_lt_general)

end Entry

/-- Running a repetition of one character, or any other node of a program, comes to the same end as
with a loop or a possessive repetition of the character in the place of the repetition, with the
same captures, whenever no limit is exceeded in either program.  The program may be that of any
accepted pattern: these are well-formed, enclose what they try on its own, and begin with the end
of a match. -/
theorem run_general_eq {groupCount : Nat} (wellFormed : program.WellFormed groupCount)
    (encloses : program.Encloses) (done : program.Holds Program.done .done)
    (loop : CharLoop program) {trial : Trial} (executes : trial.program = program)
    (partly : trial.rollback = .captures) {limits : Limits} {levels levelsToo : Nat} {id : NodeId}
    (inside : id < program.size) {position steps stepsToo : Nat} {registers : Registers}
    (reserved : loop.general.loopSlots ≤ registers.loops.size) {answer answerToo : Option Nat}
    {after afterToo : Execution}
    (runs : (trial.run levels id position).run.run ⟨registers, steps⟩ = (.ok answer, after))
    (runsToo : ((loop.trial trial limits).run levelsToo id position).run.run
      ⟨registers, stepsToo⟩ = (.ok answerToo, afterToo)) :
    answer = answerToo ∧ after.registers.captures = afterToo.registers.captures ∧
      after.registers.highestGroup = afterToo.registers.highestGroup := by
  obtain ⟨same, left, alike, -⟩ := run_agree partly done wellFormed encloses executes levels
    levelsToo id inside position _ registers registers ⟨rfl, rfl, reserved⟩ steps stepsToo answer
    answerToo after afterToo runs runsToo
  exact ⟨same, alike.captures_eq, alike.highestGroup_eq⟩

/-- In `(a{2,}?)b` the lazy repetition of `a` may be a loop. -/
theorem lazy_run_general_eq :
    ∃ regexp, ∃ loop : CharLoop regexp.program, ∃ after afterToo,
      Regexp.compile ['(', 'a', '{', '2', ',', '}', '?', ')', 'b'] {} = .ok regexp ∧
      loop.mode = .lazy ∧ loop.general ≠ regexp.program ∧
      ((Trial.mk regexp.program ⟨#['a', 'a', 'a', 'b']⟩ {} .captures).run 8 regexp.program.start
        0).run.run ⟨.initial 2 1, 0⟩ = (.ok (some 4), after) ∧
      ((loop.trial (Trial.mk regexp.program ⟨#['a', 'a', 'a', 'b']⟩ {} .captures) {}).run 16
        regexp.program.start 0).run.run ⟨.initial 2 1, 0⟩ = (.ok (some 4), afterToo) ∧
      after.registers.captures = afterToo.registers.captures ∧
      after.registers.highestGroup = afterToo.registers.highestGroup := by
  let program : Program := ⟨#[.done, .char (.char 'b') 0, .groupEnd 1 1,
    .charRepeat (.char 'a') 2 none .lazy 2, .groupStart 1 3], 4, 0⟩
  let loop : CharLoop program := ⟨3, .char 'a', 2, none, .lazy, 2, rfl, by simp⟩
  have found : (Regexp.compile ['(', 'a', '{', '2', ',', '}', '?', ')', 'b'] {}).toOption.any
      (fun regexp => regexp.program == program) = true := by
    decide +kernel
  have ends : (((Trial.mk program ⟨#['a', 'a', 'a', 'b']⟩ {} .captures).run 8 program.start
      0).run.run ⟨.initial 2 1, 0⟩).1.toOption = some (some 4) := by
    decide +kernel
  have endsToo : (((loop.trial (Trial.mk program ⟨#['a', 'a', 'a', 'b']⟩ {} .captures) {}).run 16
      program.start 0).run.run ⟨.initial 2 1, 0⟩).1.toOption = some (some 4) := by
    decide +kernel
  have inside : program.start < program.size := by decide
  have reserved : loop.general.loopSlots ≤ (Registers.initial 2 1).loops.size := by decide
  have differ : loop.general ≠ program :=
    fun same => Nat.ne_of_gt loop.size_lt_general (congrArg Program.size same)
  obtain ⟨⟨pattern, flags, _, hints, names, limits⟩, compiles, equal⟩ :=
    exists_of_toOption_any found
  obtain rfl := eq_of_beq equal
  obtain ⟨parsed, -, compiled⟩ := Regexp.exists_compiledFrom compiles
  rcases runs : ((Trial.mk program ⟨#['a', 'a', 'a', 'b']⟩ {} .captures).run 8 program.start
    0).run.run ⟨.initial 2 1, 0⟩ with ⟨_ | answer, after⟩ <;> rw [runs] at ends <;> cases ends
  rcases runsToo : ((loop.trial (Trial.mk program ⟨#['a', 'a', 'a', 'b']⟩ {} .captures) {}).run 16
    program.start 0).run.run ⟨.initial 2 1, 0⟩ with ⟨_ | answerToo, afterToo⟩ <;>
      rw [runsToo] at endsToo <;> cases endsToo
  have agree := run_general_eq (Program.ofPattern_wellFormed compiled.numbered compiled.made)
    (Program.ofPattern_lays compiled.made).1 (Program.ofPattern_encodes compiled.made).2 loop rfl
    rfl inside reserved runs runsToo
  refine ⟨_, loop, after, afterToo, compiles, rfl, differ, runs, ?_, agree.2⟩
  exact runsToo

end CharLoop

end Backtracking
