import Backtracking.Proofs.Compilation
import Backtracking.Proofs.EnsembleParts

/-!
# Attempts that stay together

By induction over the pattern, whose nodes keep an ensemble together because those of its parts do.
So all attempts of a compiled pattern stay together from their first node on, and what holds of
their common end holds of each attempt: its captures are coherent, even where it exceeds a limit.
-/

namespace Backtracking

namespace Pattern

/-- The numbers of all capture groups are positive. -/
abbrev CountsFromOne (pattern : Pattern) : Prop :=
  pattern.Throughout fun part => part.groupIndex? ≠ some 0

end Pattern

theorem ParsedPattern.Numbered.countsFromOne {parsed : ParsedPattern} (numbered : parsed.Numbered) :
    parsed.pattern.CountsFromOne := by
  intro part member zeroth
  have numbers : 0 ∈ parsed.pattern.groups := List.mem_filterMap.mpr ⟨part, member, zeroth⟩
  rw [numbered.groups_eq, List.mem_range'_1] at numbers
  omega

namespace Ensemble

variable {ι : Type} {ensemble : Ensemble ι} {parsed : ParsedPattern}

/-- What is known of the nodes of a pattern, wherever they are. -/
def Keeps (ensemble : Ensemble ι) (parsed : ParsedPattern) (pattern : Pattern) : Prop :=
  ∀ {slots depth : Nat} {entry next : NodeId},
    Encodes parsed ensemble.trial.program ensemble.sealing.loopDepth slots depth pattern entry
      next →
    pattern.Fits ensemble.origin.opened.size ensemble.sealing.groupDepth depth →
    pattern.CountsFromOne → ensemble.Carries depth pattern.groups slots entry next

theorem carries_items {items : List Pattern} {slots depth : Nat} {pending : PendingText}
    {next : NodeId} (known : ∀ item ∈ items, Keeps ensemble parsed item)
    (encodes : EncodesItems parsed ensemble.trial.program ensemble.sealing.loopDepth slots depth
      items pending next)
    (fits : ∀ item ∈ items,
      item.Fits ensemble.origin.opened.size ensemble.sealing.groupDepth depth)
    (counts : ∀ item ∈ items, item.CountsFromOne) :
    ensemble.Carries depth (Pattern.groupsOfAll items) slots pending.next next := by
  induction items generalizing pending with
  | nil =>
      cases encodes
      exact .refl next
  | cons item items ih =>
      have further {rest : PendingText} (encodes : EncodesItems parsed ensemble.trial.program
          ensemble.sealing.loopDepth slots depth items rest next) :
          ensemble.Carries depth (Pattern.groupsOfAll (item :: items)) slots rest.next next := by
        rw [Pattern.groupsOfAll_cons]
        exact (ih (fun other member => known other (by simp [member])) encodes
          (fun other member => fits other (by simp [member]))
          fun other member => counts other (by simp [member])).weaken
          (List.subset_append_right ..) (Nat.le_refl _)
      cases encodes with
      | item follows text encodes =>
          have begins := known item (by simp) encodes (fits item (by simp)) (counts item (by simp))
          refine (begins.weaken ?_ (Nat.le_refl _)).trans ((Carries.pendingText text).trans
            (further follows))
          rw [Pattern.groupsOfAll_cons]
          exact List.subset_append_left ..
      | joined follows alike =>
          have continues := further follows
          exact continues
      | apart follows text => exact (Carries.pendingText text).trans (further follows)

theorem carries_branches {branches : List Pattern} {slots depth : Nat} {entries : List NodeId}
    {next : NodeId} (known : ∀ branch ∈ branches, Keeps ensemble parsed branch)
    (encodes : EncodesBranches parsed ensemble.trial.program ensemble.sealing.loopDepth slots depth
      branches entries next)
    (fits : ∀ branch ∈ branches,
      branch.Fits ensemble.origin.opened.size ensemble.sealing.groupDepth depth)
    (counts : ∀ branch ∈ branches, branch.CountsFromOne) :
    ∀ entry ∈ entries,
      ensemble.Carries depth (Pattern.groupsOfAll branches) slots entry next := by
  induction branches generalizing entries with
  | nil =>
      cases encodes
      simp
  | cons branch branches ih =>
      cases encodes with
      | cons encodes follows =>
          have begins := known branch (by simp) encodes (fits branch (by simp))
            (counts branch (by simp))
          have rest := ih (fun other member => known other (by simp [member])) follows
            (fun other member => fits other (by simp [member]))
            fun other member => counts other (by simp [member])
          rw [Pattern.groupsOfAll_cons, List.forall_mem_cons]
          exact ⟨begins.weaken (List.subset_append_left ..) (Nat.le_refl _), fun entry member =>
            (rest entry member).weaken (List.subset_append_right ..) (Nat.le_refl _)⟩

theorem carries_behind {body : Pattern} {branches : List Pattern} {slots depth : Nat}
    {entries : List (Nat × NodeId)} (within : branches ⊆ body.branches)
    (known : ∀ branch ∈ branches, Keeps ensemble parsed branch)
    (encodes : EncodesBehind parsed ensemble.trial.program ensemble.sealing.loopDepth slots depth
      branches entries)
    (fits : ∀ branch ∈ branches,
      branch.Fits ensemble.origin.opened.size ensemble.sealing.groupDepth depth)
    (counts : ∀ branch ∈ branches, branch.CountsFromOne) :
    ∀ entry ∈ entries,
      ensemble.Carries depth body.groups slots entry.2 Program.done := by
  induction branches generalizing entries with
  | nil =>
      cases encodes
      simp
  | cons branch branches ih =>
      cases encodes with
      | cons fixed encodes follows =>
          have begins := known branch (by simp) encodes (fits branch (by simp))
            (counts branch (by simp))
          have rest := ih (fun _ member => within (List.mem_cons_of_mem _ member))
            (fun other member => known other (by simp [member])) follows
            (fun other member => fits other (by simp [member]))
            fun other member => counts other (by simp [member])
          rw [List.forall_mem_cons]
          exact ⟨begins.weaken (Pattern.groups_branch_subset (within (by simp))) (Nat.le_refl _),
            rest⟩

theorem repeated_keeps (done : ensemble.trial.program.Holds Program.done .done) {body : Pattern}
    (known : Keeps ensemble parsed body) (least : Nat) (most : Option Nat) (mode : RepeatMode) :
    Keeps ensemble parsed (.repeated body least most mode) := by
  intro slots depth entry next encodes fits counts
  obtain ⟨-, bodyFits⟩ := fits.repeated
  have bodyCounts := counts.repeated
  rw [Pattern.groups_repeated]
  cases encodes with
  | omitted => exact .refl entry
  | charRepeat order holds => exact .charRepeat order holds
  | possessive holds encodes =>
      rw [if_pos rfl] at bodyFits
      exact .possessive done holds (known encodes bodyFits bodyCounts)
  | single gives encodes =>
      rw [if_neg gives] at bodyFits
      exact known encodes bodyFits bodyCounts
  | optional gives order holds encodes =>
      rw [if_neg gives] at bodyFits
      have bodyCarries := known encodes bodyFits bodyCounts
      by_cases greedy : mode = .greedy
      · rw [if_pos greedy] at holds
        exact .either holds order bodyCarries (.refl _)
      · rw [if_neg greedy] at holds
        exact .either holds order.symm (.refl _) bodyCarries
  | loop gives fresh sealed holds closes encodes =>
      rw [if_neg gives] at bodyFits
      exact .loop holds closes fresh.1 sealed fresh.2 (known encodes bodyFits bodyCounts)

/-- The nodes of a pattern carry the attempts to what follows them. -/
theorem keeps (done : ensemble.trial.program.Holds Program.done .done) (pattern : Pattern) :
    Keeps ensemble parsed pattern := by
  induction pattern with
  | empty =>
      intro slots depth entry next encodes fits counts
      cases encodes
      exact .refl entry
  | char matcher =>
      intro slots depth entry next encodes fits counts
      cases encodes with
      | char order holds => exact .char holds order
  | assert assertion =>
      intro slots depth entry next encodes fits counts
      cases encodes with
      | assert order holds => exact .assertion holds order
  | group index body ih =>
      intro slots depth entry next encodes fits counts
      obtain ⟨outside, inside, sealed, bodyFits⟩ := fits.group
      have positive : index ≠ 0 := fun zeroth => counts.self (by simp [Pattern.groupIndex?, zeroth])
      cases encodes with
      | group opens encodes closes =>
          rw [Pattern.groups_group]
          exact .capturing opens closes positive outside sealed inside
            (ih encodes bodyFits counts.group)
  | concat items ih =>
      intro slots depth entry next encodes fits counts
      cases encodes with
      | concat encodes text =>
          exact (Carries.pendingText text).trans
            (carries_items ih encodes fits.items fun item member => counts.item member)
  | alternation branches ih =>
      intro slots depth entry next encodes fits counts
      cases encodes with
      | alternation order holds encodes =>
          exact .choice holds order
            (carries_branches ih encodes fits.branches fun branch member => counts.branch member)
  | repeated body least most mode ih => exact repeated_keeps done ih least most mode
  | lookAround direction negated body offset ih branchIH =>
      intro slots depth entry next encodes fits counts
      cases encodes with
      | lookAhead order holds encodes =>
          exact .lookAhead done order holds (ih encodes fits.lookAround counts.lookAround)
      | lookBehind order holds encodes =>
          rw [Pattern.groups_lookAround]
          exact .lookBehind done order holds
            (carries_behind (List.Subset.refl _) branchIH encodes fits.lookAround.branchesOf
              fun branch member => counts.lookAround.ofBranches member)
  | atomic body ih =>
      intro slots depth entry next encodes fits counts
      cases encodes with
      | atomic holds encodes => exact .atomic done holds (ih encodes fits.atomic counts.atomic)
  | backReference target ignoresCase offset =>
      intro slots depth entry next encodes fits counts
      cases encodes with
      | backReference named order holds => exact .backReference holds order
  | conditional target yes no offset yesIH noIH =>
      intro slots depth entry next encodes fits counts
      obtain ⟨fitsYes, fitsNo⟩ := fits.conditional
      cases encodes with
      | conditional named order holds encodesYes encodesNo =>
          rw [Pattern.groups_conditional]
          exact .conditional holds order
            ((yesIH encodesYes fitsYes counts.yes).weaken (List.subset_append_left ..)
              (Nat.le_refl _))
            ((noIH encodesNo fitsNo counts.no).weaken (List.subset_append_right ..)
              (Nat.le_refl _))

/-- Attempts at one position stay together, and their captures are coherent, whether they come to an
end or exceed a limit. -/
theorem attempts_together (ensemble : Ensemble ι)
    (done : ensemble.trial.program.Holds Program.done .done)
    (encodes : Encodes parsed ensemble.trial.program ensemble.sealing.loopDepth 0 0 parsed.pattern
      ensemble.trial.program.start Program.done)
    (fits : parsed.pattern.Fits ensemble.origin.opened.size ensemble.sealing.groupDepth 0)
    (counts : parsed.pattern.CountsFromOne) {position : Nat}
    (inside : position ≤ ensemble.subject.size) {before : ι → Registers}
    (alike : ∀ index, (before index).Alike ensemble.origin) :
    ensemble.Together
      (fun index => (ensemble.member index).watchedAttempt (ensemble.watcher index) position) before
      fun _ after => ∃ captured, ensemble.Shares captured after := by
  have cleared : ensemble.Shares (.nothing ensemble.origin.captures.size)
      fun index => (before index).cleared := by
    refine ⟨fun index => ((before index).cleared_alike).trans (alike index), fun index => ?_,
      Array.size_replicate, Captured.coherent_nothing _ _⟩
    rw [Registers.captured_cleared, (alike index).captures_size]
  have ready : ensemble.Ready (.outermost ensemble.sealing) 0 position _ _ :=
    ⟨Nat.zero_le _, inside, cleared, fun index => by simp [Frame.Holds, Frame.outermost]⟩
  have inStep := keeps done parsed.pattern encodes fits counts (.outermost ensemble.sealing) 0
    (ensemble.trial.limits.maxDepth + 1) rfl (by simp [Frame.Avoids, Frame.outermost]) (.done done)
  refine .change ((inStep.runs (Nat.le_refl _) ready).weaken fun answer after answers => ?_)
  cases answers with
  | fails restored => exact ⟨_, restored.shares⟩
  | succeeds ordered within shares agree => exact ⟨_, shares⟩

end Ensemble

namespace Trial

variable {parsed : ParsedPattern} {regexp : Regexp} (compiled : regexp.CompiledFrom parsed)
  {trial : Trial} (executes : trial.program = regexp.program) {position : Nat}
  (inside : position ≤ trial.subject.size)

include compiled executes inside in
/-- Attempts that differ in how far they go back, and in watchers who let pass what is true of all
visits, come to the same end after the same number of steps, with the same captures, and these are
coherent, even where a limit is exceeded. -/
theorem attempts_shared {ι : Type} (rollback : ι → Rollback) {watcher : ι → Watcher}
    {before : Execution} (sized : before.registers.Sized regexp)
    (lets : ∀ index, (watcher index).Lets (trial.Visited before.registers)) :
    ∃ result taken captured, ∃ after : ι → Registers,
      (∀ index, ({ trial with rollback := rollback index }.watchedAttempt (watcher index)
        position).run.run before = (result, ⟨after index, taken⟩)) ∧
      (∀ index, (after index).Alike before.registers) ∧
      (∀ index, (after index).captured = captured) ∧ captured.Coherent trial.subject := by
  obtain ⟨groupDepth, fits⟩ := compiled.numbered.fits
  obtain ⟨⟨loopDepth, encodes⟩, done⟩ := Program.ofPattern_encodes compiled.made
  rw [← executes] at encodes done
  have opened := sized.opened_size.trans compiled.groupCount_eq
  let ensemble : Ensemble ι :=
    { trial := trial
      rollback := rollback
      watcher := watcher
      sealing := ⟨loopDepth, groupDepth⟩
      origin := before.registers
      loops_size := by rw [sized.loops_size, executes]
      captures_size := sized.captures_size.trans sized.opened_size.symm
      lets := lets }
  obtain ⟨result, after, taken, runs, ends⟩ := ensemble.attempts_together done encodes
    (opened ▸ fits) compiled.numbered.countsFromOne inside (fun _ => .refl before.registers)
    before.steps
  have shared : ∃ captured, ensemble.Shares captured after := by
    cases result <;> exact ends
  obtain ⟨captured, shares⟩ := shared
  exact ⟨result, taken, captured, after, runs, shares.alike, shares.captured_eq, shares.coherent⟩

include compiled executes inside in
/-- A watcher who lets pass what is true of all visits does not notice an attempt: with him it comes
to the same end after the same number of steps, with the same captures, and these are coherent, even
where a limit is exceeded. -/
theorem attempt_shared {before : Execution} (sized : before.registers.Sized regexp)
    {watcher : Watcher} (lets : watcher.Lets (trial.Visited before.registers)) :
    ∃ result taken, ∃ after : Bool → Registers,
      (trial.watchedAttempt watcher position).run.run before = (result, ⟨after true, taken⟩) ∧
      (trial.attempt position).run.run before = (result, ⟨after false, taken⟩) ∧
      (∀ watched, (after watched).Alike before.registers) ∧
      (after true).captured = (after false).captured ∧
      (after false).captured.Coherent trial.subject := by
  obtain ⟨result, taken, captured, after, runs, alike, captured_eq, coherent⟩ :=
    attempts_shared compiled executes inside (fun _ : Bool => trial.rollback) sized
      (Bool.forall_bool.mpr ⟨Watcher.silent_lets _, lets⟩ :
        ∀ watched, (bif watched then watcher else Watcher.silent).Lets _)
  have plain := runs false
  rw [cond_false, watchedAttempt_silent] at plain
  exact ⟨result, taken, after, runs true, plain, alike,
    (captured_eq true).trans (captured_eq false).symm, captured_eq false ▸ coherent⟩

include compiled executes inside in
/-- An attempt leaves coherent captures, even where it exceeds a limit.  A watcher who lets pass
what is true of all visits does not notice it: with him it comes to the same end. -/
theorem attempt_unnoticed {before : Execution} (sized : before.registers.Sized regexp)
    {watcher : Watcher} (lets : watcher.Lets (trial.Visited before.registers)) :
    let watched := (trial.watchedAttempt watcher position).run.run before
    let plain := (trial.attempt position).run.run before
    watched.1 = plain.1 ∧ watched.2.registers.captured = plain.2.registers.captured ∧
      plain.2.registers.captured.Coherent trial.subject := by
  obtain ⟨result, taken, after, watched, plain, -, same, coherent⟩ :=
    attempt_shared compiled executes inside sized lets
  simp only [watched, plain, true_and]
  exact ⟨same, coherent⟩

end Trial

end Backtracking
