import Backtracking.Proofs.SearchOverflows

/-!
# Searches with and without hints

A search that uses hints passes over positions where no match begins.  It takes fewer steps than
one that tries them all, and so it comes to the same end: an attempt clears the registers before
anything else, and the attempts that were left out would only have failed.
-/

namespace Backtracking

namespace MatchState

open Running

variable {regexp : Regexp} {subject : Subject}

/-- An attempt that comes to an end comes to the same end with alike registers and fewer steps. -/
theorem attempt_fewer {trial : Trial} {position : Nat} {before after : Execution}
    {answer : Option Nat} (ends : (trial.attempt position).run.run before = (.ok answer, after))
    {registers : Registers} (alike : registers.Alike before.registers) {steps : Nat}
    (fewer : steps ≤ before.steps) :
    ∃ taken ≤ after.steps, (trial.attempt position).run.run ⟨registers, steps⟩ =
      (.ok answer, ⟨after.registers, taken⟩) := by
  obtain ⟨-, -, same⟩ := Trial.attempt_follows trial (.refl trial.limits) position before steps _
    after (.refl _) fewer ends
  obtain ⟨taken, takenLe, runs⟩ := same answer rfl
  exact ⟨taken, takenLe, (attempt_of_alike trial position steps alike).trans runs⟩

/-- A search that finds no match at any position comes to no other end. -/
theorem Scans.nothing {usesHints : Bool} {room position : Nat} {before after : Execution}
    {found : Option Span}
    (scans : Scans regexp subject usesHints room position before (.ok (.ok found)) after)
    (reaches : room = 0 ∨ position + room ≤ subject.size + 1)
    (sized : before.registers.Sized regexp)
    (none : ∀ later ≤ subject.size, position ≤ later → NoMatchAt regexp subject later) :
    found = .none := by
  cases found with
  | none => rfl
  | some span =>
      obtain ⟨behind, inside, middle, last, kept, succeeds⟩ := scans.found reaches sized
      cases none _ inside behind middle _ last kept succeeds

/-- A search with hints comes to the same end as one without them, if it does not overflow. -/
theorem Scans.hinted {room position : Nat} {before after : Execution} {found : Option Span}
    (scans : Scans regexp subject false room position before (.ok (.ok found)) after)
    (hold : HintsHold regexp subject) (addressable : subject.size < Width.greatestWord)
    (reaches : room = 0 ∨ position + room ≤ subject.size + 1)
    (fits : room ≠ 0 → position + regexp.hints.minLength ≤ Width.greatestWord)
    (sized : before.registers.Sized regexp) {registers : Registers}
    (alike : registers.Alike before.registers) {steps : Nat} (fewer : steps ≤ before.steps) :
    ∃ last, Scans regexp subject true room position ⟨registers, steps⟩ (.ok (.ok found)) last ∧
      last.registers.Alike after.registers ∧
      (found.isSome = true → last.registers = after.registers) := by
  generalize ended : (Except.ok (Except.ok found) :
    Except MatchError (Except Overflow (Option Span))) = result at scans
  induction scans generalizing registers steps with
  | done =>
      cases ended
      exact ⟨_, .done, alike, fun impossible => by cases impossible⟩
  | overflows hinted | never hinted | refusedOnly hinted | refused hinted => cases hinted
  | exceeds => cases ended
  | failsOnly _ attempted anchored =>
      -- The attempt fails, so it may be left out.
      cases ended
      have kept := Trial.attempt_alike _ attempted
      obtain ⟨candidate, said⟩ := Hints.exists_candidate (fits (Nat.succ_ne_zero _)) subject
      cases candidate with
      | never =>
          exact ⟨_, .never rfl said, alike.trans kept.symm, fun impossible => by cases impossible⟩
      | no =>
          exact ⟨_, .refusedOnly rfl said anchored, alike.trans kept.symm,
            fun impossible => by cases impossible⟩
      | yes =>
          obtain ⟨taken, -, attemptedToo⟩ := attempt_fewer attempted alike fewer
          exact ⟨_, .failsOnly (fun _ => said) attemptedToo anchored, .refl _, fun _ => rfl⟩
  | @fails room position before middle after result allowed attempted unanchored others ih =>
      subst ended
      have kept := Trial.attempt_alike _ attempted
      obtain ⟨candidate, said⟩ := Hints.exists_candidate (fits (Nat.succ_ne_zero _)) subject
      have further (goesOn : candidate ≠ .never) :
          position + 1 + regexp.hints.minLength ≤ Width.greatestWord := by
        have remains := minLength_le_of_candidate said goesOn
        omega
      cases candidate with
      | never =>
          have whole := Scans.fails allowed attempted unanchored others
          obtain rfl := whole.nothing reaches sized (hold.never _ said)
          exact ⟨_, .never rfl said, alike.trans whole.alike.symm,
            fun impossible => by cases impossible⟩
      | no =>
          obtain ⟨last, hinted, same⟩ := ih (by omega) (fun _ => further (by decide))
            (sized.of_alike kept) (alike.trans kept.symm)
            (Nat.le_trans fewer (Trial.attempt_steps_le _ attempted)) rfl
          exact ⟨last, .refused rfl said unanchored hinted, same⟩
      | yes =>
          obtain ⟨taken, takenLe, attemptedToo⟩ := attempt_fewer attempted alike fewer
          obtain ⟨last, hinted, same⟩ := ih (by omega) (fun _ => further (by decide))
            (sized.of_alike kept) (.refl _) takenLe rfl
          exact ⟨last, .fails (fun _ => said) attemptedToo unanchored hinted, same⟩
  | @finds room position stop before after _ attempted =>
      -- The attempt finds a match, so the hints allow it.
      cases ended
      obtain ⟨candidate, said⟩ := Hints.exists_candidate (fits (Nat.succ_ne_zero room)) subject
      obtain rfl : candidate = .yes := by
        by_contra refused
        cases hold.refused position (by omega) candidate said refused before _ after sized attempted
      obtain ⟨taken, -, attemptedToo⟩ := attempt_fewer attempted alike fewer
      exact ⟨_, .finds (fun _ => said) attemptedToo, .refl _, fun _ => rfl⟩

/-- Whatever a search finds without hints, it finds with them, and leaves the same state.  As every
array is, the subject is shorter than half of what machine words count.  Attempts find no match at
the positions that the hints refuse, nor behind those where they expect no more matches, nor where
they overflow. -/
theorem find_hinted {text : List Char} {flags : Flags} {regexp : Regexp}
    (compiles : Regexp.compile text flags = .ok regexp) {subject : Subject}
    (addressable : subject.size < 2 ^ 63) (limits : Limits)
    {state : MatchState} (reachable : Reachable { regexp with limits := limits } subject state) :
    (∀ found after,
      find { regexp with limits := limits } subject { state with usesHints := false } =
        .ok (.ok found, after) →
      find { regexp with limits := limits } subject { state with usesHints := true } =
        .ok (.ok found, { after with usesHints := true })) ∧
    ∀ position ≤ subject.size,
      (regexp.hints.candidate subject position ≠ .ok .yes →
        NoMatchAt { regexp with limits := limits } subject position) ∧
      (regexp.hints.candidate subject position = .ok .never →
        ∀ later ≤ subject.size, position ≤ later →
          NoMatchAt { regexp with limits := limits } subject later) := by
  have hold := hintsHold compiles limits subject
  obtain ⟨parsed, -, unlimited⟩ := Regexp.exists_compiledFrom compiles
  have compiled := unlimited.limited limits
  have words : subject.size < Width.greatestWord := Nat.lt_trans addressable (by decide)
  refine ⟨fun found after finds => ?_, fun position inside =>
    ⟨noMatchAt_of_candidate_ne hold words inside, hold.never position⟩⟩
  have fits : ¬ Overflows { regexp with limits := limits } subject true state.origin := by
    intro overflows
    obtain ⟨error, last, fails⟩ := reachable.givenUp compiled hold addressable overflows
    cases fails.symm.trans finds
  have first (room : subject.size + 1 - state.origin ≠ 0) :
      state.origin + regexp.hints.minLength ≤ Width.greatestWord :=
    Nat.le_of_not_lt fun beyond => fits ⟨rfl, by omega, beyond⟩
  have inside := room_reaches subject state.origin
  cases findReturns_of_find finds with
  | nothing runs =>
      obtain ⟨last, hinted, alike, -⟩ := (scans_of_run runs).hinted hold words inside first
        reachable.sized (.refl _) (Nat.le_refl 0)
      rw [find_eq_conclude]
      dsimp only
      rw [hinted.run_eq, concludeFind, alike.cleared_eq]
  | finds runs =>
      obtain ⟨last, hinted, -, same⟩ := (scans_of_run runs).hinted hold words inside first
        reachable.sized (.refl _) (Nat.le_refl 0)
      rw [find_eq_conclude]
      dsimp only
      rw [hinted.run_eq, concludeFind, same rfl]
      rfl

/-- In a search for `a+b`, hints or not, the positions before the first `a` find no match. -/
theorem find_hinted_later :
    ∃ regexp after, Regexp.compile ['a', '+', 'b'] {} = .ok regexp ∧
      find { regexp with limits := {} } ⟨#['x', 'a', 'b']⟩
        { MatchState.initial regexp with usesHints := false } = .ok (.ok true, after) ∧
      find { regexp with limits := {} } ⟨#['x', 'a', 'b']⟩
        { MatchState.initial regexp with usesHints := true } =
          .ok (.ok true, { after with usesHints := true }) := by
  let search (regexp : Regexp) := find { regexp with limits := {} } ⟨#['x', 'a', 'b']⟩
    { MatchState.initial regexp with usesHints := false }
  have finds : (Regexp.compile ['a', '+', 'b'] {}).toOption.any (fun regexp =>
      (search regexp).toOption.any (·.1.toOption == some true)) = true := by
    decide +kernel
  obtain ⟨regexp, after, compiles, found⟩ := exists_found_of_toOption_any finds
  have hinted :=
    find_hinted compiles (by decide : (⟨#['x', 'a', 'b']⟩ : Subject).size < 2 ^ 63) {} .initial
  exact ⟨regexp, after, compiles, found, hinted.1 true after found⟩

end MatchState

end Backtracking
