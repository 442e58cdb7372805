import Mathlib.Algebra.Group.Nat.Defs
import Backtracking.Proofs.RefusedPositions

/-!
# Searches that overflow

A search that uses hints overflows if the sum of the position where it begins and the least length
of a match is no machine word.  No other sum of this kind can be too great: where the search goes
on, the subject has room for the least length.  Only a search from a given position overflows, or
one that follows a search without hints from there that was given up.
-/

namespace Backtracking

open Width

namespace MatchState

open Running

variable {regexp : Regexp} {subject : Subject} {state after : MatchState}

/-! ## The first sum of a search -/

/-- A search begins with a sum that is no machine word: that of the position where it begins and the
least length of a match. -/
def Overflows (regexp : Regexp) (subject : Subject) (usesHints : Bool) (origin : Nat) : Prop :=
  usesHints = true ∧ origin ≤ subject.size ∧ greatestWord < origin + regexp.hints.minLength

/-- If the search goes on, the subject has room for the least length. -/
theorem minLength_le_of_candidate {hints : Hints} {position : Nat} {candidate : Candidate}
    (said : hints.candidate subject position = .ok candidate) (goesOn : candidate ≠ .never) :
    position + hints.minLength ≤ subject.size := by
  rw [Hints.candidate, Hints.reach_of_le (Hints.le_of_candidate said), Except.map,
    Except.ok.injEq] at said
  split at said
  · exact absurd said.symm goesOn
  · next room =>
      simp only [Bool.or_eq_true, decide_eq_true_eq, not_or, Nat.not_lt] at room
      exact room.1

/-- A scan that begins with a sum that is a machine word forms no other one. -/
theorem Scans.ne_overflow {usesHints : Bool} {room position : Nat} {before after : Execution}
    {result : Except MatchError (Except Overflow (Option Span))}
    (scans : Scans regexp subject usesHints room position before result after)
    (addressable : subject.size < greatestWord)
    (fits : usesHints = true → room ≠ 0 → position + regexp.hints.minLength ≤ greatestWord)
    (overflow : Overflow) : result ≠ .ok (.error overflow) := by
  induction scans with
  | done | never | refusedOnly | exceeds | failsOnly | finds => simp
  | overflows hinted said =>
      obtain ⟨candidate, told⟩ :=
        Hints.exists_candidate (fits hinted (Nat.succ_ne_zero _)) subject
      cases told.symm.trans said
  | refused _ said _ _ ih =>
      have remains := minLength_le_of_candidate said (by decide)
      exact ih fun _ _ => by omega
  | fails allowed _ _ _ ih =>
      refine ih fun hinted _ => ?_
      have remains := minLength_le_of_candidate (allowed hinted) (by decide)
      omega

/-- A search that begins with a sum that is no machine word overflows there. -/
theorem find_of_overflows (overflows : Overflows regexp subject state.usesHints state.origin) :
    find regexp subject state =
      .error ⟨state.origin + regexp.hints.minLength, overflows.2.2⟩ := by
  obtain ⟨hinted, inside, beyond⟩ := overflows
  obtain ⟨room, equal⟩ : ∃ room, subject.size + 1 - state.origin = room + 1 :=
    Nat.exists_eq_succ_of_ne_zero (by omega)
  rw [find_eq_conclude, equal, run_scan_succ, if_pos hinted, Hints.candidate_of_lt beyond]
  rfl

/-- A search returns unless it begins with a sum that is no machine word. -/
theorem exists_find_eq_ok (addressable : subject.size < greatestWord)
    (fits : ¬ Overflows regexp subject state.usesHints state.origin) :
    ∃ result after, find regexp subject state = .ok (result, after) := by
  have first (hinted : state.usesHints = true) (room : subject.size + 1 - state.origin ≠ 0) :
      state.origin + regexp.hints.minLength ≤ greatestWord :=
    Nat.le_of_not_lt fun beyond => fits ⟨hinted, by omega, beyond⟩
  rw [find_eq_conclude]
  rcases runs : (scan regexp subject state.usesHints (subject.size + 1 - state.origin)
    state.origin).run.run ⟨state.registers, 0⟩ with ⟨error | overflow | _ | span, last⟩
  · exact ⟨_, _, rfl⟩
  · exact absurd rfl ((scans_of_run runs).ne_overflow addressable first overflow)
  · exact ⟨_, _, rfl⟩
  · exact ⟨_, _, rfl⟩

/-- A search overflows exactly if it begins with a sum that is no machine word, which is the one
that it tells. -/
theorem find_eq_error_iff (addressable : subject.size < greatestWord) {overflow : Overflow} :
    find regexp subject state = .error overflow ↔
      Overflows regexp subject state.usesHints state.origin ∧
        overflow.sum = state.origin + regexp.hints.minLength := by
  constructor
  · intro fails
    by_cases overflows : Overflows regexp subject state.usesHints state.origin
    · refine ⟨overflows, ?_⟩
      rw [find_of_overflows overflows] at fails
      cases fails
      rfl
    · obtain ⟨result, after, returns⟩ := exists_find_eq_ok addressable overflows
      cases fails.symm.trans returns
  · rintro ⟨overflows, equal⟩
    rw [find_of_overflows overflows]
    cases overflow
    cases equal
    rfl

/-- No match begins where the hints allow none, nor where they overflow. -/
theorem noMatchAt_of_candidate_ne (hold : HintsHold regexp subject)
    (addressable : subject.size < greatestWord) {position : Nat} (inside : position ≤ subject.size)
    (refused : regexp.hints.candidate subject position ≠ .ok .yes) :
    NoMatchAt regexp subject position := by
  rcases Nat.lt_or_ge greatestWord (position + regexp.hints.minLength) with beyond | fits
  · exact hold.short position inside (Nat.lt_trans addressable beyond)
  · obtain ⟨candidate, said⟩ := Hints.exists_candidate fits subject
    exact hold.refused position inside candidate said fun allowed => refused (allowed ▸ said)

/-! ## Where searches begin -/

/-- The least length of a match is a machine word. -/
theorem minLength_le_greatestWord {parsed : ParsedPattern} (compiled : regexp.CompiledFrom parsed) :
    regexp.hints.minLength ≤ greatestWord := by
  rw [compiled.hints_eq]
  exact parsed.pattern.width_least_le

theorem not_overflows_zero {parsed : ParsedPattern} (compiled : regexp.CompiledFrom parsed)
    (subject : Subject) (usesHints : Bool) : ¬ Overflows regexp subject usesHints 0 := by
  rintro ⟨-, -, beyond⟩
  rw [Nat.zero_add] at beyond
  exact Nat.not_lt_of_le (minLength_le_greatestWord compiled) beyond

/-- Where a match was found, the subject has room for the least length, and the next search begins
no later than behind the subject. -/
theorem room_of_attempt (state : MatchState) {parsed : ParsedPattern}
    (compiled : regexp.CompiledFrom parsed) (hold : HintsHold regexp subject)
    {position stop : Nat} (inside : position ≤ subject.size)
    {before last : Execution} (sized : before.registers.Sized regexp)
    (succeeds : ((trial regexp subject).attempt position).run.run before =
      (.ok (some stop), last)) :
    regexp.hints.minLength ≤ subject.size ∧
      (accept state ⟨position, stop⟩).origin ≤ subject.size + 1 := by
  have reached := (Trial.attempt_bounds compiled rfl inside sized succeeds).2
  refine ⟨?_, ?_⟩
  · by_contra long
    cases hold.short position inside (by omega) before (some stop) last sized succeeds
  · rw [accept]
    have within : stop ≤ subject.size := reached
    dsimp only
    split <;> omega

section GivenUp

variable {parsed : ParsedPattern} (compiled : regexp.CompiledFrom parsed)
  (hold : HintsHold regexp subject) (addressable : subject.size < 2 ^ 63)
include compiled hold addressable

theorem not_overflows_accept {position stop : Nat} (inside : position ≤ subject.size)
    {before last : Execution} (sized : before.registers.Sized regexp)
    (succeeds : ((trial regexp subject).attempt position).run.run before =
      (.ok (some stop), last)) {usesHints : Bool} :
    ¬ Overflows regexp subject usesHints (accept state ⟨position, stop⟩).origin := by
  rintro ⟨-, -, beyond⟩
  obtain ⟨least, within⟩ := room_of_attempt state compiled hold inside sized succeeds
  have room : greatestWord + 1 = 2 ^ 64 := rfl
  omega

/-- If a search has returned and the next one overflows with hints, both of them are given up
without hints. -/
theorem find_givenUp (sized : state.registers.Sized regexp) {result : Except MatchError Bool}
    (returns : find regexp subject state = .ok (result, after))
    (overflows : Overflows regexp subject true after.origin) :
    ∃ error last, find regexp subject { after with usesHints := false } =
      .ok (.error error, last) := by
  have returned := findReturns_of_find returns
  cases returned with
  | @exceeds error last runs =>
      have unhinted : state.usesHints = false := by
        by_contra hinted
        rw [Bool.not_eq_false] at hinted
        have begins : Overflows regexp subject state.usesHints state.origin := hinted ▸ overflows
        cases (find_of_overflows begins).symm.trans returns
      have same : find regexp subject
            { state with registers := last.registers, usesHints := false } =
          find regexp subject state :=
        find_of_alike (scans_of_run runs).alike rfl unhinted.symm
      exact ⟨_, _, same.trans returns⟩
  | nothing runs =>
      have inside := overflows.2.1
      exact absurd inside (Nat.not_succ_le_self _)
  | @finds span last runs =>
      obtain ⟨-, inside, before, attempted, attemptedSized, succeeds⟩ :=
        (scans_of_run runs).found (room_reaches subject state.origin) sized
      exact absurd overflows
        (not_overflows_accept compiled hold addressable inside attemptedSized succeeds)

/-- An attempt at one position only that leaves a state where the next search overflows has found
nothing. -/
theorem exec_alike_of_overflows (sized : state.registers.Sized regexp) (position : Nat)
    (overflows : Overflows regexp subject true (exec regexp subject position state).2.origin) :
    ∃ registers : Registers, registers.Alike state.registers ∧
      (exec regexp subject position state).2 = { state with registers := registers } := by
  by_cases inside : position ≤ subject.size
  · rw [exec_eq_conclude inside] at overflows ⊢
    rcases runs : ((trial regexp subject).attempt position).run.run ⟨state.registers, 0⟩ with
      ⟨error | _ | stop, last⟩
    · exact ⟨_, Trial.attempt_alike _ runs, rfl⟩
    · exact ⟨_, last.registers.cleared_alike.trans (Trial.attempt_alike _ runs), rfl⟩
    · rw [runs] at overflows
      exact absurd overflows (not_overflows_accept compiled hold addressable inside sized runs)
  · rw [exec, if_pos (Nat.lt_of_not_le inside)]
    exact ⟨_, state.registers.cleared_alike, rfl⟩

/-- In a reachable state where the next search overflows with hints, it is given up without them. -/
theorem Reachable.givenUp (reachable : Reachable regexp subject state)
    (overflows : Overflows regexp subject true state.origin) :
    ∃ error last, MatchState.find regexp subject { state with usesHints := false } =
      .ok (.error error, last) := by
  induction reachable with
  | initial => exact absurd overflows (not_overflows_zero compiled subject true)
  | find reachable returns _ =>
      exact find_givenUp compiled hold addressable reachable.sized returns overflows
  | findFrom position reachable returns _ =>
      exact find_givenUp compiled hold addressable (startingAt_sized reachable.sized position)
        returns overflows
  | @exec state position reachable ih =>
      obtain ⟨registers, alike, equal⟩ :=
        exec_alike_of_overflows compiled hold addressable reachable.sized position overflows
      rw [equal] at overflows ⊢
      obtain ⟨error, last, fails⟩ := ih overflows
      have same : MatchState.find regexp subject
            { state with registers := registers, usesHints := false } =
          MatchState.find regexp subject { state with usesHints := false } :=
        find_of_alike alike rfl rfl
      exact ⟨error, last, same.trans fails⟩
  | reset _ _ => exact absurd overflows (not_overflows_zero compiled subject true)
  | useHints yes _ ih => exact ih overflows

end GivenUp

end MatchState

end Backtracking
