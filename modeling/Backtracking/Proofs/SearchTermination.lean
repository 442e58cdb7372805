import Backtracking.Proofs.SearchOverflows

/-!
# Searches come to an end

For every pattern and every subject there is a depth that suffices for all searches: without a limit
on the steps, and with no lesser limit on the depth, no operation on a match state exceeds a limit.
As no search is given up, none begins where it would overflow, unless it is told to begin there.
-/

namespace Backtracking

namespace MatchState

open Running

/-- The limits of a regular expression suffice for every attempt on a subject. -/
def Suffices (regexp : Regexp) (subject : Subject) : Prop :=
  ∀ position ≤ subject.size, ∀ registers : Registers, registers.Sized regexp →
    ((trial regexp subject).attempt position).Yields registers fun _ after =>
      after.Alike registers

theorem suffices_of_frames {parsed : ParsedPattern} {regexp : Regexp}
    (compiled : regexp.CompiledFrom parsed) {subject : Subject} {limits : Limits}
    (unlimited : limits.maxSteps = none)
    (deep : parsed.pattern.frames subject.size ≤ limits.maxDepth) :
    Suffices { regexp with limits := limits } subject := by
  intro position inside registers sized
  have yields : ((trial { regexp with limits := limits } subject).attempt position).Yields
      registers _ :=
    Trial.attempt_yields (compiled.limited limits) rfl inside unlimited deep sized
  exact yields.weaken fun _ _ attempted => attempted.1

variable {regexp : Regexp} {subject : Subject}

theorem scan_yields (enough : Suffices regexp subject) {usesHints : Bool} {room position : Nat}
    (inside : room = 0 ∨ position + room ≤ subject.size + 1) {registers : Registers}
    (sized : registers.Sized regexp) :
    (scan regexp subject usesHints room position).Yields registers fun _ _ => True := by
  induction room generalizing position registers with
  | zero => exact .pure trivial
  | succ room ih =>
      have further {registers : Registers} (sized : registers.Sized regexp) :
          (scan regexp subject usesHints room (position + 1)).Yields registers fun _ _ => True :=
        ih (by omega) sized
      rw [scan]
      split
      · exact .pure trivial
      · exact .pure trivial
      · split
        · exact .pure trivial
        · exact further sized
      · refine (enough position (by omega) registers sized).bind fun answer after alike => ?_
        split
        · exact .pure trivial
        · split
          · exact .pure trivial
          · exact further (sized.of_alike alike)

theorem find_ends (enough : Suffices regexp subject)
    (addressable : subject.size < Width.greatestWord) {state : MatchState}
    (sized : state.registers.Sized regexp)
    (fits : ¬ Overflows regexp subject state.usesHints state.origin) :
    ∃ found after, find regexp subject state = .ok (.ok found, after) := by
  obtain ⟨answer, last, runs, -⟩ :=
    scan_yields enough (room_reaches subject state.origin) sized 0
  obtain ⟨result, after, returns⟩ := exists_find_eq_ok addressable fits
  cases findReturns_of_find returns with
  | exceeds exceeds => cases runs.symm.trans exceeds
  | nothing _ => exact ⟨_, _, returns⟩
  | finds _ => exact ⟨_, _, returns⟩

/-- In a reachable state no search overflows, if searches without hints come to an end. -/
theorem Reachable.not_overflows {parsed : ParsedPattern} (compiled : regexp.CompiledFrom parsed)
    (hold : HintsHold regexp subject) (enough : Suffices regexp subject)
    (addressable : subject.size < 2 ^ 63) {state : MatchState}
    (reachable : Reachable regexp subject state) :
    ¬ Overflows regexp subject state.usesHints state.origin := by
  intro overflows
  have hinted : Overflows regexp subject true state.origin := ⟨rfl, overflows.2⟩
  obtain ⟨error, last, fails⟩ := reachable.givenUp compiled hold addressable hinted
  have words : subject.size < Width.greatestWord := Nat.lt_trans addressable (by decide)
  obtain ⟨found, after, ends⟩ : ∃ found after,
      MatchState.find regexp subject { state with usesHints := false } = .ok (.ok found, after) :=
    find_ends enough words reachable.sized fun impossible => Bool.false_ne_true impossible.1
  cases fails.symm.trans ends

theorem exec_ends (enough : Suffices regexp subject) {state : MatchState}
    (sized : state.registers.Sized regexp) (position : Nat) :
    ∃ answer after, exec regexp subject position state = (.ok answer, after) := by
  rw [exec]
  split
  · exact ⟨_, _, rfl⟩
  · next inside =>
      obtain ⟨answer, after, runs, -⟩ :=
        enough position (by omega) state.registers sized 0
      rw [runs]
      cases answer with
      | none => exact ⟨_, _, rfl⟩
      | some stop => exact ⟨_, _, rfl⟩

end MatchState

end Backtracking
