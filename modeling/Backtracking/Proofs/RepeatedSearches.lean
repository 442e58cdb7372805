import Backtracking.Proofs.StateInvariant

/-!
# Searches that are repeated

A search that exceeds a limit can be repeated, and comes to the same end again, although it was
given up in the midst of an attempt: what it leaves in the registers is nothing that the next
attempt does not clear.  It begins where it began before, for only a match moves the origin of the
next search, or a search that finds nothing.
-/

namespace Backtracking

namespace MatchState

open Running

variable {regexp : Regexp} {subject : Subject} {state after : MatchState}

/-! ## Operations that are given up -/

/-- The next search begins where it would have begun before, and is a search for the same. -/
structure Keeps (before after : MatchState) : Prop where
  origin_eq : after.origin = before.origin
  searchStart_eq : after.registers.searchStart = before.registers.searchStart
  previousEnd_eq : after.registers.previousEnd = before.registers.previousEnd
  usesHints_eq : after.usesHints = before.usesHints

/-- Registers that are alike do not matter to the next search. -/
theorem keeps_of_alike {registers : Registers} (alike : registers.Alike state.registers) :
    Keeps state { state with registers := registers } :=
  ⟨rfl, alike.searchStart_eq, alike.previousEnd_eq, rfl⟩

/-- An operation that exceeds a limit leaves the next search alone, it leaves no match, and when it
is repeated it exceeds the same limit and leaves the same state. -/
structure Repeatable (exceeds : MatchState → MatchError → MatchState → Prop) (state : MatchState) :
    Prop where
  keeps : ∀ error after, exceeds state error after → Keeps state after
  unset : ∀ error after, exceeds state error after →
    after.registers.captured.written? 0 = none
  again : ∀ error after, exceeds state error after → exceeds after error after

/-- What an operation that exceeds a limit leaves is the state of before with other registers. -/
theorem Repeatable.of_alike {exceeds : MatchState → MatchError → MatchState → Prop}
    (subject : Subject)
    (leaves : ∀ error after, exceeds state error after →
      ∃ registers : Registers, after = { state with registers := registers } ∧
        registers.Alike state.registers ∧ registers.captured.Coherent subject)
    (same : ∀ registers : Registers, registers.Alike state.registers → ∀ error after,
      exceeds state error after → exceeds { state with registers := registers } error after) :
    Repeatable exceeds state := by
  refine ⟨fun error after fails => ?_, fun error after fails => ?_, fun error after fails => ?_⟩ <;>
    obtain ⟨registers, rfl, alike, coherent⟩ := leaves error after fails
  · exact keeps_of_alike alike
  · exact coherent.zeroth
  · exact same registers alike _ _ fails

section Operations

variable {parsed : ParsedPattern} (compiled : regexp.CompiledFrom parsed)
  (sized : state.registers.Sized regexp)
include compiled sized

theorem find_repeatable :
    Repeatable (fun state error after => find regexp subject state = .ok (.error error, after))
      state := by
  refine .of_alike subject (fun error after fails => ?_) fun registers alike error after fails => ?_
  · cases findReturns_of_find fails with
    | @exceeds error last runs =>
        have scans := scans_of_run runs
        obtain ⟨-, coherent, -⟩ :=
          scans.coherent compiled (room_reaches subject state.origin) sized (by simp) (by simp)
        exact ⟨last.registers, rfl, scans.alike, coherent⟩
  · rw [← fails]
    exact find_of_alike alike rfl rfl

theorem exec_repeatable (position : Nat) :
    Repeatable (fun state error after => exec regexp subject position state = (.error error, after))
      state := by
  refine .of_alike subject (fun error after fails => ?_) fun registers alike error after fails => ?_
  · by_cases inside : position ≤ subject.size
    · rw [exec_eq_conclude inside] at fails
      rcases runs : ((trial regexp subject).attempt position).run.run ⟨state.registers, 0⟩ with
        ⟨_ | _ | stop, last⟩ <;> rw [runs] at fails
      · cases fails
        exact ⟨last.registers, rfl, Trial.attempt_alike _ runs,
          attempt_coherent compiled inside sized runs⟩
      · cases fails
      · cases fails
    · rw [exec, if_pos (Nat.lt_of_not_le inside)] at fails
      cases fails
  · rw [← fails]
    exact exec_of_alike position alike rfl rfl

end Operations

/-- An attempt that finds nothing leaves registers that are alike to those before. -/
theorem exec_none {position : Nat} (ends : exec regexp subject position state = (.ok none, after)) :
    ∃ registers : Registers, after = { state with registers := registers } ∧
      registers.Alike state.registers := by
  by_cases inside : position ≤ subject.size
  · rw [exec_eq_conclude inside] at ends
    rcases runs : ((trial regexp subject).attempt position).run.run ⟨state.registers, 0⟩ with
      ⟨_ | _ | stop, last⟩ <;> rw [runs] at ends <;> cases ends
    exact ⟨_, rfl, (last.registers.cleared_alike).trans (Trial.attempt_alike _ runs)⟩
  · rw [exec, if_pos (Nat.lt_of_not_le inside)] at ends
    cases ends
    exact ⟨_, rfl, state.registers.cleared_alike⟩

/-- A search, or an attempt at one position, that exceeds a limit leaves the next search alone and
can be repeated, with the same end.  An attempt that finds nothing leaves the next search alone too,
which then comes to the same end as without it. -/
theorem operations_repeatable {text : List Char} {flags : Flags} {regexp : Regexp}
    (compiles : Regexp.compile text flags = .ok regexp) (subject : Subject) (limits : Limits)
    {state : MatchState} (reachable : Reachable { regexp with limits := limits } subject state) :
    Repeatable (fun state error after =>
      find { regexp with limits := limits } subject state = .ok (.error error, after)) state ∧
    ∀ position,
      Repeatable (fun state error after =>
        exec { regexp with limits := limits } subject position state = (.error error, after))
      state ∧
      ∀ after, exec { regexp with limits := limits } subject position state = (.ok none, after) →
        Keeps state after ∧
          find { regexp with limits := limits } subject after =
            find { regexp with limits := limits } subject state := by
  obtain ⟨parsed, -, unlimited⟩ := Regexp.exists_compiledFrom compiles
  have compiled := unlimited.limited limits
  refine ⟨find_repeatable compiled reachable.sized, fun position =>
    ⟨exec_repeatable compiled reachable.sized position, fun after ends => ?_⟩⟩
  obtain ⟨registers, rfl, alike⟩ := exec_none ends
  exact ⟨keeps_of_alike alike, find_of_alike alike rfl rfl⟩

/-- A search for `(?:(a)|b)*c` in `cabab`, behind a first one that has found the `c`, exceeds a
limit of ten steps with a group that is captured, and does so again. -/
theorem loop_repeatable :
    ∃ regexp first second,
      Regexp.compile ['(', '?', ':', '(', 'a', ')', '|', 'b', ')', '*', 'c'] {} = .ok regexp ∧
      find { regexp with limits := ⟨512, some 10⟩ } ⟨#['c', 'a', 'b', 'a', 'b']⟩
        (.initial regexp) = .ok (.ok true, first) ∧
      find { regexp with limits := ⟨512, some 10⟩ } ⟨#['c', 'a', 'b', 'a', 'b']⟩ first =
        .ok (.error (.stepLimitExceeded 10), second) ∧
      second.span? 1 = some ⟨1, 2⟩ ∧
      find { regexp with limits := ⟨512, some 10⟩ } ⟨#['c', 'a', 'b', 'a', 'b']⟩ second =
        .ok (.error (.stepLimitExceeded 10), second) := by
  let search (regexp : Regexp) :=
    find { regexp with limits := ⟨512, some 10⟩ } ⟨#['c', 'a', 'b', 'a', 'b']⟩
  have ends : (Regexp.compile ['(', '?', ':', '(', 'a', ')', '|', 'b', ')', '*', 'c']
      {}).toOption.any (fun regexp =>
        (search regexp (.initial regexp)).toOption.any fun first =>
          first.1 == .ok true && (search regexp first.2).toOption.any fun second =>
            second.1 == .error (.stepLimitExceeded 10) &&
              second.2.span? 1 == some ⟨1, 2⟩) = true := by
    decide +kernel
  obtain ⟨regexp, compiles, ends⟩ := exists_of_toOption_any ends
  obtain ⟨⟨answer, first⟩, found, ends⟩ := exists_of_toOption_any ends
  obtain ⟨succeeds, ends⟩ := Bool.and_eq_true_iff.mp ends
  obtain ⟨⟨answerToo, second⟩, searched, ends⟩ := exists_of_toOption_any ends
  obtain ⟨fails, captured⟩ := Bool.and_eq_true_iff.mp ends
  obtain rfl : answer = .ok true := eq_of_beq succeeds
  obtain rfl : answerToo = .error (.stepLimitExceeded 10) := eq_of_beq fails
  have reachable := Reachable.find .initial found
  have repeatable :=
    (operations_repeatable compiles ⟨#['c', 'a', 'b', 'a', 'b']⟩ ⟨512, some 10⟩ reachable).1
  exact ⟨regexp, first, second, compiles, found, searched, eq_of_beq captured,
    repeatable.again _ second searched⟩

end MatchState

end Backtracking
