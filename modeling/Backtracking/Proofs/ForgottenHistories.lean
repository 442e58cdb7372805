import Backtracking.Proofs.RepeatedSearches
import Mathlib.Data.List.Induction

/-!
# Histories that are forgotten

What was done with a match state before a search from a given position, or before a reset, has no
influence on anything that comes after.  The registers that such a search finds are alike, whatever
the history was, for it sets both of the positions that they agree on; and a reset leaves the
registers of a state in which nothing was done.  The use of hints is the only thing that lasts.
-/

namespace Backtracking

namespace Registers

/-- Registers that have a place for each group and each loop are alike if the search began and the
match before this one ended at the same positions. -/
theorem Sized.alike {regexp : Regexp} {first second : Registers} (sized : first.Sized regexp)
    (sizedToo : second.Sized regexp) (searchStart_eq : first.searchStart = second.searchStart)
    (previousEnd_eq : first.previousEnd = second.previousEnd) : first.Alike second where
  captures_size := sized.captures_size.trans sizedToo.captures_size.symm
  opened_size := sized.opened_size.trans sizedToo.opened_size.symm
  loops_size := sized.loops_size.trans sizedToo.loops_size.symm
  searchStart_eq := searchStart_eq
  previousEnd_eq := previousEnd_eq

/-- The registers of a search that has not begun have nothing that could be cleared. -/
theorem cleared_initial (groups loops : Nat) :
    (initial groups loops).cleared = initial groups loops := by
  simp [initial, cleared]

end Registers

namespace MatchState

/-! ## Operations in a sequence -/

/-- What may be done with a match state. -/
inductive Operation where
  | find
  | findFrom (position : Nat)
  | exec (position : Nat)
  | reset
  | useHints (yes : Bool)

/-- What an operation gives back: whether a match was found, where one begins, or nothing. -/
inductive Result where
  | found (answer : Except MatchError Bool)
  | began (answer : Except MatchError (Option Nat))
  | nothing

/-- What is seen of an operation: what it gives back, and the groups that are captured behind it. -/
structure Answer where
  result : Result
  spans : List (Option Span)
  highestGroup : Nat

variable (regexp : Regexp) (subject : Subject)

def perform (state : MatchState) : Operation → Except Overflow (Result × MatchState)
  | .find => (find regexp subject state).map (Prod.map .found id)
  | .findFrom position => (findFrom regexp subject position state).map (Prod.map .found id)
  | .exec position => .ok ((exec regexp subject position state).map .began id)
  | .reset => .ok (.nothing, state.reset)
  | .useHints yes => .ok (.nothing, { state with usesHints := yes })

/-- The state behind some operations on a new one, none of which overflows. -/
def behind (history : List Operation) : Except Overflow MatchState :=
  history.foldlM (fun state operation => (perform regexp subject state operation).map Prod.snd)
    (.initial regexp)

/-- What is seen of some operations, one after another, up to one that overflows. -/
def answers : List Operation → MatchState → List (Except Overflow Answer)
  | [], _ => []
  | operation :: operations, state =>
      match perform regexp subject state operation with
      | .error overflow => [.error overflow]
      | .ok (result, after) =>
          .ok ⟨result, after.spans, after.highestGroup⟩ :: answers operations after

variable {regexp subject}

theorem Reachable.perform {state after : MatchState} (reachable : Reachable regexp subject state)
    {operation : Operation} {result : Result}
    (returns : perform regexp subject state operation = .ok (result, after)) :
    Reachable regexp subject after := by
  cases operation with
  | find =>
      rcases searched : MatchState.find regexp subject state with _ | ⟨answer, last⟩ <;>
        simp only [MatchState.perform, searched] at returns <;> cases returns
      exact reachable.find searched
  | findFrom position =>
      rcases searched : MatchState.findFrom regexp subject position state with
        _ | ⟨answer, last⟩ <;>
        simp only [MatchState.perform, searched] at returns <;> cases returns
      exact reachable.findFrom position searched
  | exec position =>
      cases returns
      exact reachable.exec position
  | reset =>
      cases returns
      exact reachable.reset
  | useHints yes =>
      cases returns
      exact reachable.useHints yes

theorem behind_concat (history : List Operation) (operation : Operation) :
    behind regexp subject (history ++ [operation]) =
      behind regexp subject history >>= fun before =>
        (perform regexp subject before operation).map Prod.snd := by
  simp only [behind, List.foldlM_append, List.foldlM_cons, List.foldlM_nil, bind_pure]

theorem behind_reachable {history : List Operation} {state : MatchState}
    (reaches : behind regexp subject history = .ok state) : Reachable regexp subject state := by
  induction history using List.reverseRecOn generalizing state with
  | nil =>
      cases reaches
      exact .initial
  | append_singleton history operation ih =>
      rw [behind_concat] at reaches
      rcases reached : behind regexp subject history with overflow | before <;>
        rw [reached] at reaches
      · cases reaches
      · have last : (perform regexp subject before operation).map Prod.snd = .ok state := reaches
        rcases performed : perform regexp subject before operation with _ | ⟨result, after⟩ <;>
          rw [performed] at last <;> cases last
        exact (ih reached).perform performed

/-! ## What is forgotten -/

/-- A search from a given position depends on nothing but the use of hints. -/
theorem findFrom_of_sized {first second : MatchState} (sized : first.registers.Sized regexp)
    (sizedToo : second.registers.Sized regexp) (usesHints_eq : first.usesHints = second.usesHints)
    (position : Nat) :
    findFrom regexp subject position first = findFrom regexp subject position second := by
  have alike : (first.startingAt position).registers.Alike
      (second.startingAt position).registers :=
    Registers.Sized.alike (startingAt_sized sized position) (startingAt_sized sizedToo position)
      rfl rfl
  exact find_of_alike alike rfl usesHints_eq

theorem reset_of_sized {state : MatchState} (sized : state.registers.Sized regexp) :
    state.reset = { MatchState.initial regexp with usesHints := state.usesHints } := by
  have registers_eq : { state.registers.cleared with searchStart := 0, previousEnd := 0 } =
      (MatchState.initial regexp).registers := by
    have alike : { state.registers with searchStart := 0, previousEnd := 0 }.Alike
        (MatchState.initial regexp).registers :=
      Registers.Sized.alike ⟨sized.captures_size, sized.opened_size, sized.loops_size⟩
        (Registers.initial_sized regexp) rfl rfl
    exact alike.cleared_eq.trans (Registers.cleared_initial _ _)
  rw [reset, registers_eq]
  rfl

/-- A search from a given position forgets what was done before: whatever two histories were, if
both leave the same use of hints, it comes to the same end and leaves the same state, or overflows
in the same way, and so all operations that follow give the same answers.  After a reset, operations
give the answers that they give on a new state with this use of hints. -/
theorem histories_forgotten (regexp : Regexp) (subject : Subject) {first second : List Operation}
    {state other : MatchState} (reaches : behind regexp subject first = .ok state)
    (reachesToo : behind regexp subject second = .ok other)
    (usesHints_eq : state.usesHints = other.usesHints) :
    (∀ position,
      findFrom regexp subject position state = findFrom regexp subject position other ∧
      ∀ later,
        answers regexp subject (.findFrom position :: later) state =
          answers regexp subject (.findFrom position :: later) other) ∧
    ∀ later,
      answers regexp subject later state.reset =
        answers regexp subject later
          { MatchState.initial regexp with usesHints := state.usesHints } := by
  have sized := (behind_reachable reaches).sized
  have sizedToo := (behind_reachable reachesToo).sized
  refine ⟨fun position => ?_, fun later => ?_⟩
  · have same : findFrom regexp subject position state = findFrom regexp subject position other :=
      findFrom_of_sized sized sizedToo usesHints_eq position
    refine ⟨same, fun later => ?_⟩
    simp only [answers, perform, same]
  · rw [reset_of_sized sized]

/-- In `aaab`, a search for `(a)*b` that exceeds a limit of eight steps leaves a group that is
captured, and an attempt at the end of the subject leaves none.  A search from the second position
on does not tell these histories apart. -/
theorem failed_search_forgotten :
    ∃ regexp first second, Regexp.compile ['(', 'a', ')', '*', 'b'] {} = .ok regexp ∧
      let limited := { regexp with limits := ⟨512, some 8⟩ }
      behind limited ⟨#['a', 'a', 'a', 'b']⟩ [.find, .useHints false] = .ok first ∧
      behind limited ⟨#['a', 'a', 'a', 'b']⟩ [.exec 4, .useHints false] = .ok second ∧
      first.span? 1 = some ⟨1, 2⟩ ∧ second.span? 1 = none ∧
      first.usesHints = second.usesHints ∧
      findFrom limited ⟨#['a', 'a', 'a', 'b']⟩ 2 first =
        findFrom limited ⟨#['a', 'a', 'a', 'b']⟩ 2 second := by
  let left (regexp : Regexp) := behind { regexp with limits := ⟨512, some 8⟩ }
    ⟨#['a', 'a', 'a', 'b']⟩ [.find, .useHints false]
  let right (regexp : Regexp) := behind { regexp with limits := ⟨512, some 8⟩ }
    ⟨#['a', 'a', 'a', 'b']⟩ [.exec 4, .useHints false]
  have differ : (Regexp.compile ['(', 'a', ')', '*', 'b'] {}).toOption.any (fun regexp =>
      (left regexp).toOption.any fun first => (right regexp).toOption.any fun second =>
        first.span? 1 == some ⟨1, 2⟩ && second.span? 1 == none &&
          first.usesHints == second.usesHints) = true := by
    decide +kernel
  obtain ⟨regexp, compiles, differ⟩ := exists_of_toOption_any differ
  obtain ⟨first, reaches, differ⟩ := exists_of_toOption_any differ
  obtain ⟨second, reachesToo, differ⟩ := exists_of_toOption_any differ
  simp only [Bool.and_eq_true, beq_iff_eq] at differ
  obtain ⟨⟨captured, uncaptured⟩, usesHints_eq⟩ := differ
  have forgotten := histories_forgotten _ _ reaches reachesToo usesHints_eq
  exact ⟨regexp, first, second, compiles, reaches, reachesToo, captured, uncaptured, usesHints_eq,
    (forgotten.1 2).1⟩

end MatchState

end Backtracking
