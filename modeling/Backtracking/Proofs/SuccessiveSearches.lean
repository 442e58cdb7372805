import Backtracking.Proofs.HintedSearch

/-!
# Successive searches

Searches that follow one another, from a state in which nothing is found yet.  Each match lies
within the subject and begins at the first position, from the origin of its search on, where an
attempt succeeds; the next one begins where it ends or behind that place.  So there are no more
matches than positions, and once a search finds nothing, no later one finds anything.
-/

namespace Backtracking

namespace MatchState

open Running

variable {regexp : Regexp} {subject : Subject}

/-! ## One search -/

/-- A single attempt at a position, from given registers on, succeeds and ends at another one. -/
def MatchesAt (regexp : Regexp) (subject : Subject) (registers : Registers)
    (position stop : Nat) : Prop :=
  ∃ after, ((trial regexp subject).attempt position).run.run ⟨registers, 0⟩ =
    (.ok (some stop), after)

/-- A position is one of those that are tried in a search from `origin` on: all positions within the
subject, or only the first one if matches are anchored. -/
structure Tried (regexp : Regexp) (subject : Subject) (origin position : Nat) : Prop where
  origin_le : origin ≤ position
  le_size : position ≤ subject.size
  anchored : regexp.flags.anchored = true → position = origin

/-- What is found is a match at the first of the positions tried where there is one, and nothing is
found if there is none. -/
def Leftmost (regexp : Regexp) (subject : Subject) (registers : Registers) (origin : Nat) :
    Option Span → Prop
  | some span =>
      Tried regexp subject origin span.start ∧
      MatchesAt regexp subject registers span.start span.stop ∧
      ∀ position < span.start, Tried regexp subject origin position →
        ∀ stop, ¬ MatchesAt regexp subject registers position stop
  | none =>
      ∀ position, Tried regexp subject origin position →
        ∀ stop, ¬ MatchesAt regexp subject registers position stop

/-- After the first position, the others are tried, unless matches are anchored. -/
theorem Tried.cases {origin position : Nat} (tried : Tried regexp subject origin position) :
    position = origin ∨
      regexp.flags.anchored = false ∧ Tried regexp subject (origin + 1) position := by
  rcases Nat.eq_or_lt_of_le tried.origin_le with same | later
  · exact .inl same.symm
  · cases anchored : regexp.flags.anchored with
    | true => exact .inl (tried.anchored anchored)
    | false => exact .inr ⟨rfl, later, tried.le_size, by simp [anchored]⟩

/-- Where the first position is passed over, what is found behind it is leftmost. -/
theorem Leftmost.succ {registers : Registers} {origin : Nat} {found : Option Span}
    (unanchored : ¬ regexp.flags.anchored = true)
    (fails : ∀ stop, ¬ MatchesAt regexp subject registers origin stop)
    (leftmost : Leftmost regexp subject registers (origin + 1) found) :
    Leftmost regexp subject registers origin found := by
  cases found with
  | none =>
      intro position tried
      rcases tried.cases with rfl | ⟨-, later⟩
      · exact fails
      · exact leftmost position later
  | some span =>
      obtain ⟨tried, matched, least⟩ := leftmost
      refine ⟨⟨Nat.le_of_succ_le tried.origin_le, tried.le_size, fun anchored =>
        absurd anchored unanchored⟩, matched, fun position before triedToo => ?_⟩
      rcases triedToo.cases with rfl | ⟨-, later⟩
      · exact fails
      · exact least position before later

/-- Where the first position is the only one tried, nothing else can be found. -/
theorem leftmost_none_of_anchored {registers : Registers} {origin : Nat}
    (anchored : regexp.flags.anchored = true)
    (fails : ∀ stop, ¬ MatchesAt regexp subject registers origin stop) :
    Leftmost regexp subject registers origin none := by
  intro position tried
  rw [tried.anchored anchored]
  exact fails

theorem NoMatchAt.not_matchesAt {position : Nat} (none : NoMatchAt regexp subject position)
    {registers : Registers} (sized : registers.Sized regexp) (stop : Nat) :
    ¬ MatchesAt regexp subject registers position stop := by
  rintro ⟨after, succeeds⟩
  cases none ⟨registers, 0⟩ (some stop) after sized succeeds

/-- An attempt that fails has no match, with whatever registers it begins. -/
theorem not_matchesAt_of_attempt {position : Nat} {before after : Execution}
    (attempted : ((trial regexp subject).attempt position).run.run before = (.ok none, after))
    {registers : Registers} (alike : registers.Alike before.registers) (stop : Nat) :
    ¬ MatchesAt regexp subject registers position stop := by
  rintro ⟨last, succeeds⟩
  obtain ⟨taken, -, again⟩ := attempt_fewer attempted alike (Nat.zero_le _)
  rw [again] at succeeds
  cases succeeds

/-- A search finds the leftmost match.  Its attempts come to the same end as single ones, for these
have more steps left, and there is no match at the positions that hints leave out. -/
theorem Scans.leftmost {usesHints : Bool} {room position : Nat} {before after : Execution}
    {found : Option Span}
    (scans : Scans regexp subject usesHints room position before (.ok (.ok found)) after)
    (hold : HintsHold regexp subject) (reaches : position + room = subject.size + 1)
    {registers : Registers} (sized : registers.Sized regexp)
    (alike : registers.Alike before.registers) :
    Leftmost regexp subject registers position found := by
  generalize ended : (Except.ok (Except.ok found) :
    Except MatchError (Except Overflow (Option Span))) = result at scans
  induction scans with
  | done =>
      cases ended
      intro later tried
      have := tried.origin_le
      have := tried.le_size
      omega
  | overflows | exceeds => cases ended
  | never _ said =>
      cases ended
      intro later tried
      exact (hold.never _ said later tried.le_size tried.origin_le).not_matchesAt sized
  | refusedOnly _ said anchored =>
      cases ended
      have none := hold.refused _ (by omega) _ said (by decide)
      exact leftmost_none_of_anchored anchored (none.not_matchesAt sized)
  | refused _ said unanchored _ ih =>
      have none := hold.refused _ (by omega) _ said (by decide)
      exact .succ unanchored (none.not_matchesAt sized) (ih (by omega) alike ended)
  | failsOnly _ attempted anchored =>
      cases ended
      exact leftmost_none_of_anchored anchored (not_matchesAt_of_attempt attempted alike)
  | fails _ attempted unanchored _ ih =>
      have kept := Trial.attempt_alike _ attempted
      exact .succ unanchored (not_matchesAt_of_attempt attempted alike)
        (ih (by omega) (alike.trans kept.symm) ended)
  | @finds room position stop before after _ attempted =>
      cases ended
      have inside : position ≤ subject.size := by omega
      obtain ⟨taken, -, again⟩ := attempt_fewer attempted alike (Nat.zero_le _)
      refine ⟨⟨Nat.le_refl _, inside, fun _ => rfl⟩, ⟨_, again⟩, fun earlier before tried => ?_⟩
      exact absurd tried.origin_le (Nat.not_le_of_gt before)

/-- What is known of a search that succeeds, of the match it finds, and of the state it leaves. -/
structure Finds (regexp : Regexp) (subject : Subject) (state : MatchState) (span : Span)
    (after : MatchState) : Prop where
  returns : find regexp subject state = .ok (.ok true, after)
  span_eq : after.span? 0 = some span
  start_le_stop : span.start ≤ span.stop
  stop_le_size : span.stop ≤ subject.size
  leftmost : Leftmost regexp subject state.registers state.origin (some span)
  origin_eq : after.origin = if span.stop = span.start then span.stop + 1 else span.stop

variable {state : MatchState}

/-- A search overflows; or it exceeds a limit, and the next one begins where it began; or it finds
no match, and the next one begins behind the subject; or it finds one. -/
theorem find_cases {parsed : ParsedPattern} (compiled : regexp.CompiledFrom parsed)
    (hold : HintsHold regexp subject) (sized : state.registers.Sized regexp) :
    (∃ overflow, find regexp subject state = .error overflow) ∨
    (∃ error after, find regexp subject state = .ok (.error error, after) ∧
      after.origin = state.origin) ∨
    (∃ after, find regexp subject state = .ok (.ok false, after) ∧
      after.origin = subject.size + 1 ∧
      Leftmost regexp subject state.registers state.origin none) ∨
    ∃ span after, Finds regexp subject state span after := by
  rcases returns : find regexp subject state with overflow | ⟨result, after⟩
  · exact .inl ⟨overflow, rfl⟩
  have leftmost {found : Option Span} {last : Execution}
      (runs : (scan regexp subject state.usesHints (subject.size + 1 - state.origin)
        state.origin).run.run ⟨state.registers, 0⟩ = (.ok (.ok found), last)) :
      Leftmost regexp subject state.registers state.origin found := by
    rcases Nat.lt_or_ge (subject.size + 1) state.origin with beyond | within
    · have roomless : subject.size + 1 - state.origin = 0 := by omega
      rw [roomless] at runs
      cases runs
      intro position tried
      have := tried.origin_le
      have := tried.le_size
      omega
    · exact (scans_of_run runs).leftmost hold (by omega) sized (.refl _)
  cases findReturns_of_find returns with
  | exceeds runs => exact .inr (.inl ⟨_, _, rfl, rfl⟩)
  | nothing runs => exact .inr (.inr (.inl ⟨_, rfl, rfl, leftmost runs⟩))
  | @finds span last runs =>
      obtain ⟨tried, ⟨single, succeeds⟩, -⟩ := leftmost runs
      obtain ⟨ordered, within⟩ := Trial.attempt_bounds compiled rfl tried.le_size sized succeeds
      have scanned : last.registers.Sized regexp := sized.of_alike (scans_of_run runs).alike
      have zeroth : 0 < last.registers.captures.size := by
        rw [scanned.captures_size]
        exact Nat.succ_pos _
      refine .inr (.inr (.inr ⟨span, _, returns, ?_, ordered, within, leftmost runs, rfl⟩))
      simp only [accept, span?, Registers.capture?, Registers.setCapture]
      simp [zeroth, ordered]

/-! ## Searches one after another -/

/-- The states with which successive searches begin, and the position where the first one does: a
state that is new or was reset, or that of a search from a position within the subject. -/
inductive Starts (regexp : Regexp) (subject : Subject) : Nat → MatchState → Prop where
  | initial : Starts regexp subject 0 (.initial regexp)
  | reset {state : MatchState} (reachable : Reachable regexp subject state) :
      Starts regexp subject 0 state.reset
  | useHints {first : Nat} {state : MatchState} (yes : Bool)
      (starts : Starts regexp subject first state) :
      Starts regexp subject first { state with usesHints := yes }
  | findFrom {first : Nat} {state : MatchState} (reachable : Reachable regexp subject state)
      (inside : first ≤ subject.size) :
      Starts regexp subject first (state.startingAt first)

theorem Starts.sized {first : Nat} (starts : Starts regexp subject first state) :
    state.registers.Sized regexp := by
  induction starts with
  | initial => exact Registers.initial_sized regexp
  | reset reachable => exact reachable.reset.sized
  | useHints _ _ ih => exact ih
  | findFrom reachable _ =>
      exact ⟨reachable.sized.captures_size, reachable.sized.opened_size,
        reachable.sized.loops_size⟩

theorem Starts.origin_eq {first : Nat} (starts : Starts regexp subject first state) :
    state.origin = first := by
  induction starts with
  | initial => rfl
  | reset _ => rfl
  | useHints _ _ ih => exact ih
  | findFrom _ _ => rfl

theorem Starts.first_le {first : Nat} (starts : Starts regexp subject first state) :
    first ≤ subject.size := by
  induction starts with
  | initial => exact Nat.zero_le _
  | reset _ => exact Nat.zero_le _
  | useHints _ _ ih => exact ih
  | findFrom _ inside => exact inside

/-- The state after a number of searches for the next match, none of which overflows. -/
def afterSearches (regexp : Regexp) (subject : Subject) (state : MatchState) :
    Nat → Except Overflow MatchState
  | 0 => .ok state
  | count + 1 => do
      let before ← afterSearches regexp subject state count
      (find regexp subject before).map Prod.snd

/-- The answer of the search that follows a number of others. -/
def answer (regexp : Regexp) (subject : Subject) (state : MatchState) (search : Nat) :
    Except Overflow (Except MatchError Bool) := do
  let before ← afterSearches regexp subject state search
  (find regexp subject before).map Prod.fst

/-- The searches from a state on are in order, where the first one begins at a given position.

* `found`: each match that is found lies within the subject, and is the leftmost one.
* `ordered`: a match begins where an earlier one ends or later, and later if that one is empty.
* `bounded`: there are no more matches than positions.
* `exhausted`: where nothing is found there is nothing left, and nothing is found later. -/
structure InOrder (regexp : Regexp) (subject : Subject) (first : Nat) (state : MatchState) :
    Prop where
  found : ∀ search, answer regexp subject state search = .ok (.ok true) →
    ∃ before span after, afterSearches regexp subject state search = .ok before ∧
      afterSearches regexp subject state (search + 1) = .ok after ∧
      Finds regexp subject before span after
  ordered : ∀ earlier later, earlier < later → ∀ before span after beforeNext next afterNext,
    afterSearches regexp subject state earlier = .ok before →
    Finds regexp subject before span after →
    afterSearches regexp subject state later = .ok beforeNext →
    Finds regexp subject beforeNext next afterNext →
      span.stop ≤ next.start ∧ (span.start = span.stop → span.stop < next.start)
  bounded : ∀ count,
    (List.range count).countP (fun search => answer regexp subject state search = .ok (.ok true)) ≤
      subject.size - first + 1
  exhausted : ∀ search, answer regexp subject state search = .ok (.ok false) →
    (∃ before, afterSearches regexp subject state search = .ok before ∧
      Leftmost regexp subject before.registers before.origin none) ∧
    ∀ later, search ≤ later → answer regexp subject state later = .ok (.ok false)

section Searches

variable {before after : MatchState} {search : Nat}

theorem answer_of_afterSearches (reaches : afterSearches regexp subject state search = .ok before) :
    answer regexp subject state search = (find regexp subject before).map Prod.fst := by
  rw [answer, reaches]
  rfl

theorem afterSearches_succ (reaches : afterSearches regexp subject state search = .ok before) :
    afterSearches regexp subject state (search + 1) =
      (find regexp subject before).map Prod.snd := by
  rw [afterSearches, reaches]
  rfl

/-- A search that returns follows others that did. -/
theorem exists_of_answer {result : Except MatchError Bool}
    (answered : answer regexp subject state search = .ok result) :
    ∃ before after, afterSearches regexp subject state search = .ok before ∧
      find regexp subject before = .ok (result, after) ∧
      afterSearches regexp subject state (search + 1) = .ok after := by
  rcases reaches : afterSearches regexp subject state search with overflow | before
  · rw [answer, reaches] at answered
    cases answered
  · rw [answer_of_afterSearches reaches] at answered
    rcases returns : find regexp subject before with overflow | ⟨given, after⟩ <;>
      rw [returns] at answered <;> cases answered
    refine ⟨before, after, rfl, returns, ?_⟩
    rw [afterSearches_succ reaches, returns]
    rfl

theorem exists_of_afterSearches_succ
    (reaches : afterSearches regexp subject state (search + 1) = .ok after) :
    ∃ before result, afterSearches regexp subject state search = .ok before ∧
      find regexp subject before = .ok (result, after) := by
  rcases earlier : afterSearches regexp subject state search with overflow | before
  · rw [afterSearches, earlier] at reaches
    cases reaches
  · rw [afterSearches_succ earlier] at reaches
    rcases returns : find regexp subject before with overflow | ⟨result, last⟩ <;>
      rw [returns] at reaches <;> cases reaches
    exact ⟨before, result, rfl, returns⟩

theorem afterSearches_sized (sized : state.registers.Sized regexp)
    (reaches : afterSearches regexp subject state search = .ok before) :
    before.registers.Sized regexp := by
  induction search generalizing before with
  | zero =>
      cases reaches
      exact sized
  | succ search ih =>
      obtain ⟨earlier, result, reached, returns⟩ := exists_of_afterSearches_succ reaches
      exact find_sized (ih reached) returns

theorem find_of_origin_beyond (regexp : Regexp) (beyond : subject.size < state.origin) :
    ∃ after, find regexp subject state = .ok (.ok false, after) ∧ subject.size < after.origin := by
  have roomless : subject.size + 1 - state.origin = 0 := by omega
  rw [find, roomless]
  exact ⟨_, rfl, Nat.lt_succ_self _⟩

/-- Behind a search that begins behind the subject there are only others of this kind. -/
theorem afterSearches_beyond (reaches : afterSearches regexp subject state search = .ok before)
    (beyond : subject.size < before.origin) {later : Nat} (behind : search ≤ later) :
    ∃ last, afterSearches regexp subject state later = .ok last ∧ subject.size < last.origin := by
  induction behind with
  | refl => exact ⟨before, reaches, beyond⟩
  | step _ ih =>
      obtain ⟨last, reached, stays⟩ := ih
      obtain ⟨after, returns, moved⟩ := find_of_origin_beyond regexp stays
      refine ⟨after, ?_, moved⟩
      rw [afterSearches_succ reached, returns]
      rfl

end Searches

section Origins

variable {parsed : ParsedPattern} (compiled : regexp.CompiledFrom parsed)
  (hold : HintsHold regexp subject)
include compiled hold

/-- A search begins the next one no earlier than itself, and later if it finds a match. -/
theorem find_origin (sized : state.registers.Sized regexp)
    (within : state.origin ≤ subject.size + 1) {result : Except MatchError Bool}
    {after : MatchState} (returns : find regexp subject state = .ok (result, after)) :
    state.origin + (if result = .ok true then 1 else 0) ≤ after.origin ∧
      after.origin ≤ subject.size + 1 := by
  rcases find_cases compiled hold sized with
    ⟨overflow, fails⟩ | ⟨error, after, fails, kept⟩ | ⟨after, none, ended, -⟩ | ⟨span, after, finds⟩
  · cases fails.symm.trans returns
  · cases fails.symm.trans returns
    simp [kept, within]
  · cases none.symm.trans returns
    simp [ended, within]
  · cases finds.returns.symm.trans returns
    have ordered := finds.start_le_stop
    have inside := finds.stop_le_size
    have reached := finds.leftmost.1.origin_le
    rw [finds.origin_eq, if_pos rfl]
    split <;> omega

variable (sized : state.registers.Sized regexp) (within : state.origin ≤ subject.size + 1)
include sized within

/-- Each match that was found has moved the origin. -/
theorem afterSearches_origin {count : Nat} {last : MatchState}
    (reaches : afterSearches regexp subject state count = .ok last) :
    state.origin + (List.range count).countP
        (fun search => answer regexp subject state search = .ok (.ok true)) ≤ last.origin ∧
      last.origin ≤ subject.size + 1 := by
  induction count generalizing last with
  | zero =>
      cases reaches
      exact ⟨Nat.le_refl _, within⟩
  | succ count ih =>
      obtain ⟨before, result, reached, returns⟩ := exists_of_afterSearches_succ reaches
      obtain ⟨grown, ended⟩ := ih reached
      obtain ⟨moved, inside⟩ :=
        find_origin compiled hold (afterSearches_sized sized reached) ended returns
      refine ⟨?_, inside⟩
      have answered : answer regexp subject state count = .ok result := by
        rw [answer_of_afterSearches reached, returns]
        rfl
      rw [List.range_succ, List.countP_append, List.countP_singleton, answered]
      simp only [Except.ok.injEq, decide_eq_true_eq]
      omega

/-- There are no more matches than positions, even if a search overflows at last. -/
theorem countP_answers_le (count : Nat) :
    state.origin + (List.range count).countP
      (fun search => answer regexp subject state search = .ok (.ok true)) ≤ subject.size + 1 := by
  induction count with
  | zero => exact within
  | succ count ih =>
      by_cases finds : answer regexp subject state count = .ok (.ok true)
      · obtain ⟨before, after, -, -, reached⟩ := exists_of_answer finds
        obtain ⟨counted, inside⟩ := afterSearches_origin compiled hold sized within reached
        exact Nat.le_trans counted inside
      · rw [List.range_succ, List.countP_append, List.countP_singleton]
        simpa [finds] using ih

theorem afterSearches_origin_mono {earlier later : Nat} (order : earlier ≤ later)
    {before last : MatchState} (reaches : afterSearches regexp subject state earlier = .ok before)
    (reachesToo : afterSearches regexp subject state later = .ok last) :
    before.origin ≤ last.origin := by
  induction order generalizing last with
  | refl =>
      cases reaches.symm.trans reachesToo
      exact Nat.le_refl _
  | step _ ih =>
      obtain ⟨middle, result, reached, returns⟩ := exists_of_afterSearches_succ reachesToo
      have counted := afterSearches_origin compiled hold sized within reached
      have grown :=
        (find_origin compiled hold (afterSearches_sized sized reached) counted.2 returns).1
      exact Nat.le_trans (ih reached) (Nat.le_trans (Nat.le_add_right _ _) grown)

end Origins

/-- Successive searches for a compiled pattern are in order, whatever the limits are.  The origin of
the searches carries this: it moves to the end of a match or behind it, and never back. -/
theorem successive_inOrder {text : List Char} {flags : Flags} {regexp : Regexp}
    (compiles : Regexp.compile text flags = .ok regexp) (subject : Subject) (limits : Limits)
    {first : Nat} {state : MatchState}
    (starts : Starts { regexp with limits := limits } subject first state) :
    InOrder { regexp with limits := limits } subject first state := by
  obtain ⟨parsed, -, unlimited⟩ := Regexp.exists_compiledFrom compiles
  have compiled := unlimited.limited limits
  have hold := hintsHold compiles limits subject
  have sized := starts.sized
  have within : state.origin ≤ subject.size + 1 := by
    rw [starts.origin_eq]
    exact Nat.le_succ_of_le starts.first_le
  constructor
  · intro search succeeds
    obtain ⟨before, after, reached, returns, leaves⟩ := exists_of_answer succeeds
    rcases find_cases compiled hold (afterSearches_sized sized reached) with
      ⟨overflow, fails⟩ | ⟨error, last, fails, -⟩ | ⟨last, none, -⟩ | ⟨span, last, finds⟩
    · cases fails.symm.trans returns
    · cases fails.symm.trans returns
    · cases none.symm.trans returns
    · cases finds.returns.symm.trans returns
      exact ⟨before, span, after, reached, leaves, finds⟩
  · intro earlier later order before span after beforeNext next afterNext reached finds
      reachedNext findsNext
    have leaves : afterSearches { regexp with limits := limits } subject state (earlier + 1) =
        .ok after := by
      rw [afterSearches_succ reached, finds.returns]
      rfl
    have moved := afterSearches_origin_mono compiled hold sized within order leaves reachedNext
    have reached := findsNext.leftmost.1.origin_le
    rw [finds.origin_eq] at moved
    split at moved <;> omega
  · intro count
    have counted := countP_answers_le compiled hold sized within count
    have inside := starts.first_le
    rw [starts.origin_eq] at counted
    omega
  · intro search fails
    obtain ⟨before, after, reached, returns, leaves⟩ := exists_of_answer fails
    rcases find_cases compiled hold (afterSearches_sized sized reached) with
      ⟨overflow, failsToo⟩ | ⟨error, last, failsToo, -⟩ | ⟨last, none, ended, leftmost⟩ |
        ⟨span, last, finds⟩
    · cases failsToo.symm.trans returns
    · cases failsToo.symm.trans returns
    · cases none.symm.trans returns
      refine ⟨⟨before, reached, leftmost⟩, fun later behind => ?_⟩
      rcases Nat.eq_or_lt_of_le behind with rfl | order
      · exact fails
      · obtain ⟨last, reachedLater, beyond⟩ :=
          afterSearches_beyond leaves (by omega) order
        obtain ⟨afterLast, nothing, -⟩ :=
          find_of_origin_beyond { regexp with limits := limits } beyond
        rw [answer_of_afterSearches reachedLater, nothing]
        rfl
    · cases finds.returns.symm.trans returns

/-- The fifth search for `x*` in `axb` finds nothing, after four that found a match, and so does
every later one. -/
theorem empty_matches_inOrder :
    ∃ regexp, Regexp.compile ['x', '*'] {} = .ok regexp ∧
      (List.range 5).map (answer { regexp with limits := {} } ⟨#['a', 'x', 'b']⟩
        (.initial regexp)) =
          [.ok (.ok true), .ok (.ok true), .ok (.ok true), .ok (.ok true), .ok (.ok false)] ∧
      ∀ later, 4 ≤ later →
        answer { regexp with limits := {} } ⟨#['a', 'x', 'b']⟩ (.initial regexp) later =
          .ok (.ok false) := by
  let answers (regexp : Regexp) :=
    answer { regexp with limits := {} } ⟨#['a', 'x', 'b']⟩ (.initial regexp)
  have finds : (Regexp.compile ['x', '*'] {}).toOption.any (fun regexp =>
      (List.range 5).map (answers regexp) ==
          [.ok (.ok true), .ok (.ok true), .ok (.ok true), .ok (.ok true), .ok (.ok false)] &&
        answers regexp 4 == .ok (.ok false)) = true := by
    decide +kernel
  obtain ⟨regexp, compiles, ends⟩ := exists_of_toOption_any finds
  obtain ⟨answered, last⟩ := Bool.and_eq_true_iff.mp ends
  have inOrder := successive_inOrder compiles ⟨#['a', 'x', 'b']⟩ {} .initial
  exact ⟨regexp, compiles, eq_of_beq answered, (inOrder.exhausted 4 (eq_of_beq last)).2⟩

end MatchState

end Backtracking
