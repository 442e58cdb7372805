import Backtracking.Proofs.ProgramSizes
import Backtracking.Proofs.SuccessiveSearches
import Backtracking.Proofs.WatchedSearches
import Mathlib.Algebra.Group.Nat.Defs

/-!
# Sums of positions

A search adds lengths to positions: those of characters, of texts and of runs of characters, and the
least length of a match.  If the pattern and the subject are no longer than what the memory holds,
all of these sums are machine words but those of the last kind.  The least length of a match may be
the greatest word, so that the sum of it and the position where a search begins is none, and the
search overflows.  Nothing else can be wrong: where a search comes further than that, the least
length is one that the subject has room for.
-/

namespace Backtracking

open Width

/-! ## The sums that are formed -/

/-- The sums that are formed to tell whether an assertion holds at a position. -/
def Assertion.sums (subject : Subject) (position : Nat) : Assertion → List Nat
  | .endOfInputOrNewline => if position = subject.size then [] else [position + 1]
  | _ => []

/-- The sums of positions that are formed when a node is executed.  A text is looked at if it fits
into what is left of the subject, and a run of characters is no longer than that. -/
def Node.sums (subject : Subject) (registers : Registers) (position : Nat) : Node → List Nat
  | .char matcher _ => if subject.acceptsAt matcher position then [position + 1] else []
  | .literal text _ _ =>
      (position + text.length) ::
        if position + text.length ≤ subject.size then List.range' position text.length else []
  | .assert assertion _ => assertion.sums subject position
  | .backReference group _ _ =>
      match registers.capture? group with
      | none => []
      | some span =>
          let length := span.stop - span.start
          (position + length) ::
            if position + length ≤ subject.size then
              List.range' span.start length ++ List.range' position length
            else []
  | .charRepeat _ _ most _ _ => List.range' position (subject.roomFor most position + 1)
  | _ => []

/-- The sums that are formed when hints are asked at a position. -/
def Hints.sums (hints : Hints) (subject : Subject) (position : Nat) : List Nat :=
  (position + hints.minLength) ::
    if position + hints.minLength ≤ subject.size then
      (position + hints.leading.length) ::
        if position + hints.leading.length ≤ subject.size then
          List.range' position hints.leading.length
        else []
    else []

/-- The sums that are formed to say where the search after a match, or after none, begins. -/
def MatchState.nextSums (subject : Subject) : Option Span → List Nat
  | none => [subject.size + 1]
  | some found => if found.stop = found.start then [found.stop + 1] else []

/-! ## Searches whose sums are told -/

/-- What is done with a sum as soon as it is formed. -/
abbrev Teller := Nat → Running Unit

namespace Teller

/-- Nothing is done with machine words. -/
def LetsWords (teller : Teller) : Prop :=
  ∀ sum ≤ greatestWord, ∀ execution, (teller sum).run.run execution = (.ok (), execution)

/-- The search is given up with an error if a sum is no machine word. -/
def Refuses (teller : Teller) (error : MatchError) : Prop :=
  ∀ sum, greatestWord < sum → ∀ execution,
    (teller sum).run.run execution = (.error error, execution)

/-- All of some sums are told. -/
def all (teller : Teller) : List Nat → Running Unit
  | [] => return ()
  | sum :: sums => do
      teller sum
      teller.all sums

/-- Tells all sums that an attempt forms when it visits a node. -/
def watcher (teller : Teller) (trial : Trial) : Watcher := fun id position => do
  teller.all ((trial.program.node id).sums trial.subject (← Running.registers) position)

/-- Gives the search up if a sum is no machine word. -/
def strict : Teller := fun sum =>
  if sum ≤ greatestWord then return () else throw (.stepLimitExceeded 0)

theorem strict_letsWords : strict.LetsWords := by
  intro sum fits execution
  rw [strict, if_pos fits]
  rfl

theorem strict_refuses : strict.Refuses (.stepLimitExceeded 0) := by
  intro sum great execution
  rw [strict, if_neg (Nat.not_le_of_lt great)]
  rfl

theorem LetsWords.run_all {teller : Teller} (lets : teller.LetsWords) {sums : List Nat}
    (words : ∀ sum ∈ sums, sum ≤ greatestWord) (execution : Execution) :
    (teller.all sums).run.run execution = (.ok (), execution) := by
  induction sums with
  | nil => rfl
  | cons sum sums ih =>
      rw [all, Running.run_bind, lets sum (words sum (by simp))]
      exact ih fun other member => words other (by simp [member])

theorem Refuses.run_all {teller : Teller} {error : MatchError} (refuses : teller.Refuses error)
    {sum : Nat} (great : greatestWord < sum) (sums : List Nat) (execution : Execution) :
    (teller.all (sum :: sums)).run.run execution = (.error error, execution) := by
  rw [all, Running.run_bind, refuses sum great]

end Teller

namespace MatchState

open Running

/-- The first match from a position on, in a search whose sums are told. -/
def toldScan (teller : Teller) (regexp : Regexp) (subject : Subject) (usesHints : Bool) :
    (room position : Nat) → Running (Except Overflow (Option Span))
  | 0, _ => return .ok none
  | room + 1, position => do
      teller.all (if usesHints then regexp.hints.sums subject position else [])
      match if usesHints then regexp.hints.candidate subject position else .ok .yes with
      | .error overflow => return .error overflow
      | .ok .never => return .ok none
      | .ok .no =>
          if regexp.flags.anchored then return .ok none
          else do
            teller (position + 1)
            toldScan teller regexp subject usesHints room (position + 1)
      | .ok .yes =>
          match ← (trial regexp subject).watchedAttempt (teller.watcher (trial regexp subject))
              position with
          | some stop => return .ok (some ⟨position, stop⟩)
          | none =>
              if regexp.flags.anchored then return .ok none
              else do
                teller (position + 1)
                toldScan teller regexp subject usesHints room (position + 1)

def toldFind (teller : Teller) (regexp : Regexp) (subject : Subject) (state : MatchState) :
    Except Overflow (Except MatchError Bool × MatchState) :=
  let room := subject.size + 1 - state.origin
  let search : Running (Except Overflow (Option Span)) := do
    let scanned ← toldScan teller regexp subject state.usesHints room state.origin
    teller.all (scanned.toOption.elim [] (nextSums subject))
    return scanned
  concludeFind subject state (search.run.run ⟨state.registers, 0⟩)

def toldFindFrom (teller : Teller) (regexp : Regexp) (subject : Subject) (position : Nat)
    (state : MatchState) : Except Overflow (Except MatchError Bool × MatchState) :=
  toldFind teller regexp subject (state.startingAt position)

def toldExec (teller : Teller) (regexp : Regexp) (subject : Subject) (position : Nat)
    (state : MatchState) : Except MatchError (Option Nat) × MatchState :=
  let attempt : Running (Option Nat) := do
    let stop? ←
      (trial regexp subject).watchedAttempt (teller.watcher (trial regexp subject)) position
    teller.all (stop?.elim [] fun stop => nextSums subject (some ⟨position, stop⟩))
    return stop?
  if position > subject.size then
    (.ok none, { state with registers := state.registers.cleared })
  else
    concludeExec position state (attempt.run.run ⟨state.registers, 0⟩)

end MatchState

/-! ## Which sums are machine words -/

/-- A machine word has room for a position together with any length that occurs: that of a text of
the subject, and those of the texts of a program and of its hints. -/
structure Regexp.Roomy (regexp : Regexp) (subject : Subject) : Prop where
  positions : 2 * subject.size + 1 ≤ greatestWord
  letters : ∀ node ∈ regexp.program.nodes, subject.size + node.letters ≤ greatestWord
  leading : subject.size + regexp.hints.leading.length ≤ greatestWord

theorem Regexp.compile_roomy {text : List Char} {flags : Flags} {regexp : Regexp}
    (compiles : compile text flags = .ok regexp) {subject : Subject}
    (written : text.length < 2 ^ 63) (addressable : subject.size < 2 ^ 63) :
    regexp.Roomy subject := by
  obtain ⟨parsed, parses, compiled⟩ := exists_compiledFrom compiles
  have room : greatestWord + 1 = 2 ^ 64 := rfl
  refine ⟨by omega, fun node member => ?_, ?_⟩
  · have letters : node.letters ≤ text.length := by
      rcases (Program.ofPattern_spends parses compiled.made).letters_le node member with
        first | short
      · obtain rfl : node = .done := by simpa using first
        exact Nat.zero_le _
      · exact short
    omega
  · have leading := ParsedPattern.bounded_of_parseWithin Pattern.leading_bounds parses
    rw [compiled.hints_eq]
    have equal : parsed.pattern.hints.leading = parsed.pattern.leading.text := rfl
    rw [equal]
    omega

namespace Trial

variable {trial : Trial} {origin registers : Registers} {id : NodeId} {position : Nat}

/-- All sums of a visit are machine words, if there is room for the texts of the program. -/
theorem Visited.sums_le (visited : trial.Visited origin id position registers)
    (positions : 2 * trial.subject.size + 1 ≤ greatestWord)
    (letters : ∀ node ∈ trial.program.nodes, trial.subject.size + node.letters ≤ greatestWord) :
    ∀ sum ∈ (trial.program.node id).sums trial.subject registers position, sum ≤ greatestWord := by
  have inside := visited.le_size
  have within {start length : Nat} (le : start + length ≤ trial.subject.size + 1) :
      ∀ sum ∈ List.range' start length, sum ≤ greatestWord := by
    intro sum member
    have bounds := List.mem_range'_1.mp member
    omega
  have short : trial.subject.size + (trial.program.node id).letters ≤ greatestWord := by
    refine letters _ ?_
    have found := Array.getElem?_eq_getElem visited.lt_size
    rw [Program.node, Array.getD_eq_getD_getElem?, found]
    exact Array.getElem_mem visited.lt_size
  generalize trial.program.node id = node at short
  intro sum member
  cases node with
  | char matcher =>
      rw [Node.sums] at member
      split at member
      · obtain rfl := List.mem_singleton.mp member
        omega
      · cases member
  | literal text =>
      have fits : trial.subject.size + text.length ≤ greatestWord := short
      rw [Node.sums] at member
      rcases List.mem_cons.mp member with rfl | inText
      · omega
      split at inText
      · next le => exact within (Nat.le_succ_of_le le) sum inText
      · cases inText
  | assert assertion =>
      cases assertion with
      | endOfInputOrNewline =>
          rw [Node.sums, Assertion.sums] at member
          split at member
          · cases member
          · obtain rfl := List.mem_singleton.mp member
            omega
      | _ => cases member
  | backReference group =>
      rw [Node.sums] at member
      split at member
      · cases member
      next span found =>
      have bounds := visited.coherent.valid.span? (registers.capture?_eq group ▸ found)
      rcases List.mem_cons.mp member with rfl | inTexts
      · omega
      split at inTexts
      · next le =>
          rcases List.mem_append.mp inTexts with captured | text
          · exact within (by omega) sum captured
          · exact within (Nat.le_succ_of_le le) sum text
      · cases inTexts
  | charRepeat matcher least most =>
      have room := trial.subject.roomFor_le most position
      exact within (by omega) sum member
  | _ => cases member

end Trial

namespace MatchState

open Running

/-- All sums of the hints are machine words, if the first one is. -/
theorem hints_sums_le {regexp : Regexp} {subject : Subject} (roomy : regexp.Roomy subject)
    {position : Nat} (inside : position ≤ subject.size)
    (fits : position + regexp.hints.minLength ≤ greatestWord) :
    ∀ sum ∈ regexp.hints.sums subject position, sum ≤ greatestWord := by
  have leading := roomy.leading
  intro sum member
  rcases List.mem_cons.mp member with rfl | rest
  · exact fits
  split at rest
  · rcases List.mem_cons.mp rest with rfl | text
    · omega
    split at text
    · have bounds := List.mem_range'_1.mp text
      omega
    · cases text
  · cases rest

section Told

variable {regexp : Regexp} {subject : Subject} {parsed : ParsedPattern} {teller : Teller}
  {state : MatchState} (compiled : regexp.CompiledFrom parsed) (roomy : regexp.Roomy subject)
  (lets : teller.LetsWords)
include compiled roomy lets

/-- An attempt whose sums are told comes to the same end as one where nobody listens. -/
theorem toldAttempt_level {position : Nat} (inside : position ≤ subject.size)
    {told plain : Execution} (level : told.Level plain) (sized : plain.registers.Sized regexp) :
    ∃ result toldAfter after,
      ((trial regexp subject).watchedAttempt (teller.watcher (trial regexp subject))
        position).run.run told = (result, toldAfter) ∧
      ((trial regexp subject).attempt position).run.run plain = (result, after) ∧
      toldAfter.Level after := by
  refine attempt_level compiled inside level sized fun id position execution visited => ?_
  exact lets.run_all (visited.sums_le roomy.positions roomy.letters) execution

/-- A scan whose sums are told comes to the same end as one where nobody listens, and what it finds
lies within the subject. -/
theorem toldScan_level {usesHints : Bool} {room position : Nat}
    (reaches : room = 0 ∨ position + room ≤ subject.size + 1)
    (fits : usesHints = true → room ≠ 0 → position + regexp.hints.minLength ≤ greatestWord)
    {told plain : Execution} (level : told.Level plain) (sized : plain.registers.Sized regexp) :
    ∃ result toldAfter after,
      (toldScan teller regexp subject usesHints room position).run.run told =
        (result, toldAfter) ∧
      (scan regexp subject usesHints room position).run.run plain = (result, after) ∧
      toldAfter.Level after ∧
      ∀ found, result = .ok (.ok (some found)) → found.stop ≤ subject.size := by
  induction room generalizing position told plain with
  | zero => exact ⟨_, _, _, rfl, rfl, level, fun _ impossible => by cases impossible⟩
  | succ room ih =>
      have positions := roomy.positions
      have inside : position ≤ subject.size := by omega
      have asked (execution : Execution) :
          (teller.all (if usesHints then regexp.hints.sums subject position else [])).run.run
            execution = (.ok (), execution) := by
        refine lets.run_all ?_ execution
        split
        · next hinted => exact hints_sums_le roomy inside (fits hinted (Nat.succ_ne_zero room))
        · simp
      have further (execution : Execution) :
          (teller (position + 1)).run.run execution = (.ok (), execution) :=
        lets (position + 1) (by omega) execution
      have next {candidate : Candidate} (goesOn : candidate ≠ .never)
          (said : (if usesHints then regexp.hints.candidate subject position else .ok .yes) =
            .ok candidate) {told plain : Execution} (level : told.Level plain)
          (sized : plain.registers.Sized regexp) :=
        have remains (hinted : usesHints = true) (_ : room ≠ 0) :
            position + 1 + regexp.hints.minLength ≤ greatestWord := by
          rw [if_pos hinted] at said
          have remains := minLength_le_of_candidate said goesOn
          omega
        ih (by omega) remains level sized
      rw [toldScan, run_bind, asked, run_scan_succ]
      generalize (if usesHints then regexp.hints.candidate subject position else .ok .yes) =
        candidate at next ⊢
      rcases candidate with overflow | _ | _ | _ <;> dsimp only
      · exact ⟨_, _, _, rfl, rfl, level, fun _ impossible => by cases impossible⟩
      · obtain ⟨result, toldAfter, after, tells, runs, level⟩ :=
          toldAttempt_level compiled roomy lets inside level sized
        rw [run_bind, tells, runs]
        have attempted := sized.of_alike (Trial.attempt_alike _ runs)
        rcases result with error | _ | stop <;> dsimp only
        · exact ⟨_, _, _, rfl, rfl, level, fun _ impossible => by cases impossible⟩
        · split
          · exact ⟨_, _, _, rfl, rfl, level, fun _ impossible => by cases impossible⟩
          · rw [run_bind, further]
            exact next (by decide) rfl level attempted
        · have bounds := Trial.attempt_bounds compiled rfl inside sized runs
          refine ⟨_, _, _, rfl, rfl, level, ?_⟩
          rintro found ⟨⟩
          exact bounds.2
      · split
        · exact ⟨_, _, _, rfl, rfl, level, fun _ impossible => by cases impossible⟩
        · rw [run_bind, further]
          exact next (by decide) rfl level sized
      · exact ⟨_, _, _, rfl, rfl, level, fun _ impossible => by cases impossible⟩

omit compiled lets in
theorem nextSums_le {found? : Option Span}
    (inside : ∀ found, found? = some found → found.stop ≤ subject.size) :
    ∀ sum ∈ nextSums subject found?, sum ≤ greatestWord := by
  have positions := roomy.positions
  intro sum member
  cases found? with
  | none =>
      obtain rfl := List.mem_singleton.mp member
      omega
  | some found =>
      have within := inside found rfl
      rw [nextSums] at member
      split at member
      · obtain rfl := List.mem_singleton.mp member
        omega
      · cases member

/-- A search whose sums are told gives what a search gives, if its first sum is a machine word. -/
theorem toldFind_concur (sized : state.registers.Sized regexp)
    (fits : ¬ Overflows regexp subject state.usesHints state.origin) :
    Concur (toldFind teller regexp subject state) (find regexp subject state) := by
  have first (hinted : state.usesHints = true) (room : subject.size + 1 - state.origin ≠ 0) :
      state.origin + regexp.hints.minLength ≤ greatestWord :=
    Nat.le_of_not_lt fun great => fits ⟨hinted, by omega, great⟩
  obtain ⟨result, toldAfter, after, tells, runs, level, inside⟩ :=
    toldScan_level compiled roomy lets (room_reaches subject state.origin) first
      (.refl ⟨state.registers, 0⟩) sized
  rw [toldFind, find_eq_conclude, runs, run_bind, tells]
  rcases result with error | overflow | found?
  · exact concludeFind_concur level (.error error)
  · exact .overflows overflow
  · have words : ∀ sum ∈ nextSums subject found?, sum ≤ greatestWord :=
      nextSums_le roomy fun found equal => inside found (by rw [equal])
    have unheard : (teller.all (nextSums subject found?)).run.run toldAfter = (.ok (), toldAfter) :=
      lets.run_all words toldAfter
    dsimp only [Except.toOption, Option.elim_some]
    rw [run_bind, unheard]
    exact concludeFind_concur level (.ok (.ok found?))

theorem toldExec_agree (sized : state.registers.Sized regexp) (position : Nat) :
    Agree (toldExec teller regexp subject position state) (exec regexp subject position state) := by
  by_cases inside : position ≤ subject.size
  · obtain ⟨result, toldAfter, after, tells, runs, level⟩ :=
      toldAttempt_level compiled roomy lets inside (.refl ⟨state.registers, 0⟩) sized
    rw [toldExec, if_neg (Nat.not_lt_of_le inside), exec_eq_conclude inside, runs, run_bind, tells]
    rcases result with error | stop?
    · exact concludeExec_agree level position (.error error)
    · have words : ∀ sum ∈ stop?.elim [] fun stop => nextSums subject (some ⟨position, stop⟩),
          sum ≤ greatestWord := by
        cases stop? with
        | none => simp
        | some stop =>
            have bounds := Trial.attempt_bounds compiled rfl inside sized runs
            rw [Option.elim_some]
            refine nextSums_le roomy ?_
            rintro found ⟨⟩
            exact bounds.2
      dsimp only
      rw [run_bind, lets.run_all words]
      exact concludeExec_agree level position (.ok stop?)
  · rw [toldExec, exec, if_pos (Nat.lt_of_not_le inside), if_pos (Nat.lt_of_not_le inside)]
    exact .refl _

end Told

/-- Who gives up at a sum that is no machine word gives up a search that begins with one. -/
theorem toldFind_overflows {regexp : Regexp} {subject : Subject} {teller : Teller}
    {error : MatchError} (refuses : teller.Refuses error) {state : MatchState}
    (overflows : Overflows regexp subject state.usesHints state.origin) :
    ∃ after, toldFind teller regexp subject state = .ok (.error error, after) := by
  obtain ⟨hinted, inside, great⟩ := overflows
  obtain ⟨room, equal⟩ : ∃ room, subject.size + 1 - state.origin = room + 1 :=
    Nat.exists_eq_succ_of_ne_zero (by omega)
  rw [toldFind, equal, toldScan, hinted, if_pos rfl, run_bind, run_bind, Hints.sums,
    refuses.run_all great]
  exact ⟨_, rfl⟩

/-- All sums of positions in the searches for an accepted pattern are machine words, if the pattern
and the subject are shorter than half of what these count, apart from the first sum of a search.  A
search overflows exactly where that one is none, and then it tells this sum.  Whoever is told all
sums, and lets pass the machine words, makes no difference to an operation that does not overflow,
in whatever state and with whatever arguments and limits; who gives up at other sums gives up those
that overflow.  An attempt at one position does not ask the hints, so that it has no such sum. -/
theorem operations_withinWords {text : List Char} {flags : Flags} {regexp : Regexp}
    (compiles : Regexp.compile text flags = .ok regexp) (written : text.length < 2 ^ 63)
    {subject : Subject} (addressable : subject.size < 2 ^ 63) (limits : Limits)
    {state : MatchState} (reachable : Reachable { regexp with limits := limits } subject state) :
    regexp.hints.minLength ≤ greatestWord ∧
    (∀ overflow, find { regexp with limits := limits } subject state = .error overflow ↔
      Overflows regexp subject state.usesHints state.origin ∧
        overflow.sum = state.origin + regexp.hints.minLength) ∧
    (∀ position overflow,
      findFrom { regexp with limits := limits } subject position state = .error overflow ↔
        Overflows regexp subject state.usesHints position ∧
          overflow.sum = position + regexp.hints.minLength) ∧
    ∀ teller : Teller, teller.LetsWords →
      (¬ Overflows regexp subject state.usesHints state.origin →
        Concur (toldFind teller { regexp with limits := limits } subject state)
          (find { regexp with limits := limits } subject state)) ∧
      (∀ position,
        (¬ Overflows regexp subject state.usesHints position →
          Concur (toldFindFrom teller { regexp with limits := limits } subject position state)
            (findFrom { regexp with limits := limits } subject position state)) ∧
        Agree (toldExec teller { regexp with limits := limits } subject position state)
          (exec { regexp with limits := limits } subject position state)) ∧
      ∀ error, teller.Refuses error →
        (Overflows regexp subject state.usesHints state.origin → ∃ after,
          toldFind teller { regexp with limits := limits } subject state =
            .ok (.error error, after)) ∧
        ∀ position, Overflows regexp subject state.usesHints position → ∃ after,
          toldFindFrom teller { regexp with limits := limits } subject position state =
            .ok (.error error, after) := by
  obtain ⟨parsed, -, unlimited⟩ := Regexp.exists_compiledFrom compiles
  have compiled := unlimited.limited limits
  have roomy : { regexp with limits := limits }.Roomy subject :=
    { Regexp.compile_roomy compiles written addressable with }
  have sized := reachable.sized
  have words : subject.size < greatestWord := Nat.lt_trans addressable (by decide)
  refine ⟨minLength_le_greatestWord unlimited, fun overflow => find_eq_error_iff words,
    fun position overflow => ?_, fun teller lets =>
      ⟨toldFind_concur compiled roomy lets sized, fun position =>
        ⟨fun fits => ?_, toldExec_agree compiled roomy lets sized position⟩, fun error refuses =>
          ⟨fun overflows => toldFind_overflows refuses overflows, fun position overflows => ?_⟩⟩⟩
  · have first : find { regexp with limits := limits } subject (state.startingAt position) =
        .error overflow ↔ _ := find_eq_error_iff words
    exact first
  · exact toldFind_concur compiled roomy lets (startingAt_sized sized position) fits
  · have begins : Overflows regexp subject (state.startingAt position).usesHints
        (state.startingAt position).origin := overflows
    exact toldFind_overflows refuses begins

/-- A character that is repeated as often as a quantifier allows, and this as often again, so many
times. -/
def nestedRepetition : Nat → List Char
  | 0 => ['a']
  | depth + 1 =>
      ['(', '?', ':'] ++ nestedRepetition depth ++ [')', '{', '6', '5', '5', '3', '5', '}']

/-- A search for five nested repetitions passes over all of `aa`, but from the second character on
it begins with a sum that is no machine word. -/
theorem nested_repetition_withinWords :
    ∃ regexp after last, Regexp.compile (nestedRepetition 5) {} = .ok regexp ∧
      toldFind .strict { regexp with limits := {} } ⟨#['a', 'a']⟩ (.initial regexp) =
        .ok (.ok false, after) ∧
      toldFindFrom .strict { regexp with limits := {} } ⟨#['a', 'a']⟩ 1 (.initial regexp) =
        .ok (.error (.stepLimitExceeded 0), last) := by
  have finds : (Regexp.compile (nestedRepetition 5) {}).toOption.any (fun regexp =>
      (find { regexp with limits := {} } ⟨#['a', 'a']⟩ (.initial regexp)).toOption.any
          (·.1 == .ok false) &&
        decide (greatestWord < 1 + regexp.hints.minLength)) = true := by
    decide +kernel
  obtain ⟨regexp, compiles, ends⟩ := exists_of_toOption_any finds
  obtain ⟨nothing, great⟩ := Bool.and_eq_true_iff.mp ends
  obtain ⟨⟨answer, plain⟩, found, answered⟩ := exists_of_toOption_any nothing
  obtain rfl : answer = .ok false := eq_of_beq answered
  obtain ⟨least, -, -, told⟩ := operations_withinWords compiles (by decide)
    (by decide : (⟨#['a', 'a']⟩ : Subject).size < 2 ^ 63) {} .initial
  obtain ⟨finds, -, overflows⟩ := told .strict Teller.strict_letsWords
  have fits : ¬ Overflows regexp ⟨#['a', 'a']⟩ true 0 := by
    rintro ⟨-, -, beyond⟩
    omega
  have inside : 1 ≤ (⟨#['a', 'a']⟩ : Subject).size := Nat.le_succ 1
  obtain ⟨after, passes⟩ := (finds fits).exists_eq_ok found
  obtain ⟨last, refused⟩ :=
    (overflows _ Teller.strict_refuses).2 1 ⟨rfl, inside, of_decide_eq_true great⟩
  exact ⟨regexp, after, last, compiles, passes, refused⟩

/-- A search for five nested repetitions from the second character of `aa` on overflows: the sum of
its position and the least length of a match is the first one that is no machine word.  No attempt
is made, so that it does not matter that the limit is one of no steps at all. -/
theorem nested_repetition_overflows :
    ∃ regexp overflow, Regexp.compile (nestedRepetition 5) {} = .ok regexp ∧
      (∃ sum ∈ regexp.hints.sums ⟨#['a', 'a']⟩ 1, greatestWord < sum) ∧
      findFrom { regexp with limits := { maxSteps := some 0 } } ⟨#['a', 'a']⟩ 1
        (.initial regexp) = .error overflow ∧
      overflow.sum = greatestWord + 1 := by
  have saturates : (Regexp.compile (nestedRepetition 5) {}).toOption.any (fun regexp =>
      regexp.hints.minLength == greatestWord) = true := by
    decide +kernel
  obtain ⟨regexp, compiles, least⟩ := exists_of_toOption_any saturates
  have least_eq : regexp.hints.minLength = greatestWord := eq_of_beq least
  have beyond : greatestWord < 1 + regexp.hints.minLength := by omega
  have inside : 1 ≤ (⟨#['a', 'a']⟩ : Subject).size := Nat.le_succ 1
  have overflows : Overflows { regexp with limits := { maxSteps := some 0 } } ⟨#['a', 'a']⟩
      ((MatchState.initial regexp).startingAt 1).usesHints
      ((MatchState.initial regexp).startingAt 1).origin := ⟨rfl, inside, beyond⟩
  refine ⟨regexp, _, compiles, ⟨_, List.mem_cons_self, beyond⟩, find_of_overflows overflows, ?_⟩
  show 1 + regexp.hints.minLength = greatestWord + 1
  omega

end MatchState

end Backtracking
