import Backtracking.Proofs.FirstOutcome
import Backtracking.Proofs.Widths
import Mathlib.Algebra.Group.Nat.Defs

/-!
# What patterns mean without an order

A pattern without possessive parts, references and conditionals relates the positions where it may
begin to those where it may end, and this relation is put together from those of its parts: a
repetition is any number of times within its bounds, and nothing is said of times that are empty.
The outcomes of the pattern end just where the relation says, and so an attempt finds a match
whenever there is one.
-/

namespace Backtracking

namespace Pattern

/-- What a pattern is made of has a meaning that depends neither on an order nor on captures. -/
def hasRelation : Pattern → Bool
  | .repeated _ _ _ mode => mode != .possessive
  | .atomic _ | .backReference _ _ _ | .conditional _ _ _ _ => false
  | _ => true

mutual

/-- Where a pattern begins and ends. -/
def relation (scene : Scene) : Pattern → Passage
  | .empty => .here
  | .char matcher => .char scene.subject matcher
  | .assert assertion => .assertion scene assertion
  | .group _ body => relation scene body
  | .concat items => sequenceRelation scene items
  | .alternation branches => choiceRelation scene branches
  | .repeated body least most _ => (relation scene body).between least most
  | .lookAround .ahead negated body _ => (relation scene body).looking negated
  | .lookAround .behind negated (.alternation branches) _ =>
      (relationBehind scene branches).looking negated
  | .lookAround .behind negated body _ =>
      .looking negated fun start stop =>
        ∃ width, body.fixedWidth? = some width ∧ (relation scene body).behind width start stop
  | .atomic _ | .backReference _ _ _ | .conditional _ _ _ _ => .never

def sequenceRelation (scene : Scene) : List Pattern → Passage
  | [] => .here
  | item :: items => (relation scene item).andThen (sequenceRelation scene items)

def choiceRelation (scene : Scene) : List Pattern → Passage
  | [] => .never
  | branch :: branches => (relation scene branch).orElse (choiceRelation scene branches)

/-- Where one of some branches ends that begins its fixed width before. -/
def relationBehind (scene : Scene) : List Pattern → Passage
  | [] => .never
  | branch :: branches =>
      Passage.orElse
        (fun start stop =>
          ∃ width, branch.fixedWidth? = some width ∧
            (relation scene branch).behind width start stop)
        (relationBehind scene branches)

end

theorem relation_behind (scene : Scene) (negated : Bool) (body : Pattern) (offset : Nat) :
    (Pattern.lookAround .behind negated body offset).relation scene =
      (relationBehind scene body.branches).looking negated := by
  cases body
  case alternation branches => rfl
  all_goals simp only [relation, branches, relationBehind, Passage.orElse_never]

variable (parsed : ParsedPattern) (scene : Scene)

theorem sequenceOutcomes_exact {items : List Pattern}
    (agrees : ∀ item ∈ items,
      (item.outcomes parsed scene).Exact scene.subject (item.relation scene)) :
    (sequenceOutcomes parsed scene items).Exact scene.subject (sequenceRelation scene items) := by
  induction items with
  | nil => exact ⟨Matching.here_within, Matching.here_covers⟩
  | cons item items ih =>
      have begins := agrees item (by simp)
      have follows := ih fun other member => agrees other (by simp [member])
      have advances := outcomes_advances parsed scene item
      exact ⟨begins.within.andThen advances follows.within,
        begins.covers.andThen advances follows.covers⟩

theorem choiceOutcomes_exact {branches : List Pattern}
    (agrees : ∀ branch ∈ branches,
      (branch.outcomes parsed scene).Exact scene.subject (branch.relation scene)) :
    (choiceOutcomes parsed scene branches).Exact scene.subject (choiceRelation scene branches) := by
  induction branches with
  | nil => exact ⟨Matching.never_within _, Matching.never_covers⟩
  | cons branch branches ih =>
      have preferred := agrees branch (by simp)
      have others := ih fun other member => agrees other (by simp [member])
      exact ⟨preferred.within.orElse others.within, preferred.covers.orElse others.covers⟩

theorem outcomesBehind_exact {branches : List Pattern}
    (agrees : ∀ branch ∈ branches,
      (branch.outcomes parsed scene).Exact scene.subject (branch.relation scene))
    (ordered : ∀ branch ∈ branches, branch.Throughout Ordered)
    (fixed : ∀ branch ∈ branches, branch.fixedWidth? = some branch.width.least)
    (fits : scene.subject.size ≤ Width.greatestWord) :
    (outcomesBehind parsed scene branches).Exact scene.subject (relationBehind scene branches) := by
  induction branches with
  | nil => exact ⟨Matching.never_within _, Matching.never_covers⟩
  | cons branch branches ih =>
      have preferred := agrees branch (by simp)
      have others := ih (fun other member => agrees other (by simp [member]))
        (fun other member => ordered other (by simp [member]))
        (fun other member => fixed other (by simp [member]))
      have known := fixed branch (by simp)
      have equal : (fun start stop => ∃ width, branch.fixedWidth? = some width ∧
          (branch.relation scene).behind width start stop) =
            (branch.relation scene).behind branch.width.least := by
        funext start stop
        simp [known]
      have ends := outcomes_fixed scene parsed (ordered branch (by simp)) fits known
      rw [relationBehind, equal]
      exact ⟨(preferred.within.behind _).orElse others.within,
        (preferred.covers.behind ends).orElse others.covers⟩

/-- The outcomes of a pattern end just where its relation says. -/
theorem outcomes_exact {pattern : Pattern} (related : pattern.Throughout (·.hasRelation))
    (ordered : pattern.Throughout Ordered) (measured : pattern.Measured)
    (fits : scene.subject.size ≤ Width.greatestWord) :
    (pattern.outcomes parsed scene).Exact scene.subject (pattern.relation scene) := by
  induction pattern with
  | empty => exact ⟨Matching.here_within, Matching.here_covers⟩
  | char matcher => exact ⟨Matching.char_within matcher, Matching.char_covers matcher⟩
  | assert assertion =>
      exact ⟨Matching.assertion_within scene assertion, Matching.assertion_covers scene assertion⟩
  | group index body ih =>
      cases measured with
      | group measured =>
          have agrees := ih related.group ordered.group measured
          exact ⟨agrees.within.capturing index, agrees.covers.capturing index⟩
  | concat items ih =>
      cases measured with
      | concat measured =>
          exact sequenceOutcomes_exact parsed scene fun item member =>
            ih item member (related.item member) (ordered.item member) (measured item member)
  | alternation branches ih =>
      cases measured with
      | alternation measured =>
          exact choiceOutcomes_exact parsed scene fun branch member =>
            ih branch member (related.branch member) (ordered.branch member)
              (measured branch member)
  | repeated body least most mode ih =>
      have sorted : ∀ bound, most = some bound → least ≤ bound := ordered.self
      have gives : mode ≠ .possessive := by simpa [hasRelation] using related.self
      cases measured with
      | omitted =>
          obtain rfl : least = 0 := Nat.le_zero.mp (sorted 0 rfl)
          rw [outcomes, Matching.repeated_zero, relation, Passage.between_zero]
          exact ⟨Matching.here_within, Matching.here_covers⟩
      | repeated measured =>
          have agrees := ih related.repeated ordered.repeated measured
          have advances := outcomes_advances parsed scene body
          exact ⟨agrees.within.repeated advances sorted mode, agrees.covers.repeated advances gives⟩
  | lookAround direction negated body offset ih branchIH =>
      cases measured with
      | lookAhead measured =>
          exact (ih related.lookAround ordered.lookAround measured).looking negated
      | lookBehind measured fixed =>
          have agrees := outcomesBehind_exact parsed scene (fun branch member =>
              branchIH branch member (related.lookAround.ofBranches member)
                (ordered.lookAround.ofBranches member) (measured branch member))
            (fun branch member => ordered.lookAround.ofBranches member) fixed fits
          rw [outcomes_behind, relation_behind]
          exact agrees.looking negated
  | atomic body => simpa [hasRelation] using related.self
  | backReference target ignoresCase offset => simpa [hasRelation] using related.self
  | conditional target yes no offset => simpa [hasRelation] using related.self

end Pattern

namespace Trial

open Running

/-- An attempt for a pattern whose meaning needs no order, if it comes to an end, succeeds just
where the pattern has a match at all.  The positions of a subject are machine words; in a longer
subject the width of a lookbehind that does not fit a word would not be exact. -/
theorem attempt_succeeds_iff {text : List Char} {flags : Flags} {parsed : ParsedPattern}
    {regexp : Regexp} (parses : ParsedPattern.parse text flags = .ok parsed)
    (compiles : Regexp.compile text flags = .ok regexp)
    (related : parsed.pattern.Throughout (·.hasRelation)) {trial : Trial}
    (executes : trial.program = regexp.program) (addressable : trial.subject.size < 2 ^ 64)
    {position : Nat} (inside : position ≤ trial.subject.size) {before after : Execution}
    (sized : before.registers.Sized regexp) {answer : Option Nat}
    (ends : (trial.attempt position).run.run before = (.ok answer, after)) :
    answer.isSome = true ↔
      ∃ stop, parsed.pattern.relation (trial.scene before.registers) position stop := by
  have compiled := Regexp.compiledFrom parses compiles
  have fits : trial.subject.size ≤ Width.greatestWord := Nat.le_sub_one_of_lt addressable
  have agrees := Pattern.outcomes_exact parsed (trial.scene before.registers) related
    compiled.numbered.ordered compiled.measured fits
  have valid := Captured.valid_nothing trial.subject (parsed.groupCount + 1)
  have first := attempt_gives compiled executes inside sized ends
  constructor
  · intro succeeds
    obtain ⟨stop, rfl⟩ := Option.isSome_iff_exists.mp succeeds
    have member := List.mem_of_mem_head? first.symm
    exact ⟨stop, agrees.within position _ inside valid _ member⟩
  · rintro ⟨stop, related⟩
    obtain ⟨outcome, member, -⟩ := agrees.covers position _ inside valid stop related
    cases answer with
    | none => exact absurd (List.head?_eq_none_iff.mp first.symm) (List.ne_nil_of_mem member)
    | some found => rfl

/-- In `(?:a?){2,}b` a second iteration that takes nothing is forced, and the match is found. -/
theorem attempt_succeeds_forced :
    ∃ parsed regexp after stop,
      ParsedPattern.parse ['(', '?', ':', 'a', '?', ')', '{', '2', ',', '}', 'b'] {} =
        .ok parsed ∧
      Regexp.compile ['(', '?', ':', 'a', '?', ')', '{', '2', ',', '}', 'b'] {} = .ok regexp ∧
      ((MatchState.trial regexp ⟨#['a', 'b']⟩).attempt 0).run.run
        ⟨.initial regexp.groupCount regexp.program.loopSlots, 0⟩ = (.ok (some 2), after) ∧
      parsed.pattern.relation ⟨⟨#['a', 'b']⟩, 0, 0⟩ 0 stop := by
  let attempt (regexp : Regexp) := ((MatchState.trial regexp ⟨#['a', 'b']⟩).attempt 0).run.run
    ⟨.initial regexp.groupCount regexp.program.loopSlots, 0⟩
  have reads : (ParsedPattern.parse
      ['(', '?', ':', 'a', '?', ')', '{', '2', ',', '}', 'b'] {}).toOption.any
      (·.pattern.parts.all Pattern.hasRelation) = true := by
    decide +kernel
  have finds : (Regexp.compile
      ['(', '?', ':', 'a', '?', ')', '{', '2', ',', '}', 'b'] {}).toOption.any
      (fun regexp => (attempt regexp).1.toOption == some (some 2)) = true := by
    decide +kernel
  obtain ⟨parsed, parses, related⟩ := exists_of_toOption_any reads
  obtain ⟨regexp, compiles, ends⟩ := exists_of_toOption_any finds
  rcases runs : attempt regexp with ⟨_ | answer, after⟩ <;> rw [runs] at ends
  · cases ends
  · obtain rfl : answer = some 2 := by simpa [Except.toOption] using ends
    have addressable : (MatchState.trial regexp ⟨#['a', 'b']⟩).subject.size < 2 ^ 64 :=
      show 2 < 2 ^ 64 by decide
    obtain ⟨stop, related⟩ := (attempt_succeeds_iff parses compiles (List.all_eq_true.mp related)
      rfl addressable (Nat.zero_le _) (Registers.initial_sized regexp) runs).mp rfl
    exact ⟨parsed, regexp, after, stop, parses, compiles, runs, related⟩

end Trial

end Backtracking
