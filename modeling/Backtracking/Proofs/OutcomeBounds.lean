import Backtracking.Proofs.Outcomes
import Mathlib.Data.List.Basic

/-!
# Where outcomes end

An outcome ends between the position where it begins and the end of the subject, and so do the
groups that it captures.  As every iteration of a repetition but the forced ones and the last takes
something, the number of iterations is bounded, and a greater bound changes nothing.
-/

namespace Backtracking

namespace Subject

theorem lt_size_of_char? {subject : Subject} {position : Nat} {character : Char}
    (found : subject.char? position = some character) : position < subject.size :=
  (Array.getElem?_eq_some_iff.mp found).1

theorem acceptsAt_iff {subject : Subject} {matcher : CharMatcher} {position : Nat} :
    subject.acceptsAt matcher position = true ↔
      ∃ character, subject.char? position = some character ∧ matcher.accepts character = true := by
  simp [acceptsAt, Option.any_eq_true]

theorem lt_size_of_acceptsAt {subject : Subject} {matcher : CharMatcher} {position : Nat}
    (accepted : subject.acceptsAt matcher position = true) : position < subject.size := by
  obtain ⟨character, found, -⟩ := acceptsAt_iff.mp accepted
  exact lt_size_of_char? found

theorem add_length_le_of_textAt {subject : Subject} {ignoresCase : Bool} {text : List Char}
    {position : Nat} (inside : position ≤ subject.size)
    (stands : subject.textAt ignoresCase text position = true) :
    position + text.length ≤ subject.size := by
  induction text generalizing position with
  | nil => exact inside
  | cons expected rest ih =>
      simp only [textAt, Bool.and_eq_true, Option.any_eq_true] at stands
      obtain ⟨⟨character, found, -⟩, follows⟩ := stands
      have next := ih (lt_size_of_char? found) follows
      simp only [List.length_cons]
      omega

theorem length_slice {subject : Subject} {start stop : Nat} (inside : stop ≤ subject.size) :
    (subject.slice start stop).length = stop - start := by
  simp [slice, size] at inside ⊢
  omega

end Subject

/-- An outcome ends behind the position where it begins, within the subject, and so do all groups
that are captured by then. -/
structure Outcome.Extends (subject : Subject) (position : Nat) (captured : Captured)
    (outcome : Outcome) : Prop where
  le_stop : position ≤ outcome.stop
  stop_le : outcome.stop ≤ subject.size
  valid : outcome.captured.Valid subject
  size_eq : outcome.captured.spans.size = captured.spans.size

namespace Outcome

variable {subject : Subject} {position : Nat} {captured : Captured}

theorem Extends.rfl (inside : position ≤ subject.size) (valid : captured.Valid subject) :
    (⟨position, captured⟩ : Outcome).Extends subject position captured :=
  ⟨Nat.le_refl _, inside, valid, Eq.refl _⟩

theorem Extends.trans {first second : Outcome} (begins : first.Extends subject position captured)
    (follows : second.Extends subject first.stop first.captured) :
    second.Extends subject position captured :=
  ⟨Nat.le_trans begins.le_stop follows.le_stop, follows.stop_le, follows.valid,
    follows.size_eq.trans begins.size_eq⟩

end Outcome

namespace Matching

/-- All outcomes extend what they begin with. -/
def Advances (subject : Subject) (matching : Matching) : Prop :=
  ∀ position captured, position ≤ subject.size → captured.Valid subject →
    ∀ outcome ∈ matching position captured, outcome.Extends subject position captured

variable {subject : Subject} {first second body : Matching}

theorem here_advances : here.Advances subject := by
  intro position captured inside valid outcome member
  obtain rfl := List.mem_singleton.mp member
  exact .rfl inside valid

theorem never_advances : never.Advances subject := by
  intro position captured inside valid outcome member
  simp [never] at member

theorem char_advances (matcher : CharMatcher) : (char subject matcher).Advances subject := by
  intro position captured inside valid outcome member
  simp only [char] at member
  split at member
  · next accepted =>
      obtain rfl := List.mem_singleton.mp member
      have before := Subject.lt_size_of_acceptsAt accepted
      exact ⟨by simp, before, valid, rfl⟩
  · simp at member

theorem text_advances (ignoresCase : Bool) (expected : List Char) :
    (text subject ignoresCase expected).Advances subject := by
  intro position captured inside valid outcome member
  simp only [text] at member
  split at member
  · next stands =>
      obtain rfl := List.mem_singleton.mp member
      exact ⟨by simp, Subject.add_length_le_of_textAt inside stands, valid, rfl⟩
  · simp at member

theorem assertion_advances (scene : Scene) (condition : Assertion) :
    (assertion scene condition).Advances subject := by
  intro position captured inside valid outcome member
  simp only [assertion] at member
  split at member
  · obtain rfl := List.mem_singleton.mp member
    exact .rfl inside valid
  · simp at member

theorem backReference_advances (ignoresCase : Bool) (group : Nat) :
    (backReference subject ignoresCase group).Advances subject := by
  intro position captured inside valid outcome member
  simp only [backReference] at member
  split at member
  · simp at member
  · exact text_advances ignoresCase _ position captured inside valid outcome member

theorem Advances.andThen (begins : first.Advances subject) (follows : second.Advances subject) :
    (first.andThen second).Advances subject := by
  intro position captured inside valid outcome member
  obtain ⟨middle, reached, rest⟩ := List.mem_flatMap.mp member
  have extended := begins position captured inside valid middle reached
  exact extended.trans (follows _ _ extended.stop_le extended.valid outcome rest)

theorem Advances.orElse (preferred : first.Advances subject) (other : second.Advances subject) :
    (first.orElse second).Advances subject := by
  intro position captured inside valid outcome member
  rcases List.mem_append.mp member with chosen | chosen
  · exact preferred position captured inside valid outcome chosen
  · exact other position captured inside valid outcome chosen

theorem Advances.once (advances : body.Advances subject) : body.once.Advances subject := by
  intro position captured inside valid outcome member
  exact advances position captured inside valid outcome
    (List.mem_of_mem_head? (Option.mem_toList.mp member))

theorem Advances.capturing (advances : body.Advances subject) (group : Nat) :
    (body.capturing group).Advances subject := by
  intro position captured inside valid outcome member
  obtain ⟨inner, reached, rfl⟩ := List.mem_map.mp member
  have extended := advances position captured inside valid inner reached
  exact ⟨extended.le_stop, extended.stop_le, extended.valid.close extended.le_stop extended.stop_le,
    (Captured.size_close _ _ _).trans extended.size_eq⟩

theorem Advances.ifCaptured (yes : first.Advances subject) (no : second.Advances subject)
    (group : Nat) : (ifCaptured group first second).Advances subject := by
  intro position captured inside valid outcome member
  simp only [Matching.ifCaptured] at member
  split at member
  · exact yes position captured inside valid outcome member
  · exact no position captured inside valid outcome member

/-- The outcomes of a part that is tried before the position extend the captures there. -/
theorem behind_extends (advances : body.Advances subject) {width position : Nat}
    {captured : Captured} (inside : position ≤ subject.size) (valid : captured.Valid subject)
    {outcome : Outcome} (member : outcome ∈ behind width body position captured) :
    outcome.Extends subject position captured := by
  simp only [behind] at member
  split at member
  · obtain ⟨reached, ends⟩ := Option.filter_eq_some_iff.mp (Option.mem_toList.mp member)
    have extended := advances (position - width) captured (by omega) valid outcome
      (List.mem_of_mem_head? reached)
    have equal : outcome.stop = position := by simpa using ends
    exact ⟨Nat.le_of_eq equal.symm, extended.stop_le, extended.valid, extended.size_eq⟩
  · simp at member

theorem Advances.behind (advances : body.Advances subject) (width : Nat) :
    (Matching.behind width body).Advances subject :=
  fun _ _ inside valid _ member => behind_extends advances inside valid member

theorem Advances.looking (advances : body.Advances subject) (negated : Bool) :
    (Matching.looking negated body).Advances subject := by
  intro position captured inside valid outcome member
  simp only [Matching.looking] at member
  split at member
  · next found =>
      obtain rfl := List.mem_singleton.mp member
      have extended := advances position captured inside valid _ (List.mem_of_mem_head? found)
      exact ⟨Nat.le_refl _, inside, extended.valid, extended.size_eq⟩
  · obtain rfl := List.mem_singleton.mp member
    exact .rfl inside valid
  · simp at member

theorem Advances.iterations (advances : body.Advances subject) (greedy : Bool) (least : Nat)
    (most : Option Nat) (rounds count : Nat) (start : Option Nat) :
    (Matching.iterations body greedy least most rounds count start).Advances subject := by
  induction rounds generalizing count start with
  | zero => exact never_advances
  | succ rounds ih =>
      intro position captured inside valid outcome member
      rcases mem_iterations_succ.mp member with ⟨-, again⟩ | ⟨-, left⟩
      · exact advances.andThen (ih (count + 1) (some position)) position captured inside valid
          outcome again
      · exact here_advances position captured inside valid outcome left

theorem possessiveIterations_extends (advances : body.Advances subject) {least : Nat}
    {most : Option Nat} {rounds count position : Nat} {captured : Captured}
    (inside : position ≤ subject.size) (valid : captured.Valid subject) :
    (possessiveIterations body least most rounds count position captured).2.Extends subject
      position captured := by
  induction rounds generalizing count position captured with
  | zero => exact .rfl inside valid
  | succ rounds ih =>
      simp only [possessiveIterations]
      split
      · split
        · exact .rfl inside valid
        · next outcome found =>
            have extended := advances position captured inside valid outcome
              (List.mem_of_mem_head? found)
            split
            · exact extended
            · exact extended.trans (ih extended.stop_le extended.valid)
      · exact .rfl inside valid

/-! ## The number of iterations -/

/-- With every iteration there are fewer to come: a forced one counts, another one takes something,
or takes nothing for the first time. -/
theorem roundsLeft_lt {size least count position stop : Nat} {start : Option Nat}
    (continues : count < least ∨ start ≠ some position) (advances : position ≤ stop)
    (inside : stop ≤ size) :
    roundsLeft size least (count + 1) (some position) stop <
      roundsLeft size least count start position := by
  have flag : (if start = some position then 0 else 1) ≤ 1 := by split <;> omega
  simp only [roundsLeft, Option.some.injEq]
  rcases continues with forced | moved
  · split <;> omega
  · rw [if_neg moved]
    split <;> omega

theorem iterations_add (advances : body.Advances subject) (greedy : Bool) (least : Nat)
    (most : Option Nat) {rounds count position : Nat} {start : Option Nat} {captured : Captured}
    (inside : position ≤ subject.size) (valid : captured.Valid subject)
    (enough : roundsLeft subject.size least count start position < rounds) (extra : Nat) :
    iterations body greedy least most (rounds + extra) count start position captured =
      iterations body greedy least most rounds count start position captured := by
  induction rounds generalizing count start position captured with
  | zero => omega
  | succ rounds ih =>
      have again (continues : count < least ∨ start ≠ some position) :
          andThen body
              (iterations body greedy least most (rounds + extra) (count + 1) (some position))
              position captured =
            andThen body (iterations body greedy least most rounds (count + 1) (some position))
              position captured := by
        apply List.flatMap_congr
        intro outcome member
        have extended := advances position captured inside valid outcome member
        have fewer := roundsLeft_lt continues extended.le_stop extended.stop_le
        exact ih extended.stop_le extended.valid (by omega)
      rw [show rounds + 1 + extra = rounds + extra + 1 by omega]
      simp only [iterations, orElse]
      split
      · next forced => exact again (.inl forced)
      split
      · rfl
      · next offered =>
          have moved : start ≠ some position := by
            rintro rfl
            simp at offered
          rw [again (.inr moved)]

theorem Advances.repeated (advances : body.Advances subject) (size least : Nat)
    (most : Option Nat) (mode : RepeatMode) :
    (Matching.repeated body size least most mode).Advances subject := by
  intro position captured inside valid outcome member
  cases mode with
  | greedy =>
      exact advances.iterations true least most _ 0 none position captured inside valid outcome
        member
  | lazy =>
      exact advances.iterations false least most _ 0 none position captured inside valid outcome
        member
  | possessive =>
      simp only [Matching.repeated] at member
      split at member
      · simp at member
      · obtain rfl := List.mem_singleton.mp member
        exact possessiveIterations_extends advances inside valid

end Matching

namespace Pattern

variable (parsed : ParsedPattern) (scene : Scene)

theorem outcomesBehind_advances {branches : List Pattern}
    (advance : ∀ branch ∈ branches, (branch.outcomes parsed scene).Advances scene.subject) :
    (outcomesBehind parsed scene branches).Advances scene.subject := by
  induction branches with
  | nil => exact Matching.never_advances
  | cons branch branches ih =>
      exact ((advance branch (by simp)).behind _).orElse
        (ih fun other member => advance other (by simp [member]))

theorem outcomes_advances (pattern : Pattern) :
    (pattern.outcomes parsed scene).Advances scene.subject := by
  induction pattern with
  | empty => exact Matching.here_advances
  | char matcher => exact Matching.char_advances matcher
  | assert assertion => exact Matching.assertion_advances scene assertion
  | group index body ih => exact ih.capturing index
  | concat items ih =>
      show (sequenceOutcomes parsed scene items).Advances scene.subject
      induction items with
      | nil => exact Matching.here_advances
      | cons item items rest =>
          exact (ih item (by simp)).andThen (rest fun other member => ih other (by simp [member]))
  | alternation branches ih =>
      show (choiceOutcomes parsed scene branches).Advances scene.subject
      induction branches with
      | nil => exact Matching.never_advances
      | cons branch branches rest =>
          exact (ih branch (by simp)).orElse (rest fun other member => ih other (by simp [member]))
  | repeated body least most mode ih => exact ih.repeated _ least most mode
  | lookAround direction negated body offset ih branchIH =>
      cases direction with
      | ahead => exact ih.looking negated
      | behind =>
          rw [outcomes_behind]
          exact (outcomesBehind_advances parsed scene branchIH).looking negated
  | atomic body ih => exact ih.once
  | backReference target ignoresCase offset =>
      simp only [outcomes]
      split
      · exact Matching.never_advances
      · exact Matching.backReference_advances ignoresCase _
  | conditional target yes no offset yesIH noIH =>
      simp only [outcomes]
      split
      · exact Matching.never_advances
      · exact yesIH.ifCaptured noIH _

end Pattern

end Backtracking
