import Backtracking.Proofs.OutcomeBounds

/-!
# Patterns in the same place

A context is a pattern in which one part is left open.  Two patterns with the same outcomes on a
subject may stand for one another in any context, lookbehinds included, if they have the same width.
-/

namespace Backtracking

namespace Matching

/-- Two things match in the same ways within a subject. -/
def Agree (subject : Subject) (first second : Matching) : Prop :=
  ∀ position captured, position ≤ subject.size → captured.Valid subject →
    first position captured = second position captured

variable {subject : Subject} {first second third fourth : Matching}

theorem Agree.refl (matching : Matching) : Agree subject matching matching :=
  fun _ _ _ _ => rfl

theorem Agree.andThen (advances : second.Advances subject) (begin : Agree subject first second)
    (follow : Agree subject third fourth) :
    Agree subject (first.andThen third) (second.andThen fourth) := by
  intro position captured inside valid
  rw [Matching.andThen, Matching.andThen, begin position captured inside valid]
  apply List.flatMap_congr
  intro outcome member
  have extended := advances position captured inside valid outcome member
  exact follow _ _ extended.stop_le extended.valid

theorem Agree.orElse (preferred : Agree subject first second)
    (other : Agree subject third fourth) :
    Agree subject (first.orElse third) (second.orElse fourth) := by
  intro position captured inside valid
  rw [Matching.orElse, Matching.orElse, preferred position captured inside valid,
    other position captured inside valid]

theorem Agree.once (agree : Agree subject first second) :
    Agree subject first.once second.once := by
  intro position captured inside valid
  rw [Matching.once, Matching.once, agree position captured inside valid]

theorem Agree.capturing (agree : Agree subject first second) (group : Nat) :
    Agree subject (first.capturing group) (second.capturing group) := by
  intro position captured inside valid
  rw [Matching.capturing, Matching.capturing, agree position captured inside valid]

theorem Agree.ifCaptured (yes : Agree subject first second) (no : Agree subject third fourth)
    (group : Nat) :
    Agree subject (ifCaptured group first third) (ifCaptured group second fourth) := by
  intro position captured inside valid
  rw [Matching.ifCaptured, Matching.ifCaptured, yes position captured inside valid,
    no position captured inside valid]

theorem Agree.looking (agree : Agree subject first second) (negated : Bool) :
    Agree subject (looking negated first) (looking negated second) := by
  intro position captured inside valid
  simp only [Matching.looking, agree position captured inside valid]

theorem Agree.behind (agree : Agree subject first second) (width : Nat) :
    Agree subject (behind width first) (behind width second) := by
  intro position captured inside valid
  rw [Matching.behind, Matching.behind, agree (position - width) captured (by omega) valid]

theorem Agree.iterations (advances : second.Advances subject) (agree : Agree subject first second)
    (greedy : Bool) (least : Nat) (most : Option Nat) (rounds count : Nat) (start : Option Nat) :
    Agree subject (iterations first greedy least most rounds count start)
      (iterations second greedy least most rounds count start) := by
  induction rounds generalizing count start with
  | zero => exact .refl _
  | succ rounds ih =>
      intro position captured inside valid
      have again := agree.andThen advances (ih (count + 1) (some position))
      simp only [Matching.iterations, Matching.orElse, again position captured inside valid]

theorem Agree.possessiveIterations (advances : second.Advances subject)
    (agree : Agree subject first second) (least : Nat) (most : Option Nat)
    {rounds count position : Nat} {captured : Captured} (inside : position ≤ subject.size)
    (valid : captured.Valid subject) :
    possessiveIterations first least most rounds count position captured =
      possessiveIterations second least most rounds count position captured := by
  induction rounds generalizing count position captured with
  | zero => rfl
  | succ rounds ih =>
      rw [Matching.possessiveIterations, Matching.possessiveIterations,
        agree position captured inside valid]
      cases found : (second position captured).head? with
      | none => rfl
      | some outcome =>
          have extended := advances position captured inside valid outcome
            (List.mem_of_mem_head? found)
          simp only [ih extended.stop_le extended.valid]

theorem Agree.repeated (advances : second.Advances subject) (agree : Agree subject first second)
    (size least : Nat) (most : Option Nat) (mode : RepeatMode) :
    Agree subject (repeated first size least most mode)
      (repeated second size least most mode) := by
  intro position captured inside valid
  cases mode with
  | greedy => exact agree.iterations advances true least most _ 0 none _ _ inside valid
  | lazy => exact agree.iterations advances false least most _ 0 none _ _ inside valid
  | possessive =>
      simp only [Matching.repeated, agree.possessiveIterations advances least most inside valid]

end Matching

namespace Pattern

/-- A pattern in which one part is left open. -/
inductive Context where
  | hole
  | group (index : Nat) (body : Context)
  | concat (before : List Pattern) (item : Context) (after : List Pattern)
  | alternation (before : List Pattern) (branch : Context) (after : List Pattern)
  | repeated (body : Context) (least : Nat) (most : Option Nat) (mode : RepeatMode)
  | lookAround (direction : Direction) (negated : Bool) (body : Context) (offset : Nat)
  | atomic (body : Context)
  | captured (target : GroupRef) (chosen : Context) (no : Pattern) (offset : Nat)
  | uncaptured (target : GroupRef) (yes : Pattern) (chosen : Context) (offset : Nat)

/-- The pattern with something in the place that was left open. -/
def Context.fill (filling : Pattern) : Context → Pattern
  | .hole => filling
  | .group index body => .group index (body.fill filling)
  | .concat before item after => .concat (before ++ item.fill filling :: after)
  | .alternation before branch after => .alternation (before ++ branch.fill filling :: after)
  | .repeated body least most mode => .repeated (body.fill filling) least most mode
  | .lookAround direction negated body offset =>
      .lookAround direction negated (body.fill filling) offset
  | .atomic body => .atomic (body.fill filling)
  | .captured target chosen no offset => .conditional target (chosen.fill filling) no offset
  | .uncaptured target yes chosen offset => .conditional target yes (chosen.fill filling) offset

variable (parsed : ParsedPattern) (scene : Scene)

/-- One pattern may stand for another: they have the same width, and the same outcomes within the
subject, both behind a position and before it. -/
structure Interchangeable (first second : Pattern) : Prop where
  width_eq : first.width = second.width
  outcomes_agree :
    Matching.Agree scene.subject (first.outcomes parsed scene) (second.outcomes parsed scene)
  behind_agree : Matching.Agree scene.subject (outcomesBehind parsed scene first.branches)
    (outcomesBehind parsed scene second.branches)

variable {parsed scene} {first second : Pattern}

/-- Where neither pattern is a choice, nothing more is asked of them before a position. -/
theorem Interchangeable.single (width_eq : first.width = second.width)
    (agree : Matching.Agree scene.subject (first.outcomes parsed scene)
      (second.outcomes parsed scene))
    (firstBranch : first.branches = [first]) (secondBranch : second.branches = [second]) :
    Interchangeable parsed scene first second := by
  refine ⟨width_eq, agree, ?_⟩
  rw [firstBranch, secondBranch, outcomesBehind, outcomesBehind, width_eq]
  exact (agree.behind _).orElse (.refl _)

theorem Interchangeable.sequence (inner : Interchangeable parsed scene first second)
    (before after : List Pattern) :
    sequenceWidth (before ++ first :: after) = sequenceWidth (before ++ second :: after) ∧
      Matching.Agree scene.subject (sequenceOutcomes parsed scene (before ++ first :: after))
        (sequenceOutcomes parsed scene (before ++ second :: after)) := by
  induction before with
  | nil =>
      refine ⟨?_, inner.outcomes_agree.andThen (outcomes_advances parsed scene second) (.refl _)⟩
      rw [List.nil_append, List.nil_append, sequenceWidth, sequenceWidth, inner.width_eq]
  | cons item before ih =>
      refine ⟨?_, Matching.Agree.andThen (outcomes_advances parsed scene item) (.refl _) ih.2⟩
      rw [List.cons_append, List.cons_append, sequenceWidth, sequenceWidth, ih.1]

theorem Interchangeable.choice (inner : Interchangeable parsed scene first second)
    (before after : List Pattern) :
    choiceWidth (before ++ first :: after) = choiceWidth (before ++ second :: after) ∧
      Matching.Agree scene.subject (choiceOutcomes parsed scene (before ++ first :: after))
        (choiceOutcomes parsed scene (before ++ second :: after)) ∧
      Matching.Agree scene.subject (outcomesBehind parsed scene (before ++ first :: after))
        (outcomesBehind parsed scene (before ++ second :: after)) := by
  induction before with
  | nil =>
      refine ⟨?_, inner.outcomes_agree.orElse (.refl _), ?_⟩
      · cases after with
        | nil => exact inner.width_eq
        | cons branch after =>
            simp only [List.nil_append, choiceWidth, inner.width_eq]
      · simp only [List.nil_append, outcomesBehind, inner.width_eq]
        exact (inner.outcomes_agree.behind _).orElse (.refl _)
  | cons branch before ih =>
      obtain ⟨widths, outcomes, behind⟩ := ih
      refine ⟨?_, Matching.Agree.orElse (.refl _) outcomes, Matching.Agree.orElse (.refl _) behind⟩
      cases before with
      | nil => exact congrArg branch.width.either widths
      | cons other before => exact congrArg branch.width.either widths

/-- Patterns that may stand for one another may do so in any context. -/
theorem Interchangeable.fill (inner : Interchangeable parsed scene first second)
    (context : Context) :
    Interchangeable parsed scene (context.fill first) (context.fill second) := by
  induction context with
  | hole => exact inner
  | group index body ih =>
      exact .single ih.width_eq (ih.outcomes_agree.capturing index) rfl rfl
  | concat before item after ih =>
      have ⟨widths, outcomes⟩ := ih.sequence before after
      exact .single widths outcomes rfl rfl
  | alternation before branch after ih =>
      have ⟨widths, outcomes, behind⟩ := ih.choice before after
      exact ⟨widths, outcomes, behind⟩
  | repeated body least most mode ih =>
      have advances := outcomes_advances parsed scene (body.fill second)
      refine .single ?_ (ih.outcomes_agree.repeated advances _ least most mode) rfl rfl
      rw [Context.fill, Context.fill, width, width, ih.width_eq]
  | lookAround direction negated body offset ih =>
      refine .single rfl ?_ rfl rfl
      cases direction with
      | ahead => exact ih.outcomes_agree.looking negated
      | behind =>
          rw [Context.fill, Context.fill, outcomes_behind, outcomes_behind]
          exact ih.behind_agree.looking negated
  | atomic body ih => exact .single ih.width_eq ih.outcomes_agree.once rfl rfl
  | captured target chosen no offset ih =>
      refine .single ?_ ?_ rfl rfl
      · rw [Context.fill, Context.fill, width, width, ih.width_eq]
      · rw [Context.fill, Context.fill, outcomes, outcomes]
        cases parsed.group? target with
        | none => exact .refl _
        | some index => exact ih.outcomes_agree.ifCaptured (.refl _) index
  | uncaptured target yes chosen offset ih =>
      refine .single ?_ ?_ rfl rfl
      · rw [Context.fill, Context.fill, width, width, ih.width_eq]
      · rw [Context.fill, Context.fill, outcomes, outcomes]
        cases parsed.group? target with
        | none => exact .refl _
        | some index => exact Matching.Agree.ifCaptured (.refl _) ih.outcomes_agree index

end Pattern

end Backtracking
