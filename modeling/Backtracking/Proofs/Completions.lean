import Backtracking.Proofs.OutcomeBounds

/-!
# Completions

What becomes of an outcome when the rest of a pattern is tried behind it.  A matching that is
followed by a completion gives the first of its outcomes that can be completed, so the completion of
a composed matching is put together from those of its parts, in the order in which the parts are
executed.
-/

namespace Backtracking

/-- The preferred way to go on from a position with some captures. -/
abbrev Completion := (position : Nat) → Captured → Option Outcome

namespace Matching

/-- The first outcome that can be completed, with its completion. -/
def followedBy (matching : Matching) (complete : Completion) : Completion :=
  fun position captured =>
    (matching position captured).findSome? fun outcome => complete outcome.stop outcome.captured

/-- A complete match. -/
def completed : Completion := fun position captured => some ⟨position, captured⟩

theorem findSome?_flatMap {α β γ : Type} (select : β → Option γ) (expand : α → List β)
    (members : List α) :
    (members.flatMap expand).findSome? select =
      members.findSome? fun member => (expand member).findSome? select := by
  induction members with
  | nil => rfl
  | cons member members ih =>
      rw [List.flatMap_cons, List.findSome?_append, ih, List.findSome?_cons]
      cases (expand member).findSome? select <;> rfl

theorem findSome?_congr {α β : Type} {first second : α → Option β} {members : List α}
    (same : ∀ member ∈ members, first member = second member) :
    members.findSome? first = members.findSome? second := by
  induction members with
  | nil => rfl
  | cons member members ih =>
      rw [List.findSome?_cons, List.findSome?_cons, same member (by simp),
        ih fun other later => same other (by simp [later])]

variable {first second body : Matching} {complete : Completion} {position : Nat}
  {captured : Captured}

theorem followedBy_completed (matching : Matching) (position : Nat) (captured : Captured) :
    matching.followedBy completed position captured = (matching position captured).head? := by
  simp only [followedBy, completed]
  cases matching position captured <;> rfl

@[simp]
theorem here_followedBy (complete : Completion) : here.followedBy complete = complete := by
  funext position captured
  simp [followedBy, here]

theorem andThen_followedBy (first second : Matching) (complete : Completion) :
    (first.andThen second).followedBy complete = first.followedBy (second.followedBy complete) := by
  funext position captured
  exact findSome?_flatMap _ _ _

theorem orElse_followedBy :
    (first.orElse second).followedBy complete position captured =
      (first.followedBy complete position captured).or
        (second.followedBy complete position captured) :=
  List.findSome?_append

theorem once_followedBy :
    body.once.followedBy complete position captured =
      (body position captured).head?.bind fun outcome =>
        complete outcome.stop outcome.captured := by
  simp only [followedBy, once]
  cases (body position captured).head? <;> simp

theorem capturing_followedBy (group : Nat) :
    (body.capturing group).followedBy complete position captured =
      body.followedBy (fun stop inner => complete stop (inner.close group ⟨position, stop⟩))
        position captured := by
  simp only [followedBy, capturing, List.findSome?_map]
  rfl

/-- Only the outcomes at the position are completed. -/
theorem followedBy_eq (same : first position captured = second position captured) :
    first.followedBy complete position captured = second.followedBy complete position captured := by
  rw [followedBy, followedBy, same]

theorem followedBy_congr {other : Completion}
    (same : ∀ outcome ∈ body position captured,
      complete outcome.stop outcome.captured = other outcome.stop outcome.captured) :
    body.followedBy complete position captured = body.followedBy other position captured :=
  findSome?_congr same

/-! ## Repetitions -/

/-- How a repetition goes on after `count` iterations, the last of which began at `start`. -/
def continued (body : Matching) (size : Nat) (greedy : Bool) (least : Nat) (most : Option Nat)
    (complete : Completion) (count : Nat) (start : Option Nat) : Completion :=
  fun position captured =>
    (iterations body greedy least most (roundsLeft size least count start position + 1) count
      start).followedBy complete position captured

/-- A repetition either runs its body and goes on behind it, or is left. -/
theorem continued_eq {subject : Subject} (advances : body.Advances subject) {greedy : Bool}
    {least count : Nat} {most : Option Nat} {start : Option Nat}
    (inside : position ≤ subject.size) (valid : captured.Valid subject) :
    continued body subject.size greedy least most complete count start position captured =
      let again := body.followedBy
        (continued body subject.size greedy least most complete (count + 1) (some position))
        position captured
      if count < least then again
      else if !(most.all (count < ·) && start != some position) then complete position captured
      else if greedy then again.or (complete position captured)
      else (complete position captured).or again := by
  have again (continues : count < least ∨ start ≠ some position) :
      (body.andThen (iterations body greedy least most
          (roundsLeft subject.size least count start position) (count + 1)
          (some position))).followedBy complete position captured =
        body.followedBy
          (continued body subject.size greedy least most complete (count + 1) (some position))
          position captured := by
    rw [andThen_followedBy]
    apply followedBy_congr
    intro outcome member
    have extended := advances position captured inside valid outcome member
    have fewer : roundsLeft subject.size least (count + 1) (some position) outcome.stop <
        roundsLeft subject.size least count start position :=
      roundsLeft_lt continues extended.le_stop extended.stop_le
    obtain ⟨extra, equal⟩ := Nat.exists_eq_add_of_lt fewer
    simp only [followedBy, continued]
    rw [← iterations_add advances greedy least most extended.stop_le extended.valid
      (Nat.lt_succ_self _) extra, equal]
    congr 2
    omega
  show List.findSome? _ (if count < least then _ else _) = _
  dsimp only
  split
  · next forced => exact again (.inl forced)
  split
  · exact congrFun (congrFun (here_followedBy complete) position) captured
  · next offered =>
      have moved : start ≠ some position := by
        rintro rfl
        simp at offered
      rw [← again (.inr moved)]
      split
      · exact orElse_followedBy.trans (by rw [here_followedBy])
      · exact orElse_followedBy.trans (by rw [here_followedBy])

theorem repeated_followedBy {size least : Nat} {most : Option Nat} {mode : RepeatMode}
    (gives : mode ≠ .possessive) :
    (body.repeated size least most mode).followedBy complete =
      continued body size (mode = .greedy) least most complete 0 none := by
  funext position captured
  cases mode with
  | greedy => rfl
  | lazy => rfl
  | possessive => exact absurd rfl gives

end Matching

end Backtracking
