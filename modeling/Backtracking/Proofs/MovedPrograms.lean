import Backtracking.Pattern.Hints
import Backtracking.Program.OfPattern
import Backtracking.Proofs.Emission
import Backtracking.Proofs.MovedReadings
import Backtracking.Proofs.Offsets

/-!
# Hints and programs of patterns further on

The places where a pattern was written are of no account for its hints, and its program needs them
only to say where an error is.
-/

namespace Backtracking

namespace Pattern

/-! ## Hints -/

theorem first?_withoutOffsets (pattern : Pattern) :
    pattern.withoutOffsets.first? = pattern.first? := by
  induction pattern with
  | empty => rfl
  | char matcher => rfl
  | assert assertion => rfl
  | group index body ih => exact ih
  | concat items ih =>
      show sequenceFirst? (allWithoutOffsets items) = sequenceFirst? items
      induction items with
      | nil => rfl
      | cons item items rest =>
          rw [allWithoutOffsets, sequenceFirst?, sequenceFirst?, ih item (by simp),
            rest fun other member => ih other (by simp [member])]
  | alternation branches ih =>
      show choiceFirst? (allWithoutOffsets branches) = choiceFirst? branches
      induction branches with
      | nil => rfl
      | cons branch branches rest =>
          rw [allWithoutOffsets, choiceFirst?, choiceFirst?, ih branch (by simp),
            rest fun other member => ih other (by simp [member])]
  | repeated body least most mode ih => rw [withoutOffsets, first?, first?, ih]
  | lookAround direction negated body offset ih branchIH => rfl
  | atomic body ih => exact ih
  | backReference target ignoresCase offset => rfl
  | conditional target yes no offset yesIH noIH => rfl

theorem sequenceFirstChar?_withoutOffsets {items : List Pattern}
    (ih : ∀ item ∈ items, item.withoutOffsets.firstChar? = item.firstChar?) :
    sequenceFirstChar? (allWithoutOffsets items) = sequenceFirstChar? items := by
  induction items with
  | nil => rfl
  | cons item items rest =>
      have first := ih item (by simp)
      have width := item.width_withoutOffsets
      cases item
      case assert assertion => exact rest fun other member => ih other (by simp [member])
      all_goals
        rw [withoutOffsets] at first width
        rw [allWithoutOffsets, withoutOffsets, sequenceFirstChar?, sequenceFirstChar?, first, width]
        all_goals
          rintro _ equal
          cases equal

theorem choiceFirstChar?_withoutOffsets {branches : List Pattern}
    (ih : ∀ branch ∈ branches, branch.withoutOffsets.firstChar? = branch.firstChar?) :
    choiceFirstChar? (allWithoutOffsets branches) = choiceFirstChar? branches := by
  induction branches with
  | nil => rfl
  | cons branch branches rest =>
      have later := rest fun other member => ih other (by simp [member])
      cases branches with
      | nil => exact ih branch (by simp)
      | cons second others =>
          rw [allWithoutOffsets] at later
          rw [allWithoutOffsets, allWithoutOffsets, choiceFirstChar?, ih branch (by simp), later]
          · rfl
          · simp

theorem firstChar?_withoutOffsets (pattern : Pattern) :
    pattern.withoutOffsets.firstChar? = pattern.firstChar? := by
  induction pattern with
  | empty => rfl
  | char matcher => rfl
  | assert assertion => rfl
  | group index body ih => exact ih
  | concat items ih => exact sequenceFirstChar?_withoutOffsets ih
  | alternation branches ih => exact choiceFirstChar?_withoutOffsets ih
  | repeated body least most mode ih => rw [withoutOffsets, firstChar?, firstChar?, ih]
  | lookAround direction negated body offset ih branchIH => rfl
  | atomic body ih => exact ih
  | backReference target ignoresCase offset => rfl
  | conditional target yes no offset yesIH noIH => rfl

theorem leading_withoutOffsets (pattern : Pattern) :
    pattern.withoutOffsets.leading = pattern.leading := by
  induction pattern with
  | empty => rfl
  | char matcher => rfl
  | assert assertion => rfl
  | group index body ih => exact ih
  | concat items ih =>
      show sequenceLeading (allWithoutOffsets items) = sequenceLeading items
      induction items with
      | nil => rfl
      | cons item items rest =>
          rw [allWithoutOffsets, sequenceLeading, sequenceLeading, ih item (by simp),
            rest fun other member => ih other (by simp [member])]
  | alternation branches ih => rfl
  | repeated body least most mode ih => rw [withoutOffsets, leading, leading, ih]
  | lookAround direction negated body offset ih branchIH => rfl
  | atomic body ih => exact ih
  | backReference target ignoresCase offset => rfl
  | conditional target yes no offset yesIH noIH => rfl

theorem startsAtInputStart_withoutOffsets (pattern : Pattern) :
    pattern.withoutOffsets.startsAtInputStart = pattern.startsAtInputStart := by
  induction pattern with
  | empty => rfl
  | char matcher => rfl
  | assert assertion => rfl
  | group index body ih => exact ih
  | concat items ih =>
      cases items with
      | nil => rfl
      | cons item items => exact ih item (by simp)
  | alternation branches ih =>
      show allStartAtInputStart (allWithoutOffsets branches) = allStartAtInputStart branches
      induction branches with
      | nil => rfl
      | cons branch branches rest =>
          rw [allWithoutOffsets, allStartAtInputStart, allStartAtInputStart, ih branch (by simp),
            rest fun other member => ih other (by simp [member])]
  | repeated body least most mode ih => rfl
  | lookAround direction negated body offset ih branchIH => rfl
  | atomic body ih => exact ih
  | backReference target ignoresCase offset => rfl
  | conditional target yes no offset yesIH noIH => rfl

theorem hints_withoutOffsets (pattern : Pattern) :
    pattern.withoutOffsets.hints = pattern.hints := by
  simp only [hints, width_withoutOffsets, first?_withoutOffsets, firstChar?_withoutOffsets,
    leading_withoutOffsets, startsAtInputStart_withoutOffsets]

theorem withoutOffsets_movedBy (distance : Nat) (pattern : Pattern) :
    (pattern.movedBy distance).withoutOffsets = pattern.withoutOffsets := by
  have all {patterns : List Pattern}
      (ih : ∀ pattern ∈ patterns, (pattern.movedBy distance).withoutOffsets =
        pattern.withoutOffsets) :
      allWithoutOffsets (allMovedBy distance patterns) = allWithoutOffsets patterns := by
    simpa [allWithoutOffsets_eq_map, allMovedBy_eq_map] using ih
  induction pattern with
  | empty => rfl
  | char matcher => rfl
  | assert assertion => rfl
  | group index body ih => rw [movedBy, withoutOffsets, withoutOffsets, ih]
  | concat items ih => rw [movedBy, withoutOffsets, withoutOffsets, all ih]
  | alternation branches ih => rw [movedBy, withoutOffsets, withoutOffsets, all ih]
  | repeated body least most mode ih => rw [movedBy, withoutOffsets, withoutOffsets, ih]
  | lookAround direction negated body offset ih branchIH =>
      rw [movedBy, withoutOffsets, withoutOffsets, ih]
  | atomic body ih => rw [movedBy, withoutOffsets, withoutOffsets, ih]
  | backReference target ignoresCase offset => rfl
  | conditional target yes no offset yesIH noIH =>
      rw [movedBy, withoutOffsets, withoutOffsets, yesIH, noIH]

theorem branches_movedBy (distance : Nat) (pattern : Pattern) :
    (pattern.movedBy distance).branches = allMovedBy distance pattern.branches := by
  cases pattern <;> rfl

theorem hints_movedBy (distance : Nat) (pattern : Pattern) :
    (pattern.movedBy distance).hints = pattern.hints := by
  rw [← hints_withoutOffsets, withoutOffsets_movedBy, hints_withoutOffsets]

theorem width_movedBy (distance : Nat) (pattern : Pattern) :
    (pattern.movedBy distance).width = pattern.width := by
  rw [← width_withoutOffsets, withoutOffsets_movedBy, width_withoutOffsets]

theorem branchWidth_movedBy (distance offset : Nat) (pattern : Pattern) :
    (pattern.movedBy distance).branchWidth (offset + distance) =
      (pattern.branchWidth offset).mapError (CompileError.movedBy distance) := by
  rw [branchWidth, branchWidth, fixedWidth?, fixedWidth?, width_movedBy]
  cases pattern.width.fixed? <;> rfl

end Pattern

/-! ## Programs -/

theorem ParsedPattern.resolve_movedBy {first second : ParsedPattern}
    (sameGroups : second.groupNames = first.groupNames) (distance : Nat) (target : GroupRef)
    (offset : Nat) :
    second.resolve target (offset + distance) =
      (first.resolve target offset).mapError (CompileError.movedBy distance) := by
  unfold resolve groupNumber? groupCount
  rw [sameGroups]
  cases target with
  | number group =>
      dsimp only
      split <;> rfl
  | name name =>
      dsimp only
      split <;> rfl

namespace Emitting

variable {α β : Type}

/-- The same step, except that its errors are so many characters further on. -/
def errorsMovedBy (distance : Nat) (emitting : Emitting α) : Emitting α :=
  fun emitter => (emitting.run emitter).mapError (CompileError.movedBy distance)

variable {distance : Nat}

theorem run_errorsMovedBy (emitting : Emitting α) (emitter : Emitter) :
    (errorsMovedBy distance emitting).run emitter =
      (emitting.run emitter).mapError (CompileError.movedBy distance) := rfl

@[simp] theorem errorsMovedBy_pure (value : α) :
    errorsMovedBy distance (pure value) = pure value := rfl

@[simp] theorem errorsMovedBy_bind (emitting : Emitting α) (next : α → Emitting β) :
    errorsMovedBy distance (emitting >>= next) =
      errorsMovedBy distance emitting >>= fun value => errorsMovedBy distance (next value) := by
  funext emitter
  show Except.mapError _ (emitting.run emitter >>= fun reached => (next reached.1).run reached.2) =
    (emitting.run emitter).mapError _ >>= fun reached =>
      ((next reached.1).run reached.2).mapError _
  cases emitting.run emitter <;> rfl

@[simp] theorem errorsMovedBy_map (change : α → β) (emitting : Emitting α) :
    errorsMovedBy distance (change <$> emitting) = change <$> errorsMovedBy distance emitting := by
  rw [map_eq_pure_bind, map_eq_pure_bind, errorsMovedBy_bind]
  rfl

@[simp] theorem errorsMovedBy_ite (condition : Prop) [Decidable condition]
    (yes no : Emitting α) :
    errorsMovedBy distance (if condition then yes else no) =
      if condition then errorsMovedBy distance yes else errorsMovedBy distance no := by
  split <;> rfl

@[simp] theorem errorsMovedBy_push (node : Node) :
    errorsMovedBy distance (push node) = push node := rfl

@[simp] theorem errorsMovedBy_replace (id : NodeId) (node : Node) :
    errorsMovedBy distance (replace id node) = replace id node := rfl

@[simp] theorem errorsMovedBy_newSlot : errorsMovedBy distance newSlot = newSlot := rfl

theorem errorsMovedBy_liftM (result : Except CompileError α) :
    errorsMovedBy distance (liftM result) =
      liftM (result.mapError (CompileError.movedBy distance)) := by
  funext emitter
  cases result <;> rfl

@[simp] theorem errorsMovedBy_flush (pending : PendingText) :
    errorsMovedBy distance pending.flush = pending.flush := by
  unfold PendingText.flush
  split <;> rfl

@[simp] theorem errorsMovedBy_prepend (pending : PendingText) (character : Char)
    (ignoresCase : Bool) :
    errorsMovedBy distance (pending.prepend character ignoresCase) =
      pending.prepend character ignoresCase := by
  unfold PendingText.prepend
  split
  · rfl
  · simp

section

variable {first second : ParsedPattern} (sameGroups : second.groupNames = first.groupNames)

/-- The nodes of a pattern are those of the same pattern further on. -/
def Follows (first second : ParsedPattern) (distance : Nat) (one : Pattern) : Prop :=
  ∀ next,
    pattern second (one.movedBy distance) next = errorsMovedBy distance (pattern first one next)

theorem sequence_movedBy {items : List Pattern}
    (ih : ∀ item ∈ items, Follows first second distance item) (next : NodeId) :
    sequence second (Pattern.allMovedBy distance items) next =
      errorsMovedBy distance (sequence first items next) := by
  induction items with
  | nil => rfl
  | cons item items rest =>
      have later := rest fun other member => ih other (by simp [member])
      have known := ih item (by simp)
      cases item
      case char matcher =>
        cases matcher <;> simp_all [Pattern.allMovedBy, Pattern.movedBy, sequence, Follows]
      all_goals simp_all [Pattern.allMovedBy, Pattern.movedBy, sequence, Follows]

theorem alternatives_movedBy {branches : List Pattern}
    (ih : ∀ branch ∈ branches, Follows first second distance branch) (next : NodeId) :
    alternatives second (Pattern.allMovedBy distance branches) next =
      errorsMovedBy distance (alternatives first branches next) := by
  induction branches with
  | nil => rfl
  | cons branch branches rest =>
      have later := rest fun other member => ih other (by simp [member])
      simp [Pattern.allMovedBy, alternatives, ih branch (by simp) next, later]

theorem measured_movedBy {branches : List Pattern}
    (ih : ∀ branch ∈ branches, Follows first second distance branch) (offset : Nat) :
    measured second (Pattern.allMovedBy distance branches) (offset + distance) =
      errorsMovedBy distance (measured first branches offset) := by
  induction branches with
  | nil => rfl
  | cons branch branches rest =>
      have later := rest fun other member => ih other (by simp [member])
      simp [Pattern.allMovedBy, measured, ih branch (by simp) _, later,
        Pattern.branchWidth_movedBy, errorsMovedBy_liftM]

theorem repeated_movedBy {body : Pattern} (ih : Follows first second distance body) (least : Nat)
    (most : Option Nat) (mode : RepeatMode) :
    Follows first second distance (.repeated body least most mode) := by
  intro next
  have same : pattern second (body.movedBy distance) =
      fun next => errorsMovedBy distance (pattern first body next) := funext ih
  simp only [Pattern.movedBy, pattern, same]
  -- From here on the body counts only as far as it is one character or not.
  generalize pattern first body = nodes
  cases body <;> simp [Pattern.movedBy]

theorem lookBehind_movedBy {body : Pattern}
    (branchIH : ∀ branch ∈ body.branches, Follows first second distance branch) (negated : Bool)
    (offset : Nat) : Follows first second distance (.lookAround .behind negated body offset) := by
  intro next
  rw [Pattern.movedBy, pattern_behind, pattern_behind, errorsMovedBy_bind,
    Pattern.branches_movedBy, measured_movedBy branchIH]
  rfl

include sameGroups in
theorem pattern_movedBy (one : Pattern) : Follows first second distance one := by
  induction one with
  | empty => exact fun next => rfl
  | char matcher => exact fun next => rfl
  | assert assertion => exact fun next => rfl
  | group index body ih =>
      intro next
      simp [Pattern.movedBy, pattern, ih _]
  | concat items ih =>
      intro next
      simp [Pattern.movedBy, pattern, sequence_movedBy ih]
  | alternation branches ih =>
      intro next
      simp [Pattern.movedBy, pattern, alternatives_movedBy ih]
  | repeated body least most mode ih => exact repeated_movedBy ih least most mode
  | lookAround direction negated body offset ih branchIH =>
      cases direction with
      | ahead =>
          intro next
          simp [Pattern.movedBy, pattern, ih _]
      | behind => exact lookBehind_movedBy branchIH negated offset
  | atomic body ih =>
      intro next
      simp [Pattern.movedBy, pattern, ih _]
  | backReference target ignoresCase offset =>
      intro next
      simp [Pattern.movedBy, pattern, ParsedPattern.resolve_movedBy sameGroups, errorsMovedBy_liftM]
  | conditional target yes no offset yesIH noIH =>
      intro next
      simp [Pattern.movedBy, pattern, ParsedPattern.resolve_movedBy sameGroups, errorsMovedBy_liftM,
        yesIH _, noIH _]

end

end Emitting

def ParsedPattern.movedBy (distance : Nat) (parsed : ParsedPattern) : ParsedPattern :=
  { parsed with pattern := parsed.pattern.movedBy distance }

/-- A pattern has the same program wherever it was written, or is refused for the same reason. -/
theorem Program.ofPattern_movedBy (distance : Nat) (parsed : ParsedPattern) :
    ofPattern (parsed.movedBy distance) =
      (ofPattern parsed).mapError (CompileError.movedBy distance) := by
  have sameGroups : (parsed.movedBy distance).groupNames = parsed.groupNames := rfl
  have nodes : Emitting.pattern (parsed.movedBy distance) (parsed.pattern.movedBy distance)
      Program.done = Emitting.errorsMovedBy distance
        (Emitting.pattern parsed parsed.pattern Program.done) :=
    Emitting.pattern_movedBy sameGroups parsed.pattern Program.done
  unfold ofPattern
  rw [show (parsed.movedBy distance).pattern = parsed.pattern.movedBy distance from rfl, nodes,
    Emitting.run_errorsMovedBy]
  cases (Emitting.pattern parsed parsed.pattern Program.done).run {} <;> rfl

end Backtracking
