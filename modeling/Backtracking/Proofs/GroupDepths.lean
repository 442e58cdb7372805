import Backtracking.Proofs.PatternTree

/-!
# Depths of groups

The depth of a capture group within a pattern is the number of parts around it that are tried on
their own: atomic parts, possessive repetitions and lookarounds.  As the numbers of groups are
distinct, the depth is a function of the number.
-/

namespace Backtracking

namespace Pattern

mutual

/-- The numbers of the capture groups within a pattern, each with its depth. -/
def groupDepths (depth : Nat) : Pattern → List (Nat × Nat)
  | .empty | .char _ | .assert _ | .backReference _ _ _ => []
  | .group index body => (index, depth) :: groupDepths depth body
  | .concat items => groupDepthsOfAll depth items
  | .alternation branches => groupDepthsOfAll depth branches
  | .repeated body _ _ .possessive => groupDepths (depth + 1) body
  | .repeated body _ _ _ => groupDepths depth body
  | .lookAround _ _ body _ => groupDepths (depth + 1) body
  | .atomic body => groupDepths (depth + 1) body
  | .conditional _ yes no _ => groupDepths depth yes ++ groupDepths depth no

/-- The numbers of the capture groups within some patterns, each with its depth. -/
def groupDepthsOfAll (depth : Nat) : List Pattern → List (Nat × Nat)
  | [] => []
  | pattern :: patterns => groupDepths depth pattern ++ groupDepthsOfAll depth patterns

end

theorem map_fst_groupDepths (pattern : Pattern) (depth : Nat) :
    (pattern.groupDepths depth).map Prod.fst = pattern.groups := by
  have all {patterns : List Pattern} (depth : Nat)
      (known : ∀ pattern ∈ patterns, ∀ depth,
        (pattern.groupDepths depth).map Prod.fst = pattern.groups) :
      (groupDepthsOfAll depth patterns).map Prod.fst = groupsOfAll patterns := by
    induction patterns with
    | nil => rfl
    | cons pattern patterns ih =>
        rw [groupDepthsOfAll, List.map_append, known pattern (by simp), groupsOfAll_cons,
          ih fun other member => known other (by simp [member])]
  induction pattern generalizing depth with
  | empty => rfl
  | char matcher => rfl
  | assert assertion => rfl
  | group index body ih => rw [groupDepths, List.map_cons, ih, groups_group]
  | concat items ih => exact all depth ih
  | alternation branches ih => exact all depth ih
  | repeated body least most mode ih => cases mode <;> exact ih _
  | lookAround direction negated body offset ih branchIH => exact ih _
  | atomic body ih => exact ih _
  | backReference target ignoresCase offset => rfl
  | conditional target yes no offset yesIH noIH =>
      rw [groupDepths, List.map_append, yesIH, noIH, groups_conditional]

/-- Pairs with distinct first components make a function. -/
theorem exists_function {pairs : List (Nat × Nat)} (distinct : (pairs.map Prod.fst).Nodup) :
    ∃ value : Nat → Nat, ∀ pair ∈ pairs, value pair.1 = pair.2 := by
  induction pairs with
  | nil => exact ⟨fun _ => 0, by simp⟩
  | cons first rest ih =>
      obtain ⟨fresh, distinct⟩ := List.nodup_cons.mp distinct
      obtain ⟨value, agrees⟩ := ih distinct
      refine ⟨fun key => if key = first.1 then first.2 else value key, fun pair member => ?_⟩
      rcases List.mem_cons.mp member with rfl | later
      · exact if_pos rfl
      · have different : pair.1 ≠ first.1 := fun same =>
          fresh (same ▸ List.mem_map_of_mem later)
        exact (if_neg different).trans (agrees pair later)

/-- The bounds of a repetition are in order. -/
def Ordered : Pattern → Prop
  | .repeated _ least most _ => ∀ bound, most = some bound → least ≤ bound
  | _ => True

/-- What is known of the patterns that are read, and of their groups at some depth: the numbers of
groups are distinct and lie below a bound, their depths are those told by a function, and the bounds
of all repetitions are in order. -/
structure Fits (bound : Nat) (groupDepth : Nat → Nat) (depth : Nat) (pattern : Pattern) : Prop where
  distinct : pattern.groups.Nodup
  below : ∀ index ∈ pattern.groups, index < bound
  depths : ∀ pair ∈ pattern.groupDepths depth, groupDepth pair.1 = pair.2
  ordered : ∀ part ∈ pattern.parts, part.Ordered

namespace Fits

variable {bound depth : Nat} {groupDepth : Nat → Nat}

theorem part {whole pattern : Pattern} {inner : Nat} (fits : whole.Fits bound groupDepth depth)
    (groups : pattern.groups.Sublist whole.groups)
    (depths : pattern.groupDepths inner ⊆ whole.groupDepths depth)
    (parts : pattern.parts ⊆ whole.parts) : pattern.Fits bound groupDepth inner where
  distinct := fits.distinct.sublist groups
  below index member := fits.below index (groups.subset member)
  depths pair member := fits.depths pair (depths member)
  ordered inside member := fits.ordered inside (parts member)

theorem group {index : Nat} {body : Pattern}
    (fits : (Pattern.group index body).Fits bound groupDepth depth) :
    index ∉ body.groups ∧ index < bound ∧ groupDepth index = depth ∧
      body.Fits bound groupDepth depth := by
  refine ⟨?_, fits.below index (by simp), fits.depths (index, depth) (by simp [groupDepths]),
    fits.part ?_ ?_ ?_⟩
  · have distinct := fits.distinct
    rw [groups_group] at distinct
    exact (List.nodup_cons.mp distinct).1
  · rw [groups_group]
    exact List.sublist_cons_self ..
  · exact List.subset_cons_self ..
  · exact List.subset_cons_self ..

theorem member {whole : Pattern} {patterns : List Pattern} {inner : Nat}
    (fits : whole.Fits bound groupDepth depth)
    (groups : (groupsOfAll patterns).Sublist whole.groups)
    (depths : groupDepthsOfAll inner patterns ⊆ whole.groupDepths depth)
    (parts : partsOfAll patterns ⊆ whole.parts) :
    ∀ pattern ∈ patterns, pattern.Fits bound groupDepth inner := by
  induction patterns with
  | nil => simp
  | cons first rest ih =>
      rw [groupsOfAll_cons] at groups
      rw [groupDepthsOfAll, List.append_subset] at depths
      rw [partsOfAll, List.append_subset] at parts
      intro pattern member
      rcases List.mem_cons.mp member with rfl | later
      · exact fits.part ((List.sublist_append_left ..).trans groups) depths.1 parts.1
      · exact ih ((List.sublist_append_right ..).trans groups) depths.2 parts.2 pattern later

theorem items {items : List Pattern} (fits : (Pattern.concat items).Fits bound groupDepth depth) :
    ∀ item ∈ items, item.Fits bound groupDepth depth :=
  fits.member (List.Sublist.refl _) (List.Subset.refl _) (List.subset_cons_self ..)

theorem branches {branches : List Pattern}
    (fits : (Pattern.alternation branches).Fits bound groupDepth depth) :
    ∀ branch ∈ branches, branch.Fits bound groupDepth depth :=
  fits.member (List.Sublist.refl _) (List.Subset.refl _) (List.subset_cons_self ..)

theorem branchesOf {pattern : Pattern} (fits : pattern.Fits bound groupDepth depth) :
    ∀ branch ∈ pattern.branches, branch.Fits bound groupDepth depth := by
  cases pattern
  case alternation choices => exact fits.branches
  all_goals
    intro branch member
    obtain rfl := List.mem_singleton.mp member
    exact fits

theorem repeated {body : Pattern} {least : Nat} {most : Option Nat} {mode : RepeatMode}
    (fits : (Pattern.repeated body least most mode).Fits bound groupDepth depth) :
    (∀ bound, most = some bound → least ≤ bound) ∧
      body.Fits bound groupDepth (if mode = .possessive then depth + 1 else depth) := by
  refine ⟨fits.ordered (.repeated body least most mode) (by simp [parts]),
    fits.part (List.Sublist.refl _) ?_ (List.subset_cons_self ..)⟩
  cases mode <;> exact List.Subset.refl _

theorem lookAround {direction : Direction} {negated : Bool} {body : Pattern} {offset : Nat}
    (fits : (Pattern.lookAround direction negated body offset).Fits bound groupDepth depth) :
    body.Fits bound groupDepth (depth + 1) :=
  fits.part (List.Sublist.refl _) (List.Subset.refl _) (List.subset_cons_self ..)

theorem atomic {body : Pattern} (fits : (Pattern.atomic body).Fits bound groupDepth depth) :
    body.Fits bound groupDepth (depth + 1) :=
  fits.part (List.Sublist.refl _) (List.Subset.refl _) (List.subset_cons_self ..)

theorem conditional {target : GroupRef} {yes no : Pattern} {offset : Nat}
    (fits : (Pattern.conditional target yes no offset).Fits bound groupDepth depth) :
    yes.Fits bound groupDepth depth ∧ no.Fits bound groupDepth depth := by
  constructor
  · refine fits.part ?_ (List.subset_append_left ..) ?_
    · rw [groups_conditional]
      exact List.sublist_append_left ..
    · exact List.subset_cons_of_subset _ (List.subset_append_left ..)
  · refine fits.part ?_ (List.subset_append_right ..) ?_
    · rw [groups_conditional]
      exact List.sublist_append_right ..
    · exact List.subset_cons_of_subset _ (List.subset_append_right ..)

end Fits

end Pattern

end Backtracking
