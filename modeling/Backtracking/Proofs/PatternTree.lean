import Backtracking.Pattern.Basic

/-!
# The tree of a pattern

Induction over patterns, and what a pattern is made of: all the patterns within it, and the capture
groups among them, both in the order in which they are written.
-/

namespace Backtracking

namespace Pattern

/-- Induction over patterns, where the items of a sequence and the branches of a choice are reached
as members of their lists.  For a lookaround the claim is known of the branches of its body too. -/
@[elab_as_elim, induction_eliminator]
theorem induction {motive : Pattern → Prop}
    (empty : motive .empty)
    (char : ∀ matcher, motive (.char matcher))
    (assert : ∀ assertion, motive (.assert assertion))
    (group : ∀ index body, motive body → motive (.group index body))
    (concat : ∀ items, (∀ item ∈ items, motive item) → motive (.concat items))
    (alternation : ∀ branches, (∀ branch ∈ branches, motive branch) →
      motive (.alternation branches))
    (repeated : ∀ body least most mode, motive body → motive (.repeated body least most mode))
    (lookAround : ∀ direction negated body offset, motive body →
      (∀ branch ∈ body.branches, motive branch) →
      motive (.lookAround direction negated body offset))
    (atomic : ∀ body, motive body → motive (.atomic body))
    (backReference : ∀ target ignoresCase offset,
      motive (.backReference target ignoresCase offset))
    (conditional : ∀ target yes no offset, motive yes → motive no →
      motive (.conditional target yes no offset))
    (pattern : Pattern) : motive pattern := by
  have single {body : Pattern} (known : motive body) :
      motive body ∧ ∀ branch ∈ [body], motive branch :=
    ⟨known, fun branch member => List.mem_singleton.mp member ▸ known⟩
  suffices strong : motive pattern ∧ ∀ branch ∈ pattern.branches, motive branch from strong.1
  refine pattern.rec (motive_1 := fun body => motive body ∧ ∀ branch ∈ body.branches, motive branch)
    (motive_2 := fun patterns => ∀ member ∈ patterns, motive member)
    (single empty) (fun matcher => single (char matcher))
    (fun condition => single (assert condition))
    (fun index body ih => single (group index body ih.1))
    (fun items ih => single (concat items ih))
    (fun branches ih => ⟨alternation branches ih, ih⟩)
    (fun body least most mode ih => single (repeated body least most mode ih.1))
    (fun direction negated body offset ih =>
      single (lookAround direction negated body offset ih.1 ih.2))
    (fun body ih => single (atomic body ih.1))
    (fun target ignoresCase offset => single (backReference target ignoresCase offset))
    (fun target yes no offset yesIH noIH =>
      single (conditional target yes no offset yesIH.1 noIH.1)) ?_ ?_
  · intro pattern member
    simp at member
  · intro first rest firstIH restIH pattern member
    rcases List.mem_cons.mp member with equal | later
    · exact equal ▸ firstIH.1
    · exact restIH pattern later

mutual

/-- All patterns within a pattern, and it itself. -/
def parts : Pattern → List Pattern
  | .empty => [.empty]
  | .char matcher => [.char matcher]
  | .assert assertion => [.assert assertion]
  | .group index body => .group index body :: parts body
  | .concat items => .concat items :: partsOfAll items
  | .alternation branches => .alternation branches :: partsOfAll branches
  | .repeated body least most mode => .repeated body least most mode :: parts body
  | .lookAround direction negated body offset =>
      .lookAround direction negated body offset :: parts body
  | .atomic body => .atomic body :: parts body
  | .backReference target ignoresCase offset => [.backReference target ignoresCase offset]
  | .conditional target yes no offset =>
      .conditional target yes no offset :: (parts yes ++ parts no)

def partsOfAll : List Pattern → List Pattern
  | [] => []
  | pattern :: patterns => parts pattern ++ partsOfAll patterns

end

theorem partsOfAll_eq_flatMap (patterns : List Pattern) :
    partsOfAll patterns = patterns.flatMap parts := by
  induction patterns with
  | nil => rfl
  | cons pattern patterns ih => simp [partsOfAll, ih]

theorem mem_partsOfAll {part : Pattern} {patterns : List Pattern} :
    part ∈ partsOfAll patterns ↔ ∃ pattern ∈ patterns, part ∈ pattern.parts := by
  rw [partsOfAll_eq_flatMap, List.mem_flatMap]

/-- A condition holds of all patterns within a pattern, and of it itself. -/
def Throughout (condition : Pattern → Prop) (pattern : Pattern) : Prop :=
  ∀ part ∈ pattern.parts, condition part

namespace Throughout

variable {condition : Pattern → Prop}

theorem self {pattern : Pattern} (throughout : pattern.Throughout condition) :
    condition pattern := by
  apply throughout
  cases pattern <;> simp [parts]

theorem group {index : Nat} {body : Pattern}
    (throughout : (Pattern.group index body).Throughout condition) : body.Throughout condition :=
  fun part member => throughout part (List.mem_cons_of_mem _ member)

theorem item {items : List Pattern} (throughout : (Pattern.concat items).Throughout condition)
    {item : Pattern} (member : item ∈ items) : item.Throughout condition :=
  fun part inside =>
    throughout part (List.mem_cons_of_mem _ (mem_partsOfAll.mpr ⟨item, member, inside⟩))

theorem branch {branches : List Pattern}
    (throughout : (Pattern.alternation branches).Throughout condition) {branch : Pattern}
    (member : branch ∈ branches) : branch.Throughout condition :=
  fun part inside =>
    throughout part (List.mem_cons_of_mem _ (mem_partsOfAll.mpr ⟨branch, member, inside⟩))

theorem repeated {body : Pattern} {least : Nat} {most : Option Nat} {mode : RepeatMode}
    (throughout : (Pattern.repeated body least most mode).Throughout condition) :
    body.Throughout condition :=
  fun part member => throughout part (List.mem_cons_of_mem _ member)

theorem lookAround {direction : Direction} {negated : Bool} {body : Pattern} {offset : Nat}
    (throughout : (Pattern.lookAround direction negated body offset).Throughout condition) :
    body.Throughout condition :=
  fun part member => throughout part (List.mem_cons_of_mem _ member)

theorem ofBranches {body : Pattern} (throughout : body.Throughout condition) {branch : Pattern}
    (member : branch ∈ body.branches) : branch.Throughout condition := by
  cases body
  case alternation branches => exact throughout.branch member
  all_goals exact List.mem_singleton.mp member ▸ throughout

theorem atomic {body : Pattern} (throughout : (Pattern.atomic body).Throughout condition) :
    body.Throughout condition :=
  fun part member => throughout part (List.mem_cons_of_mem _ member)

theorem yes {target : GroupRef} {yes no : Pattern} {offset : Nat}
    (throughout : (Pattern.conditional target yes no offset).Throughout condition) :
    yes.Throughout condition :=
  fun part member =>
    throughout part (List.mem_cons_of_mem _ (List.mem_append_left _ member))

theorem no {target : GroupRef} {yes no : Pattern} {offset : Nat}
    (throughout : (Pattern.conditional target yes no offset).Throughout condition) :
    no.Throughout condition :=
  fun part member =>
    throughout part (List.mem_cons_of_mem _ (List.mem_append_right _ member))

end Throughout

/-- A pattern is one of the patterns within it. -/
theorem mem_parts_self (pattern : Pattern) : pattern ∈ pattern.parts :=
  Throughout.self fun _ member => member

theorem parts_sublist {part whole : Pattern} (member : part ∈ whole.parts) :
    part.parts.Sublist whole.parts := by
  have all {patterns : List Pattern}
      (known : ∀ pattern ∈ patterns, part ∈ pattern.parts → part.parts.Sublist pattern.parts)
      (member : part ∈ partsOfAll patterns) : part.parts.Sublist (partsOfAll patterns) := by
    obtain ⟨pattern, listed, inside⟩ := mem_partsOfAll.mp member
    rw [partsOfAll_eq_flatMap]
    exact (known pattern listed inside).trans (List.sublist_flatten_of_mem
      (List.mem_map_of_mem listed))
  induction whole with
  | empty | char | assert | backReference =>
      obtain rfl := List.mem_singleton.mp member
      exact .refl _
  | group _ _ ih | repeated _ _ _ _ ih | atomic _ ih | lookAround _ _ _ _ ih =>
      rcases List.mem_cons.mp member with rfl | inside
      · exact .refl _
      · exact (ih inside).cons _
  | concat _ ih | alternation _ ih =>
      rcases List.mem_cons.mp member with rfl | inside
      · exact .refl _
      · exact (all ih inside).cons _
  | conditional target yes no offset yesIH noIH =>
      rcases List.mem_cons.mp member with rfl | inside
      · exact .refl _
      rcases List.mem_append.mp inside with inYes | inNo
      · exact ((yesIH inYes).trans (List.sublist_append_left ..)).cons _
      · exact ((noIH inNo).trans (List.sublist_append_right ..)).cons _

/-- The number of a capture group. -/
def groupIndex? : Pattern → Option Nat
  | .group index _ => some index
  | _ => none

/-- The numbers of the capture groups within a pattern, in the order of their opening
parentheses. -/
def groups (pattern : Pattern) : List Nat := pattern.parts.filterMap groupIndex?

def groupsOfAll (patterns : List Pattern) : List Nat :=
  (partsOfAll patterns).filterMap groupIndex?

@[simp]
theorem groupsOfAll_nil : groupsOfAll [] = [] := rfl

@[simp]
theorem groupsOfAll_cons (pattern : Pattern) (patterns : List Pattern) :
    groupsOfAll (pattern :: patterns) = pattern.groups ++ groupsOfAll patterns := by
  simp [groupsOfAll, groups, partsOfAll]

@[simp]
theorem groups_empty : Pattern.empty.groups = [] := rfl

@[simp]
theorem groups_group (index : Nat) (body : Pattern) :
    (Pattern.group index body).groups = index :: body.groups := by
  simp [groups, parts, groupIndex?]

@[simp]
theorem groups_repeated (body : Pattern) (least : Nat) (most : Option Nat) (mode : RepeatMode) :
    (Pattern.repeated body least most mode).groups = body.groups :=
  rfl

@[simp]
theorem groups_lookAround (direction : Direction) (negated : Bool) (body : Pattern)
    (offset : Nat) : (Pattern.lookAround direction negated body offset).groups = body.groups :=
  rfl

@[simp]
theorem groups_atomic (body : Pattern) : (Pattern.atomic body).groups = body.groups :=
  rfl

@[simp]
theorem groups_conditional (target : GroupRef) (yes no : Pattern) (offset : Nat) :
    (Pattern.conditional target yes no offset).groups = yes.groups ++ no.groups :=
  List.filterMap_append

theorem groups_subset_groupsOfAll {pattern : Pattern} {patterns : List Pattern}
    (member : pattern ∈ patterns) : pattern.groups ⊆ groupsOfAll patterns := by
  induction patterns with
  | nil => simp at member
  | cons first rest ih =>
      rw [groupsOfAll_cons]
      rcases List.mem_cons.mp member with rfl | later
      · exact List.subset_append_left ..
      · exact List.subset_append_of_subset_right _ (ih later)

theorem groups_branch_subset {pattern branch : Pattern} (member : branch ∈ pattern.branches) :
    branch.groups ⊆ pattern.groups := by
  cases pattern
  case alternation branches => exact groups_subset_groupsOfAll member
  all_goals
    obtain rfl := List.mem_singleton.mp member
    exact List.Subset.refl _

end Pattern

end Backtracking
