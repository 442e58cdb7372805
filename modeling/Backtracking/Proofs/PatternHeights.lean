import Backtracking.Proofs.BuiltPatterns

/-!
# The height of patterns

A pattern is no higher than its parentheses are nested, up to a factor.  Each pair of them adds four
levels at most: the group itself, its repetition, the sequence in which it stands, and the choice of
which the sequence is a branch.  A repetition is never repeated without parentheses between, however
many quantifiers a text holds.
-/

namespace Backtracking

namespace Pattern

mutual

/-- The height of the tree of a pattern, where a leaf has height one. -/
def height : Pattern → Nat
  | .empty | .char _ | .assert _ | .backReference _ _ _ => 1
  | .group _ body | .repeated body _ _ _ | .lookAround _ _ body _ | .atomic body => height body + 1
  | .concat items => heightOfAll items + 1
  | .alternation branches => heightOfAll branches + 1
  | .conditional _ yes no _ => max (height yes) (height no) + 1

/-- The greatest height of some patterns, or zero if there are none. -/
def heightOfAll : List Pattern → Nat
  | [] => 0
  | pattern :: patterns => max (height pattern) (heightOfAll patterns)

end

variable {patterns : List Pattern} {bound : Nat}

theorem heightOfAll_le_iff :
    heightOfAll patterns ≤ bound ↔ ∀ pattern ∈ patterns, pattern.height ≤ bound := by
  induction patterns with
  | nil => simp [heightOfAll]
  | cons pattern patterns ih => rw [heightOfAll, Nat.max_le, ih, List.forall_mem_cons]

theorem height_le_heightOfAll {pattern : Pattern} (member : pattern ∈ patterns) :
    pattern.height ≤ heightOfAll patterns :=
  heightOfAll_le_iff.mp (Nat.le_refl _) pattern member

theorem height_pos (pattern : Pattern) : 0 < pattern.height := by
  cases pattern <;> exact Nat.succ_pos _

theorem height_branch_le {pattern branch : Pattern} (member : branch ∈ pattern.branches) :
    branch.height ≤ pattern.height := by
  cases pattern
  case alternation choices => exact Nat.le_succ_of_le (height_le_heightOfAll member)
  all_goals
    obtain rfl := List.mem_singleton.mp member
    exact Nat.le_refl _

theorem height_sequence_le (low : ∀ pattern ∈ patterns, pattern.height ≤ bound) :
    (sequence patterns).height ≤ bound + 1 := by
  match patterns with
  | [] => exact Nat.succ_le_succ (Nat.zero_le bound)
  | [item] => exact Nat.le_succ_of_le (low item (by simp))
  | first :: second :: rest => exact Nat.succ_le_succ (heightOfAll_le_iff.mpr low)

theorem height_choice_le (low : ∀ pattern ∈ patterns, pattern.height ≤ bound) :
    (choice patterns).height ≤ bound + 1 := by
  match patterns with
  | [] => exact Nat.succ_le_succ (Nat.zero_le bound)
  | [branch] => exact Nat.le_succ_of_le (low branch (by simp))
  | first :: second :: rest => exact Nat.succ_le_succ (heightOfAll_le_iff.mpr low)

end Pattern

/-! ## What parentheses add -/

namespace Built

theorem All.exists_built {α : Type} {built : Nat → α → Prop} {length : Nat} {values : List α}
    (all : All built length values) : ∀ value ∈ values, ∃ share, built share value := by
  induction all with
  | nil => simp
  | cons first _ ih => exact List.forall_mem_cons.mpr ⟨⟨_, first⟩, ih⟩

section Enclosed

variable {enclosed : Nat → List Pattern → Prop} {bound length : Nat}
  (inside : ∀ length branches, enclosed length branches →
    ∀ branch ∈ branches, branch.height ≤ bound)
include inside

theorem Atom.height_le (enough : 2 ≤ bound) {atom : Pattern} (built : Atom enclosed length atom) :
    atom.height ≤ bound + 2 := by
  have leaf : 1 ≤ bound + 2 := by omega
  have body {length : Nat} {branches : List Pattern} (known : enclosed length branches) :
      (Pattern.choice branches).height ≤ bound + 1 :=
    Pattern.height_choice_le (inside length branches known)
  cases built with
  | char matcher => exact leaf
  | assert assertion => exact leaf
  | backReference target ignoresCase offset => exact leaf
  | anyLineEnd => exact Nat.add_le_add_right enough 2
  | group index known => exact Nat.succ_le_succ (body known)
  | scope known => exact Nat.le_succ_of_le (body known)
  | lookAround direction negated offset known => exact Nat.succ_le_succ (body known)
  | atomic known => exact Nat.succ_le_succ (body known)
  | ifOnly target offset known =>
      have yes := inside _ _ known _ (List.mem_singleton.mpr rfl)
      simp only [Pattern.height]
      omega
  | ifElse target offset known =>
      have both := inside _ _ known
      have yes := both _ (List.mem_cons_self ..)
      have no := both _ (List.mem_cons_of_mem _ (List.mem_singleton.mpr rfl))
      simp only [Pattern.height]
      omega

/-- What is repeated is an atom, never a repetition. -/
theorem Piece.height_le (enough : 2 ≤ bound) {piece : Pattern}
    (built : Piece enclosed length piece) : piece.height ≤ bound + 3 := by
  cases built with
  | once atom => exact Nat.le_succ_of_le (atom.height_le inside enough)
  | repeated atom least most mode => exact Nat.succ_le_succ (atom.height_le inside enough)

theorem Branches.height_le (enough : 2 ≤ bound) {branches : List Pattern}
    (built : Branches enclosed length branches) :
    ∀ branch ∈ branches, branch.height ≤ bound + 4 := by
  have sequence {length : Nat} {items : List Pattern} (pieces : All (Piece enclosed) length items) :
      (Pattern.sequence items).height ≤ bound + 4 := by
    refine Pattern.height_sequence_le fun item member => ?_
    obtain ⟨share, piece⟩ := pieces.exists_built item member
    exact piece.height_le inside enough
  induction built with
  | last pieces => exact List.forall_mem_singleton.mpr (sequence pieces)
  | bar pieces _ ih => exact List.forall_mem_cons.mpr ⟨sequence pieces, ih⟩

end Enclosed

end Built

/-- The induction is on the depth of the parentheses: without any, a branch has height six at most,
and what a pair of them adds is the same at each depth. -/
theorem Built.height_le {depth length : Nat} {branches : List Pattern}
    (built : Built depth length branches) :
    ∀ branch ∈ branches, branch.height ≤ 4 * depth + 6 := by
  induction depth generalizing length branches with
  | zero => exact Branches.height_le (fun _ _ impossible => impossible.elim) (Nat.le_refl 2) built
  | succ depth ih => exact Branches.height_le (fun _ _ => ih) (Nat.le_add_left 2 _) built

/-- The nesting of parentheses in a text bounds the height of its pattern. -/
theorem ParsedPattern.height_le_of_parseWithin {limit : Nat} {text : List Char} {flags : Flags}
    {parsed : ParsedPattern} (read : parseWithin limit text flags = .ok parsed) :
    parsed.pattern.height ≤ 4 * limit + 7 := by
  obtain ⟨length, branches, built, -, equal⟩ := parseWithin_built read
  rw [equal]
  exact Pattern.height_choice_le built.height_le

end Backtracking
