import Backtracking.Proofs.Emission
import Backtracking.Proofs.GroupDepths
import Backtracking.Proofs.LoopSimulation
import Backtracking.Proofs.NodeSimulation
import Backtracking.Proofs.SealedSimulation

/-!
# Simulation of patterns

The nodes of a pattern lead by the outcomes of the pattern to whatever follows them.  This takes no
more levels than a number that depends on the pattern and the size of the subject only.  So an
attempt with that many levels comes to an end, with the first outcome of the whole pattern.
-/

namespace Backtracking

namespace Pattern

mutual

/-- A bound on the levels that the nodes of a pattern take on a subject of some size. -/
def frames (size : Nat) : Pattern → Nat
  | .empty | .char _ | .assert _ | .backReference _ _ _ => 0
  | .group _ body => frames size body + 2
  | .concat items => framesOfAll size items
  | .alternation branches => framesOfAll size branches + 1
  | .repeated body least _ _ => 1 + (least + size + 2) * (frames size body + 2)
  | .lookAround _ _ body _ | .atomic body => frames size body + 1
  | .conditional _ yes no _ => frames size yes + frames size no

def framesOfAll (size : Nat) : List Pattern → Nat
  | [] => 0
  | pattern :: patterns => frames size pattern + framesOfAll size patterns

end

theorem frames_le_framesOfAll {size : Nat} {pattern : Pattern} {patterns : List Pattern}
    (member : pattern ∈ patterns) : pattern.frames size ≤ framesOfAll size patterns := by
  induction patterns with
  | nil => simp at member
  | cons first rest ih =>
      rw [framesOfAll]
      rcases List.mem_cons.mp member with rfl | later
      · exact Nat.le_add_right _ _
      · exact Nat.le_trans (ih later) (Nat.le_add_left _ _)

theorem frames_branch_le {size : Nat} {pattern branch : Pattern}
    (member : branch ∈ pattern.branches) : branch.frames size ≤ pattern.frames size := by
  cases pattern
  case alternation branches => exact Nat.le_succ_of_le (frames_le_framesOfAll member)
  all_goals
    obtain rfl := List.mem_singleton.mp member
    exact Nat.le_refl _

end Pattern

namespace Setting

open Matching

variable {setting : Setting} {parsed : ParsedPattern}

/-- What is known of the nodes of a pattern, wherever they are. -/
def Simulates (setting : Setting) (parsed : ParsedPattern) (pattern : Pattern) : Prop :=
  ∀ {slots depth : Nat} {entry next : NodeId},
    Encodes parsed setting.trial.program setting.sealing.loopDepth slots depth pattern entry next →
    pattern.Fits setting.origin.opened.size setting.sealing.groupDepth depth →
    setting.Leads depth pattern.groups slots (pattern.outcomes parsed setting.scene)
      (pattern.frames setting.subject.size) entry next

theorem leads_items {items : List Pattern} {slots depth : Nat} {pending : PendingText}
    {next : NodeId} (known : ∀ item ∈ items, Simulates setting parsed item)
    (encodes : EncodesItems parsed setting.trial.program setting.sealing.loopDepth slots depth items
      pending next)
    (fits : ∀ item ∈ items, item.Fits setting.origin.opened.size setting.sealing.groupDepth depth) :
    ∃ rest, Pattern.sequenceOutcomes parsed setting.scene items =
        (Matching.text setting.subject pending.ignoresCase pending.text).andThen rest ∧
      setting.Leads depth (Pattern.groupsOfAll items) slots rest
        (Pattern.framesOfAll setting.subject.size items) pending.next next := by
  induction items generalizing pending with
  | nil =>
      cases encodes
      exact ⟨.here, rfl, .here next⟩
  | cons item items ih =>
      have further {rest : PendingText} (encodes : EncodesItems parsed setting.trial.program
          setting.sealing.loopDepth slots depth items rest next) :=
        ih (fun other member => known other (by simp [member])) encodes
          (fun other member => fits other (by simp [member]))
      rw [Pattern.groupsOfAll_cons, Pattern.framesOfAll, Pattern.sequenceOutcomes]
      cases encodes with
      | item follows text encodes =>
          obtain ⟨rest, equal, leads⟩ := further follows
          have begins := known item (by simp) encodes (fits item (by simp))
          have continues := (Leads.pendingText text).andThen leads
          rw [← equal, Nat.zero_add] at continues
          refine ⟨_, (here_andThen _).symm, ?_⟩
          exact (begins.weaken (List.subset_append_left ..) (Nat.le_refl _) (Nat.le_refl _)).andThen
            (continues.weaken (List.subset_append_right ..) (Nat.le_refl _) (Nat.le_refl _))
      | @joined _ _ character _ pending ignoresCase _ follows alike =>
          obtain ⟨rest, equal, leads⟩ := further follows
          have same : Matching.text setting.subject pending.ignoresCase pending.text =
              Matching.text setting.subject ignoresCase pending.text := by
            rcases alike with empty | equal
            · rw [empty, text_nil, text_nil]
            · rw [equal]
          refine ⟨rest, ?_, leads.weaken (List.subset_append_right ..) (Nat.le_refl _)
            (Nat.le_add_left _ _)⟩
          rw [text_cons, andThen_assoc, ← same, ← equal]
          rfl
      | apart follows text =>
          obtain ⟨rest, equal, leads⟩ := further follows
          have continues := (Leads.pendingText text).andThen leads
          rw [← equal, Nat.zero_add] at continues
          refine ⟨_, ?_, continues.weaken (List.subset_append_right ..) (Nat.le_refl _)
            (Nat.le_add_left _ _)⟩
          rw [text_cons, text_nil, andThen_here]
          rfl

theorem leads_branches {branches : List Pattern} {slots depth : Nat} {entries : List NodeId}
    {next : NodeId} (known : ∀ branch ∈ branches, Simulates setting parsed branch)
    (encodes : EncodesBranches parsed setting.trial.program setting.sealing.loopDepth slots depth
      branches entries next)
    (fits : ∀ branch ∈ branches,
      branch.Fits setting.origin.opened.size setting.sealing.groupDepth depth) :
    ∃ paired : List (Matching × NodeId), paired.map Prod.snd = entries ∧
      choice paired = Pattern.choiceOutcomes parsed setting.scene branches ∧
      ∀ branch ∈ paired, setting.Leads depth (Pattern.groupsOfAll branches) slots branch.1
        (Pattern.framesOfAll setting.subject.size branches) branch.2 next := by
  induction branches generalizing entries with
  | nil =>
      cases encodes
      exact ⟨[], rfl, rfl, by simp⟩
  | cons branch branches ih =>
      cases encodes with
      | @cons _ _ _ _ entry _ entries encodes follows =>
          obtain ⟨paired, rfl, equal, leads⟩ :=
            ih (fun other member => known other (by simp [member])) follows
              (fun other member => fits other (by simp [member]))
          have begins := known branch (by simp) encodes (fits branch (by simp))
          refine ⟨(branch.outcomes parsed setting.scene, entry) :: paired, rfl, ?_, ?_⟩
          · rw [Pattern.choiceOutcomes, ← equal]
            rfl
          · rw [Pattern.groupsOfAll_cons, Pattern.framesOfAll]
            intro other member
            rcases List.mem_cons.mp member with rfl | later
            · exact begins.weaken (List.subset_append_left ..) (Nat.le_refl _)
                (Nat.le_add_right _ _)
            · exact (leads other later).weaken (List.subset_append_right ..) (Nat.le_refl _)
                (Nat.le_add_left _ _)

theorem leads_behind {body : Pattern} {branches : List Pattern} {slots depth : Nat}
    {entries : List (Nat × NodeId)} (within : branches ⊆ body.branches)
    (known : ∀ branch ∈ branches, Simulates setting parsed branch)
    (encodes : EncodesBehind parsed setting.trial.program setting.sealing.loopDepth slots depth
      branches entries)
    (fits : ∀ branch ∈ branches,
      branch.Fits setting.origin.opened.size setting.sealing.groupDepth depth) :
    ∃ paired : List ((Nat × NodeId) × Matching), paired.map Prod.fst = entries ∧
      choiceBehind paired = Pattern.outcomesBehind parsed setting.scene branches ∧
      ∀ branch ∈ paired, setting.Leads depth body.groups slots branch.2
        (body.frames setting.subject.size) branch.1.2 Program.done := by
  induction branches generalizing entries with
  | nil =>
      cases encodes
      exact ⟨[], rfl, rfl, by simp⟩
  | cons branch branches ih =>
      cases encodes with
      | @cons _ _ _ _ entry entries fixed encodes follows =>
          obtain ⟨paired, rfl, equal, leads⟩ :=
            ih (fun _ member => within (List.mem_cons_of_mem _ member))
              (fun other member => known other (by simp [member])) follows
              (fun other member => fits other (by simp [member]))
          have begins := known branch (by simp) encodes (fits branch (by simp))
          have inside : branch ∈ body.branches := within (by simp)
          refine ⟨((branch.width.least, entry), branch.outcomes parsed setting.scene) :: paired,
            rfl, ?_, ?_⟩
          · rw [Pattern.outcomesBehind, ← equal]
            rfl
          · intro other member
            rcases List.mem_cons.mp member with rfl | later
            · exact begins.weaken (Pattern.groups_branch_subset inside) (Nat.le_refl _)
                (Pattern.frames_branch_le inside)
            · exact leads other later

theorem repeated_simulates (done : setting.trial.program.Holds Program.done .done) {body : Pattern}
    (known : Simulates setting parsed body) (least : Nat) (most : Option Nat) (mode : RepeatMode) :
    Simulates setting parsed (.repeated body least most mode) := by
  intro slots depth entry next encodes fits
  obtain ⟨ordered, bodyFits⟩ := fits.repeated
  have advances := Pattern.outcomes_advances parsed setting.scene body
  have frames : body.frames setting.subject.size + 2 ≤
      (least + setting.subject.size + 2) * (body.frames setting.subject.size + 2) :=
    Nat.le_mul_of_pos_left _ (by omega)
  rw [Pattern.groups_repeated, Pattern.frames, Pattern.outcomes]
  cases encodes with
  | omitted =>
      obtain rfl := Nat.le_zero.mp (ordered 0 rfl)
      rw [repeated_zero]
      exact (Leads.here entry).weaken (List.Subset.refl _) (Nat.le_refl _) (Nat.zero_le _)
  | charRepeat order holds =>
      exact (Leads.charRepeat order holds ordered).weaken (List.Subset.refl _) (Nat.le_refl _)
        (Nat.le_add_right _ _)
  | possessive holds encodes =>
      rw [if_pos rfl] at bodyFits
      exact (Leads.possessive done holds advances (known encodes bodyFits)).weaken
        (List.Subset.refl _) (Nat.le_refl _) (by omega)
  | single gives encodes =>
      rw [if_neg gives] at bodyFits
      rw [repeated_once gives]
      exact (known encodes bodyFits).weaken (List.Subset.refl _) (Nat.le_refl _) (by omega)
  | optional gives order holds encodes =>
      rw [if_neg gives] at bodyFits
      rw [repeated_optional gives]
      have bodyLeads := known encodes bodyFits
      have nextLeads : setting.Leads depth body.groups slots .here
          (body.frames setting.subject.size) next next :=
        (Leads.here next).weaken (List.Subset.refl _) (Nat.le_refl _) (Nat.zero_le _)
      by_cases greedy : mode = .greedy
      · rw [if_pos greedy] at holds ⊢
        exact (Leads.either holds order bodyLeads nextLeads).weaken (List.Subset.refl _)
          (Nat.le_refl _) (by omega)
      · rw [if_neg greedy] at holds ⊢
        exact (Leads.either holds order.symm nextLeads bodyLeads).weaken (List.Subset.refl _)
          (Nat.le_refl _) (by omega)
  | loop gives fresh sealed holds closes encodes =>
      rw [if_neg gives] at bodyFits
      exact .loop gives advances holds closes fresh.1 sealed fresh.2 (known encodes bodyFits)

/-- The nodes of a pattern lead by its outcomes to what follows them. -/
theorem simulates (done : setting.trial.program.Holds Program.done .done) (pattern : Pattern) :
    Simulates setting parsed pattern := by
  induction pattern with
  | empty =>
      intro slots depth entry next encodes fits
      cases encodes
      exact .here entry
  | char matcher =>
      intro slots depth entry next encodes fits
      cases encodes with
      | char order holds => exact .char holds order
  | assert assertion =>
      intro slots depth entry next encodes fits
      cases encodes with
      | assert order holds => exact .assertion holds order
  | group index body ih =>
      intro slots depth entry next encodes fits
      obtain ⟨outside, inside, sealed, bodyFits⟩ := fits.group
      cases encodes with
      | group opens encodes closes =>
          rw [Pattern.groups_group]
          exact .capturing opens closes outside sealed inside (ih encodes bodyFits)
  | concat items ih =>
      intro slots depth entry next encodes fits
      cases encodes with
      | concat encodes text =>
          obtain ⟨rest, equal, leads⟩ := leads_items ih encodes fits.items
          have follows := (Leads.pendingText text).andThen leads
          rw [← equal, Nat.zero_add] at follows
          exact follows
  | alternation branches ih =>
      intro slots depth entry next encodes fits
      cases encodes with
      | alternation order holds encodes =>
          obtain ⟨paired, rfl, equal, leads⟩ := leads_branches ih encodes fits.branches
          have chooses := Leads.choice holds
            (fun branch member => order branch.2 (List.mem_map_of_mem member)) leads
          rw [equal] at chooses
          exact chooses
  | repeated body least most mode ih => exact repeated_simulates done ih least most mode
  | lookAround direction negated body offset ih branchIH =>
      intro slots depth entry next encodes fits
      cases encodes with
      | lookAhead order holds encodes =>
          exact .lookAhead done order holds (ih encodes fits.lookAround)
      | lookBehind order holds encodes =>
          obtain ⟨paired, rfl, equal, leads⟩ :=
            leads_behind (List.Subset.refl _) branchIH encodes fits.lookAround.branchesOf
          rw [Pattern.outcomes_behind, ← equal]
          exact .lookBehind done order holds leads
  | atomic body ih =>
      intro slots depth entry next encodes fits
      cases encodes with
      | atomic holds encodes =>
          exact .atomic done holds (Pattern.outcomes_advances parsed setting.scene body)
            (ih encodes fits.atomic)
  | backReference target ignoresCase offset =>
      intro slots depth entry next encodes fits
      cases encodes with
      | backReference named order holds =>
          rw [Pattern.outcomes, named]
          exact .backReference holds order
  | conditional target yes no offset yesIH noIH =>
      intro slots depth entry next encodes fits
      obtain ⟨fitsYes, fitsNo⟩ := fits.conditional
      cases encodes with
      | conditional named order holds encodesYes encodesNo =>
          rw [Pattern.outcomes, named, Pattern.groups_conditional]
          exact .conditional holds order
            ((yesIH encodesYes fitsYes).weaken (List.subset_append_left ..) (Nat.le_refl _)
              (Nat.le_refl _))
            ((noIH encodesNo fitsNo).weaken (List.subset_append_right ..) (Nat.le_refl _)
              (Nat.le_refl _))

end Setting

end Backtracking
