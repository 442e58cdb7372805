import Backtracking.Proofs.BuiltPatterns
import Backtracking.Proofs.ProgramShape
import Mathlib.Algebra.Group.Nat.Defs

/-!
# The size of programs

A character of a pattern pays for two nodes and for one loop slot.  Only a loop and any line end
need as much as that: a loop has a head and a tail for the one character of its quantifier, and the
two characters of any line end stand for four nodes.  The numbers of a quantifier make no difference
to the size of a program.  Neither a literal nor the text that all matches begin with is longer than
the pattern.
-/

namespace Backtracking

/-! ## Bounds by what a pattern is built from -/

namespace Built

/-- A bound that grows with what a pattern is built from. -/
structure Bounds (bounded : Nat → Pattern → Prop) : Prop where
  weaken : ∀ {less length pattern}, bounded less pattern → less ≤ length → bounded length pattern
  empty : bounded 0 .empty
  char : ∀ matcher, bounded 1 (.char matcher)
  assert : ∀ assertion, bounded 1 (.assert assertion)
  backReference : ∀ target ignoresCase offset,
    bounded 1 (.backReference target ignoresCase offset)
  anyLineEnd : bounded 2 Reader.anyLineEnd
  group : ∀ {length body} index, bounded length body → bounded (length + 2) (.group index body)
  concat : ∀ {length items}, All bounded length items → bounded length (.concat items)
  alternation : ∀ {length branches}, All bounded length branches →
    bounded (length + 1) (.alternation branches)
  repeated : ∀ {length body} least most mode, bounded length body →
    bounded (length + 1) (.repeated body least most mode)
  lookAround : ∀ {length body} direction negated offset, bounded length body →
    bounded (length + 2) (.lookAround direction negated body offset)
  atomic : ∀ {length body}, bounded length body → bounded (length + 2) (.atomic body)
  conditional : ∀ {length more yes no} target offset, bounded length yes → bounded more no →
    bounded (length + more + 1) (.conditional target yes no offset)

theorem All.imp {α : Type} {built weaker : Nat → α → Prop}
    (implies : ∀ length value, built length value → weaker length value) {length : Nat}
    {values : List α} (all : All built length values) : All weaker length values := by
  induction all with
  | nil => exact .nil
  | cons first _ ih => exact .cons (implies _ _ first) ih

/-- Branches share the characters that are left beside the bars between them. -/
def Shared (bounded : Nat → Pattern → Prop) (length : Nat) (branches : List Pattern) : Prop :=
  branches ≠ [] ∧ ∃ less, All bounded less branches ∧ less + branches.length ≤ length + 1

section Bounds

variable {bounded : Nat → Pattern → Prop} (bounds : Bounds bounded)
include bounds

theorem Bounds.sequence {length : Nat} {items : List Pattern} (all : All bounded length items) :
    bounded length (Pattern.sequence items) := by
  match items with
  | [] => exact bounds.weaken bounds.empty (Nat.zero_le _)
  | [item] => exact all.of_one
  | first :: second :: rest => exact bounds.concat all

theorem Bounds.choice {length : Nat} {branches : List Pattern}
    (shared : Shared bounded length branches) : bounded length (Pattern.choice branches) := by
  obtain ⟨nonempty, less, all, le⟩ := shared
  match branches with
  | [] => exact absurd rfl nonempty
  | [branch] => exact bounds.weaken all.of_one (by simpa using le)
  | first :: second :: rest =>
      refine bounds.weaken (bounds.alternation all) ?_
      simp only [List.length_cons] at le
      omega

variable {enclosed : Nat → List Pattern → Prop}
  (shared : ∀ length branches, enclosed length branches → Shared bounded length branches)
include shared

theorem Bounds.atom {length : Nat} {atom : Pattern} (built : Atom enclosed length atom) :
    bounded length atom := by
  cases built with
  | char matcher => exact bounds.char matcher
  | assert assertion => exact bounds.assert assertion
  | backReference target ignoresCase offset =>
      exact bounds.backReference target ignoresCase offset
  | anyLineEnd => exact bounds.anyLineEnd
  | group index inside => exact bounds.group index (bounds.choice (shared _ _ inside))
  | scope inside => exact bounds.weaken (bounds.choice (shared _ _ inside)) (by omega)
  | lookAround direction negated offset inside =>
      exact bounds.lookAround direction negated offset (bounds.choice (shared _ _ inside))
  | atomic inside => exact bounds.atomic (bounds.choice (shared _ _ inside))
  | ifOnly target offset inside =>
      have yes := bounds.choice (shared _ _ inside)
      exact bounds.weaken (bounds.conditional target offset yes bounds.empty) (by omega)
  | ifElse target offset inside =>
      obtain ⟨-, less, all, le⟩ := shared _ _ inside
      simp only [List.length_cons, List.length_nil] at le
      cases all with
      | cons yes rest =>
          exact bounds.weaken (bounds.conditional target offset yes rest.of_one) (by omega)

theorem Bounds.piece {length : Nat} {piece : Pattern} (built : Piece enclosed length piece) :
    bounded length piece := by
  cases built with
  | once atom => exact bounds.atom shared atom
  | repeated atom least most mode =>
      exact bounds.repeated least most mode (bounds.atom shared atom)

theorem Bounds.branches {length : Nat} {branches : List Pattern}
    (built : Branches enclosed length branches) : Shared bounded length branches := by
  have sequence {length : Nat} {items : List Pattern} (pieces : All (Piece enclosed) length items) :
      bounded length (Pattern.sequence items) :=
    bounds.sequence (pieces.imp fun _ _ piece => bounds.piece shared piece)
  induction built with
  | last pieces => exact ⟨by simp, _, .one (sequence pieces), by simp⟩
  | bar pieces _ ih =>
      obtain ⟨-, less, all, le⟩ := ih
      refine ⟨by simp, _, .cons (sequence pieces) all, ?_⟩
      rw [List.length_cons]
      omega

end Bounds

end Built

theorem Built.shared {bounded : Nat → Pattern → Prop} (bounds : Bounds bounded)
    {depth length : Nat} {branches : List Pattern} (built : Built depth length branches) :
    Shared bounded length branches := by
  induction depth generalizing length branches with
  | zero => exact bounds.branches (fun _ _ impossible => impossible.elim) built
  | succ depth ih => exact bounds.branches (fun _ _ => ih) built

/-- A bound holds of a pattern that was read, with the length of its text. -/
theorem ParsedPattern.bounded_of_parseWithin {bounded : Nat → Pattern → Prop}
    (bounds : Built.Bounds bounded) {limit : Nat} {text : List Char} {flags : Flags}
    {parsed : ParsedPattern} (read : parseWithin limit text flags = .ok parsed) :
    bounded text.length parsed.pattern := by
  obtain ⟨length, branches, built, le, equal⟩ := parseWithin_built read
  rw [equal]
  exact bounds.weaken (bounds.choice (built.shared bounds)) le

/-! ## Leading texts -/

/-- The text that all matches begin with is no longer than what the pattern is built from. -/
theorem Pattern.leading_bounds :
    Built.Bounds fun length pattern => pattern.leading.text.length ≤ length where
  weaken := Nat.le_trans
  empty := Nat.le_refl 0
  char matcher := by
    cases matcher <;> simp [leading]
  assert _ := Nat.zero_le 1
  backReference _ _ _ := Nat.zero_le 1
  anyLineEnd := Nat.zero_le 2
  group index known := Nat.le_add_right_of_le known
  concat := by
    intro length items all
    show (sequenceLeading items).text.length ≤ length
    induction all with
    | nil => exact Nat.le_refl 0
    | cons first _ ih =>
        rw [sequenceLeading]
        dsimp only
        split
        · rw [List.length_append]
          exact Nat.add_le_add first ih
        · exact Nat.le_add_right_of_le first
  alternation _ := Nat.zero_le _
  repeated least most mode known := by
    rw [leading]
    split
    · exact Nat.le_succ_of_le known
    · exact Nat.zero_le _
  lookAround _ _ _ _ := Nat.zero_le _
  atomic known := Nat.le_add_right_of_le known
  conditional _ _ _ _ := Nat.zero_le _

/-! ## Nodes and slots -/

/-- The number of characters in the text of a literal. -/
def Node.letters : Node → Nat
  | .literal text _ _ => text.length
  | _ => 0

namespace Emitter

/-- What is added between two states of the emitter is paid for by so many characters. -/
structure Spends (length : Nat) (before after : Emitter) : Prop where
  nodes_le : after.nodes.size ≤ before.nodes.size + 2 * length
  slots_le : after.loopSlots ≤ before.loopSlots + length
  letters_le : ∀ node ∈ after.nodes, node ∈ before.nodes ∨ node.letters ≤ length

namespace Spends

variable {length less more : Nat} {before middle after : Emitter}

theorem refl (emitter : Emitter) : Spends 0 emitter emitter :=
  ⟨Nat.le_refl _, Nat.le_refl _, fun _ => .inl⟩

theorem weaken (spends : Spends less before after) (le : less ≤ length) :
    Spends length before after where
  nodes_le := Nat.le_trans spends.nodes_le (by omega)
  slots_le := Nat.le_trans spends.slots_le (by omega)
  letters_le node member := (spends.letters_le node member).imp_right (Nat.le_trans · le)

theorem trans (begins : Spends length before middle) (follows : Spends more middle after) :
    Spends (length + more) before after where
  nodes_le := by
    have first := begins.nodes_le
    have second := follows.nodes_le
    omega
  slots_le := by
    have first := begins.slots_le
    have second := follows.slots_le
    omega
  letters_le node member := by
    rcases follows.letters_le node member with earlier | short
    · exact (begins.letters_le node earlier).imp_right (Nat.le_add_right_of_le ·)
    · exact .inr (Nat.le_add_left_of_le short)

theorem pushed {node : Node} (positive : 0 < more) (short : node.letters ≤ more) :
    Spends more before { before with nodes := before.nodes.push node } where
  nodes_le := by
    rw [Array.size_push]
    omega
  slots_le := Nat.le_add_right _ _
  letters_le other member := by
    rcases Array.mem_push.mp member with earlier | rfl
    · exact .inl earlier
    · exact .inr short

/-- The quantifier of a loop pays for its head, its tail and its slot. -/
theorem loop {least : Nat} {most : Option Nat} {greedy : Bool} {next start waiting : NodeId}
    (body : Spends length (looping before least most greedy next waiting) middle) :
    Spends (length + 1) before (looped before middle least most greedy next start) where
  nodes_le := by
    have added := body.nodes_le
    rw [size_looping] at added
    rw [looped, Array.size_setIfInBounds]
    omega
  slots_le := by
    have added : middle.loopSlots ≤ before.loopSlots + 1 + length := body.slots_le
    dsimp only [looped]
    omega
  letters_le node member := by
    rcases Array.mem_or_eq_of_mem_setIfInBounds member with earlier | rfl
    · rcases body.letters_le node earlier with first | short
      · rcases Array.mem_push.mp first with first | rfl
        · rcases Array.mem_push.mp first with first | rfl
          · exact .inl first
          · exact .inr (Nat.zero_le _)
        · exact .inr (Nat.zero_le _)
      · exact .inr (Nat.le_succ_of_le short)
    · exact .inr (Nat.zero_le _)

end Spends

end Emitter

namespace Emitting

open Built Emitter

variable {parsed : ParsedPattern} {length : Nat} {before middle : Emitter} {patterns : List Pattern}

/-- So many characters pay for what a pattern adds. -/
def Costs (parsed : ParsedPattern) (length : Nat) (pattern : Pattern) : Prop :=
  ∀ (next : NodeId) (before : Emitter),
    Ensures (Emitting.pattern parsed pattern next) before fun _ after => before.Spends length after

/-- They also pay for the branches on their own, which are what a lookbehind adds. -/
structure CostsAnywhere (parsed : ParsedPattern) (length : Nat) (pattern : Pattern) : Prop where
  whole : Costs parsed length pattern
  branches : ∃ less ≤ length, All (Costs parsed) less pattern.branches

theorem Costs.anywhere {pattern : Pattern} (costs : Costs parsed length pattern)
    (single : pattern.branches = [pattern]) : CostsAnywhere parsed length pattern :=
  ⟨costs, length, Nat.le_refl _, single ▸ .one costs⟩

theorem push_spends {node : Node} (spends : before.Spends length middle) {more : Nat}
    (positive : 0 < more) (short : node.letters ≤ more) :
    Ensures (push node) middle fun _ after => before.Spends (length + more) after := by
  refine (push_ensures node middle).weaken ?_
  rintro _ _ ⟨-, rfl⟩
  exact spends.trans (.pushed positive short)

theorem push_one {node : Node} (spends : before.Spends length middle) (short : node.letters = 0) :
    Ensures (push node) middle fun _ after => before.Spends (length + 1) after :=
  push_spends spends Nat.one_pos (by omega)

theorem flush_spends (pending : PendingText) (spends : before.Spends length middle) :
    Ensures pending.flush middle fun _ after =>
      before.Spends (length + pending.text.length) after := by
  obtain ⟨text, ignoresCase, next⟩ := pending
  match text with
  | [] => exact .pure spends
  | [character] => exact push_one spends rfl
  | first :: second :: rest => exact push_spends spends (Nat.succ_pos _) (Nat.le_refl _)

/-- What is pending is paid for by its own characters. -/
theorem prepend_spends {pending : PendingText} {spent : Nat} (character : Char) (ignoresCase : Bool)
    (spends : before.Spends spent middle) (enough : spent + pending.text.length < length) :
    Ensures (pending.prepend character ignoresCase) middle fun extended after =>
      ∃ spent, before.Spends spent after ∧ spent + extended.text.length ≤ length := by
  unfold PendingText.prepend
  split
  · exact .pure ⟨spent, spends, enough⟩
  · exact (flush_spends pending spends).bind fun _ _ spends => .pure ⟨_, spends, enough⟩

theorem Costs.char_pos {matcher : CharMatcher} (costs : Costs parsed length (.char matcher)) :
    0 < length := by
  have added := (costs Program.done {} 1 _ rfl).nodes_le
  simp only [Array.size_push, List.size_toArray, List.length_singleton] at added
  omega

theorem sequence_spends (costs : All (Costs parsed) length patterns) (next : NodeId)
    (before : Emitter) :
    Ensures (Emitting.sequence parsed patterns next) before fun pending after =>
      ∃ spent, before.Spends spent after ∧ spent + pending.text.length ≤ length := by
  induction costs with
  | nil => exact .pure ⟨0, .refl before, Nat.le_refl 0⟩
  | cons first _ ih =>
      refine ih.bind ?_
      rintro pending middle ⟨spent, spends, enough⟩
      split
      · have positive := first.char_pos
        exact prepend_spends _ false spends (by omega)
      · have positive := first.char_pos
        exact prepend_spends _ true spends (by omega)
      · refine (flush_spends pending spends).bind fun flushed rest spends => ?_
        refine (first flushed rest).bind fun entry after follows => .pure ⟨_, spends.trans follows, ?_⟩
        simp only [List.length_nil]
        omega

theorem alternatives_spends (costs : All (Costs parsed) length patterns) (next : NodeId)
    (before : Emitter) :
    Ensures (Emitting.alternatives parsed patterns next) before fun _ after =>
      before.Spends length after := by
  induction costs generalizing before with
  | nil => exact .pure (.refl before)
  | cons first _ ih =>
      refine (first next before).bind fun entry middle spends => ?_
      exact (ih middle).bind fun entries after follows => .pure (spends.trans follows)

theorem measured_spends (costs : All (Costs parsed) length patterns) (offset : Nat)
    (before : Emitter) :
    Ensures (Emitting.measured parsed patterns offset) before fun _ after =>
      before.Spends length after := by
  induction costs generalizing before with
  | nil => exact .pure (.refl before)
  | cons first _ ih =>
      refine (branchWidth_ensures _ offset before).bind ?_
      rintro width _ ⟨-, -, rfl⟩
      refine (first Program.done _).bind fun entry middle spends => ?_
      exact (ih middle).bind fun entries after follows => .pure (spends.trans follows)

/-- The nodes of any line end are made of a literal, a set, the choice between them and the atomic
part around it. -/
theorem anyLineEnd_costs : Costs parsed 2 Reader.anyLineEnd := by
  intro next before entry after succeeds
  have nodes : after = { before with
      nodes := (((before.nodes.push (.literal ['\r', '\n'] false Program.done)).push
        (.char (.set (CharSet.ofRanges NamedClass.verticalSpace false false)) Program.done)).push
        (.alternation [before.nodes.size, before.nodes.size + 1])).push
        (.atomic (before.nodes.size + 2) next) } := by
    have run : (Emitting.pattern parsed Reader.anyLineEnd next).run before = _ := rfl
    rw [run] at succeeds
    cases succeeds
    simp
  subst nodes
  refine ⟨by simp, Nat.le_add_right _ _, fun node member => ?_⟩
  simp only [Array.mem_push] at member
  rcases member with ((((earlier | rfl) | rfl) | rfl) | rfl)
  · exact .inl earlier
  all_goals exact .inr (by simp [Node.letters])

theorem repeated_costs {body : Pattern} (costs : Costs parsed length body) (least : Nat)
    (most : Option Nat) (mode : RepeatMode) :
    Costs parsed (length + 1) (.repeated body least most mode) := by
  intro next before
  simp only [Emitting.pattern]
  split
  · exact .pure ((Spends.refl before).weaken (Nat.zero_le _))
  split
  · exact (push_one (.refl before) rfl).weaken fun _ _ spends => spends.weaken (by omega)
  split
  · exact (costs _ before).bind fun entry middle spends => push_one spends rfl
  split
  · exact (costs next before).weaken fun _ _ spends => spends.weaken (Nat.le_succ _)
  split
  · exact (costs next before).bind fun entry middle spends => push_one spends rfl
  · refine (newSlot_makes before).bind ?_
    rintro _ _ ⟨rfl, rfl⟩
    refine (push_ensures _ _).bind ?_
    rintro _ _ ⟨rfl, rfl⟩
    refine (push_ensures _ _).bind ?_
    rintro _ _ ⟨rfl, rfl⟩
    refine (costs _ (looping before least most (mode = .greedy) next Program.unset)).bind
      fun entry middle spends => ?_
    refine (replace_ensures _ _ middle).bind ?_
    rintro _ _ rfl
    exact .pure spends.loop

/-- Two parentheses pay for the node around a pattern that ends on its own. -/
theorem enclosed_spends {body : Pattern} (costs : Costs parsed length body) {around : NodeId → Node}
    (short : ∀ entry, (around entry).letters = 0) (before : Emitter) :
    Ensures (Emitting.pattern parsed body Program.done >>= fun entry => push (around entry)) before
      fun _ after => before.Spends (length + 2) after :=
  (costs Program.done before).bind fun entry _ spends =>
    (push_one spends (short entry)).weaken fun _ _ spends => spends.weaken (Nat.le_succ _)

/-- The characters from which a pattern is built pay for its nodes and slots. -/
theorem costs_bounds : Built.Bounds (CostsAnywhere parsed) where
  weaken := by
    rintro less length pattern ⟨whole, share, within, branches⟩ le
    exact ⟨fun next before => (whole next before).weaken fun _ _ spends => spends.weaken le,
      share, Nat.le_trans within le, branches⟩
  empty := Costs.anywhere (fun next before => .pure (.refl before)) rfl
  char matcher := Costs.anywhere
    (fun next before => push_spends (.refl before) Nat.one_pos (Nat.zero_le 1)) rfl
  assert assertion := Costs.anywhere
    (fun next before => push_spends (.refl before) Nat.one_pos (Nat.zero_le 1)) rfl
  backReference target ignoresCase offset := by
    refine Costs.anywhere (fun next before => ?_) rfl
    refine (resolve_ensures parsed target offset before).bind ?_
    rintro group _ ⟨-, rfl⟩
    exact push_spends (.refl _) Nat.one_pos (Nat.zero_le 1)
  anyLineEnd := anyLineEnd_costs.anywhere rfl
  group index costs := by
    refine Costs.anywhere (fun next before => ?_) rfl
    refine (push_one (.refl before) rfl).bind fun stop closed closes => ?_
    refine (costs.whole stop closed).bind fun start middle spends => ?_
    exact (push_one (closes.trans spends) rfl).weaken fun _ _ spends => spends.weaken (by omega)
  concat all := by
    refine Costs.anywhere (fun next before => ?_) rfl
    refine (sequence_spends (all.imp fun _ _ costs => costs.whole) next before).bind ?_
    rintro pending middle ⟨spent, spends, enough⟩
    exact (flush_spends pending spends).weaken fun _ _ spends => spends.weaken enough
  alternation {length branches} all := by
    have costs : All (Costs parsed) length branches := all.imp fun _ _ costs => costs.whole
    refine ⟨fun next before => ?_, length, Nat.le_succ _, costs⟩
    exact (alternatives_spends costs next before).bind fun entries middle spends =>
      push_one spends rfl
  repeated least most mode costs :=
    (repeated_costs costs.whole least most mode).anywhere rfl
  lookAround {length body} direction negated offset costs := by
    refine Costs.anywhere (fun next before => ?_) rfl
    cases direction with
    | ahead => exact enclosed_spends costs.whole (fun _ => rfl) before
    | behind =>
        obtain ⟨less, le, branches⟩ := costs.branches
        rw [pattern_behind]
        refine (measured_spends branches offset before).bind fun entries middle spends => ?_
        exact (push_one spends rfl).weaken fun _ _ spends => spends.weaken (by omega)
  atomic costs :=
    Costs.anywhere (fun _ before => enclosed_spends costs.whole (fun _ => rfl) before) rfl
  conditional target offset yes no := by
    refine Costs.anywhere (fun next before => ?_) rfl
    refine (resolve_ensures parsed target offset before).bind ?_
    rintro group _ ⟨-, rfl⟩
    refine (yes.whole next _).bind fun yesEntry middle spends => ?_
    refine (no.whole next middle).bind fun noEntry rest follows => ?_
    exact push_one (spends.trans follows) rfl

end Emitting

/-- The text of a pattern pays for all nodes of its program but the first one. -/
theorem Program.ofPattern_spends {limit : Nat} {text : List Char} {flags : Flags}
    {parsed : ParsedPattern} {program : Program}
    (read : ParsedPattern.parseWithin limit text flags = .ok parsed)
    (made : ofPattern parsed = .ok program) :
    ({} : Emitter).Spends text.length ⟨program.nodes, program.loopSlots⟩ := by
  have costs : Emitting.CostsAnywhere parsed text.length parsed.pattern :=
    ParsedPattern.bounded_of_parseWithin Emitting.costs_bounds read
  rw [ofPattern] at made
  cases run : (Emitting.pattern parsed parsed.pattern done).run {} with
  | error error =>
      rw [run] at made
      cases made
  | ok result =>
      rw [run] at made
      cases made
      exact costs.whole done {} result.1 result.2 run

/-! ## Numbers of nodes -/

namespace Program

/-- The number of a node as 32 bits hold it. -/
def word (id : NodeId) : UInt32 := .ofNat id

/-- 32 bits hold all numbers of nodes, tell them apart from each other and from what stands for a
missing node, and nothing is named but nodes. -/
structure FitsWords (program : Program) : Prop where
  exact : ∀ id < program.size, (word id).toNat = id
  distinct : ∀ first < program.size, ∀ second < program.size, word first = word second →
    first = second
  set : ∀ id < program.size, word id ≠ word unset
  start_lt : program.start < program.size
  targets_lt : ∀ id node, program.Holds id node → ∀ target ∈ node.targets, target < program.size

theorem WellFormed.fitsWords {program : Program} {groupCount : Nat}
    (wellFormed : program.WellFormed groupCount) (small : program.size ≤ unset) :
    program.FitsWords := by
  have exact {id : Nat} (inside : id < program.size + 1) : (word id).toNat = id := by
    have room : Nat.succ unset = 2 ^ 32 := rfl
    rw [word, UInt32.toNat_ofNat', Nat.mod_eq_of_lt (by omega)]
  have held : (word unset).toNat = unset := rfl
  refine ⟨fun id inside => exact (Nat.lt_succ_of_lt inside), ?_, ?_, wellFormed.start_lt,
    fun id node holds => (wellFormed.sound id node holds).targets_lt⟩
  · intro first firstInside second secondInside same
    have numbers := congrArg UInt32.toNat same
    rwa [exact (Nat.lt_succ_of_lt firstInside), exact (Nat.lt_succ_of_lt secondInside)] at numbers
  · intro id inside same
    have numbers := congrArg UInt32.toNat same
    rw [exact (Nat.lt_succ_of_lt inside), held] at numbers
    omega

end Program

namespace Regexp

/-- The program of an accepted pattern has two nodes for each character and one more at most, and a
loop slot for each character at most.  So 32 bits hold the numbers of its nodes if the pattern is
shorter than half of what they count. -/
theorem compile_linear {text : List Char} {flags : Flags} {regexp : Regexp}
    (compiles : compile text flags = .ok regexp) :
    regexp.program.size ≤ 2 * text.length + 1 ∧ regexp.program.loopSlots ≤ text.length ∧
      (text.length < 2 ^ 31 → regexp.program.FitsWords) := by
  obtain ⟨parsed, parses, compiled⟩ := exists_compiledFrom compiles
  have spends := Program.ofPattern_spends parses compiled.made
  have nodes : regexp.program.size ≤ 1 + 2 * text.length := spends.nodes_le
  have slots : regexp.program.loopSlots ≤ 0 + text.length := spends.slots_le
  refine ⟨by omega, by omega, fun short => ?_⟩
  have room : Nat.succ Program.unset = 2 ^ 32 := rfl
  exact (Program.ofPattern_wellFormed compiled.numbered compiled.made).fitsWords (by omega)

/-- There are patterns whose programs are as large as that: `\R*` has seven nodes. -/
theorem compile_line_ends_linear :
    ∃ regexp, compile ['\\', 'R', '*'] {} = .ok regexp ∧ regexp.program.size = 2 * 3 + 1 ∧
      regexp.program.loopSlots = 1 ∧ regexp.program.FitsWords := by
  have measured : (compile ['\\', 'R', '*'] {}).toOption.any (fun regexp =>
      regexp.program.size == 7 && regexp.program.loopSlots == 1) = true := by
    decide +kernel
  obtain ⟨regexp, compiles, sizes⟩ := exists_of_toOption_any measured
  simp only [Bool.and_eq_true, beq_iff_eq] at sizes
  exact ⟨regexp, compiles, sizes.1, sizes.2, (compile_linear compiles).2.2 (by decide)⟩

end Regexp

end Backtracking
