import Backtracking.Proofs.Compilation

/-!
# The shape of programs

A program can be executed without looking for anything that it does not hold.  Its nodes name nodes
of it, groups of the pattern and slots that are reserved; no two loops share a slot; the end of an
iteration leads to the head of a loop; and what is gone on with at the same level has a lesser
number, so that this comes to an end.

The nodes are made from the end of the pattern to its beginning, so a node names those that were
made before it.  Only the head of a loop waits for the node of its body.
-/

namespace Backtracking

namespace Node

/-- The nodes that a node names. -/
def targets : Node → List NodeId
  | .done => []
  | .char _ next | .literal _ _ next | .assert _ next | .groupStart _ next | .groupEnd _ next
  | .backReference _ _ next | .charRepeat _ _ _ _ next => [next]
  | .alternation alternatives => alternatives
  | .loopHead _ _ _ _ body next | .possessive body _ _ next | .atomic body next
  | .lookAhead body _ next => [body, next]
  | .loopTail head => [head]
  | .lookBehind branches _ next => branches.map Prod.snd ++ [next]
  | .conditional _ yes no => [yes, no]

/-- The nodes with which a node goes on at the same level. -/
def continuations : Node → List NodeId
  | .char _ next | .literal _ _ next | .assert _ next | .backReference _ _ next
  | .charRepeat _ _ _ _ next | .lookAhead _ _ next | .lookBehind _ _ next => [next]
  | .alternation alternatives => alternatives
  | .conditional _ yes no => [yes, no]
  | _ => []

/-- The groups that a node asks about or writes down. -/
def groups : Node → List Nat
  | .groupStart group _ | .groupEnd group _ | .backReference group _ _ | .conditional group _ _ =>
      [group]
  | _ => []

/-- The slot of a loop, at its head. -/
def slot? : Node → Option Nat
  | .loopHead slot _ _ _ _ _ => some slot
  | _ => none

/-- The head of a loop, at the end of an iteration. -/
def tail? : Node → Option NodeId
  | .loopTail head => some head
  | _ => none

/-- The node of a number is the head of a loop. -/
def HeadAt (nodes : Array Node) (id : NodeId) : Prop :=
  ∃ node slot, nodes[id]? = some node ∧ node.slot? = some slot

/-- A node that may stand at some place among others: it names nodes and groups that exist, and
lesser nodes where it goes on at the same level.  If it ends an iteration, it leads to the head of a
loop. -/
structure Sound (groupCount : Nat) (nodes : Array Node) (id : NodeId) (node : Node) : Prop where
  targets_lt : ∀ target ∈ node.targets, target < nodes.size
  continuations_lt : ∀ next ∈ node.continuations, next < id
  groups_within : ∀ group ∈ node.groups, 1 ≤ group ∧ group ≤ groupCount
  head : ∀ head, node.tail? = some head → HeadAt nodes head

theorem continuations_subset (node : Node) : node.continuations ⊆ node.targets := by
  cases node <;> simp [continuations, targets]

/-- A node stays sound if nodes are added, and heads of loops stay heads of loops. -/
theorem Sound.grown {groupCount : Nat} {nodes more : Array Node} {id : NodeId} {node : Node}
    (sound : node.Sound groupCount nodes id) (size_le : nodes.size ≤ more.size)
    (heads : ∀ head, HeadAt nodes head → HeadAt more head) : node.Sound groupCount more id where
  targets_lt target member := Nat.lt_of_lt_of_le (sound.targets_lt target member) size_le
  continuations_lt := sound.continuations_lt
  groups_within := sound.groups_within
  head head leads := heads head (sound.head head leads)

end Node

/-- A program whose nodes are sound, and whose loops have slots of their own. -/
structure Program.WellFormed (program : Program) (groupCount : Nat) : Prop where
  start_lt : program.start < program.size
  sound : ∀ id node, program.Holds id node → node.Sound groupCount program.nodes id
  slots_lt : ∀ id node slot, program.Holds id node → node.slot? = some slot →
    slot < program.loopSlots
  slots_distinct : ∀ first second node other slot, program.Holds first node →
    program.Holds second other → node.slot? = some slot → other.slot? = some slot → first = second

/-- In a program whose nodes have lesser numbers, nothing names what stands for a missing node. -/
theorem Program.WellFormed.unset_absent {program : Program} {groupCount : Nat}
    (wellFormed : program.WellFormed groupCount) (small : program.size ≤ unset) :
    program.start ≠ unset ∧ ∀ id node, program.Holds id node → unset ∉ node.targets := by
  have lesser {target : NodeId} (inside : target < program.size) : target ≠ unset :=
    Nat.ne_of_lt (Nat.lt_of_lt_of_le inside small)
  exact ⟨lesser wellFormed.start_lt, fun id node holds member =>
    lesser ((wellFormed.sound id node holds).targets_lt unset member) rfl⟩

namespace Emitter

/-- All that is added between two states of the emitter is sound, and loops take slots that were
reserved in between, each one its own. -/
structure Adds (groupCount : Nat) (before after : Emitter) : Prop extends before.Grows after where
  sound : ∀ id node, before.nodes.size ≤ id → after.nodes[id]? = some node →
    node.Sound groupCount after.nodes id
  slots_between : ∀ id node slot, before.nodes.size ≤ id → after.nodes[id]? = some node →
    node.slot? = some slot → before.loopSlots ≤ slot ∧ slot < after.loopSlots
  slots_distinct : ∀ first second node other slot, before.nodes.size ≤ first →
    before.nodes.size ≤ second → after.nodes[first]? = some node →
    after.nodes[second]? = some other → node.slot? = some slot → other.slot? = some slot →
    first = second

variable {groupCount : Nat} {first second third before middle after : Emitter}

theorem Grows.headAt (grows : before.Grows after) {head : NodeId}
    (isHead : Node.HeadAt before.nodes head) : Node.HeadAt after.nodes head := by
  obtain ⟨node, slot, found, takes⟩ := isHead
  exact ⟨node, slot, (grows.kept head (Array.getElem?_eq_some_iff.mp found).1).trans found, takes⟩

theorem Adds.refl (emitter : Emitter) : emitter.Adds groupCount emitter := by
  have absent {id : NodeId} {node : Node} (behind : emitter.nodes.size ≤ id)
      (found : emitter.nodes[id]? = some node) : False :=
    absurd (Array.getElem?_eq_some_iff.mp found).1 (Nat.not_lt_of_le behind)
  exact ⟨.refl emitter, fun _ _ behind found => (absent behind found).elim,
    fun _ _ _ behind found => (absent behind found).elim,
    fun _ _ _ _ _ behind _ found => (absent behind found).elim⟩

theorem Adds.trans (begins : first.Adds groupCount second)
    (follows : second.Adds groupCount third) : first.Adds groupCount third := by
  -- A node was added in the first stretch and kept since, or it was added in the second.
  have either {id : NodeId} {node : Node} (found : third.nodes[id]? = some node) :
      second.nodes[id]? = some node ∨ second.nodes.size ≤ id := by
    rcases Nat.lt_or_ge id second.nodes.size with early | late
    · exact .inl (follows.kept id early ▸ found)
    · exact .inr late
  refine ⟨begins.toGrows.trans follows.toGrows, ?_, ?_, ?_⟩
  · intro id node behind found
    rcases either found with early | late
    · exact (begins.sound id node behind early).grown follows.size_le
        fun _ => follows.toGrows.headAt
    · exact follows.sound id node late found
  · intro id node slot behind found takes
    have firstSlots := begins.slots_le
    have secondSlots := follows.slots_le
    rcases either found with early | late
    · have bounds := begins.slots_between id node slot behind early takes
      omega
    · have bounds := follows.slots_between id node slot late found takes
      omega
  · intro one two node other slot oneBehind twoBehind oneFound twoFound oneTakes twoTakes
    rcases either oneFound with oneEarly | oneLate <;>
      rcases either twoFound with twoEarly | twoLate
    · exact begins.slots_distinct one two node other slot oneBehind twoBehind oneEarly twoEarly
        oneTakes twoTakes
    · have oneBounds := begins.slots_between one node slot oneBehind oneEarly oneTakes
      have twoBounds := follows.slots_between two other slot twoLate twoFound twoTakes
      omega
    · have oneBounds := follows.slots_between one node slot oneLate oneFound oneTakes
      have twoBounds := begins.slots_between two other slot twoBehind twoEarly twoTakes
      omega
    · exact follows.slots_distinct one two node other slot oneLate twoLate oneFound twoFound
        oneTakes twoTakes

theorem adds_push {node : Node} (targets : ∀ target ∈ node.targets, target < before.nodes.size)
    (within : ∀ group ∈ node.groups, 1 ≤ group ∧ group ≤ groupCount)
    (slotless : node.slot? = none) (tailless : node.tail? = none) :
    before.Adds groupCount { before with nodes := before.nodes.push node } := by
  have added {id : NodeId} {other : Node} (behind : before.nodes.size ≤ id)
      (found : (before.nodes.push node)[id]? = some other) :
      id = before.nodes.size ∧ other = node := by
    have inside := (Array.getElem?_eq_some_iff.mp found).1
    rw [Array.size_push] at inside
    obtain rfl := Nat.le_antisymm (Nat.le_of_lt_succ inside) behind
    rw [Array.getElem?_push_size] at found
    exact ⟨rfl, (Option.some.inj found).symm⟩
  refine ⟨⟨by simp, Nat.le_refl _, fun id inside => ?_⟩, ?_, ?_, ?_⟩
  · simp [Array.getElem?_push, Nat.ne_of_lt inside]
  · intro id other behind found
    obtain ⟨rfl, rfl⟩ := added behind found
    refine ⟨fun target member => ?_, fun next member => ?_, within, fun head leads => ?_⟩
    · rw [Array.size_push]
      exact Nat.lt_succ_of_lt (targets target member)
    · exact targets next (other.continuations_subset member)
    · rw [tailless] at leads
      cases leads
  · intro id other slot behind found takes
    obtain ⟨-, rfl⟩ := added behind found
    rw [slotless] at takes
    cases takes
  · intro one two other another slot behind _ found _ takes
    obtain ⟨-, rfl⟩ := added behind found
    rw [slotless] at takes
    cases takes

/-! ### Loops

A loop is made of a head that waits for the body, a tail that leads to the head, and the body that
was made in front of the tail; then the head is replaced. -/

section Loop

variable {least : Nat} {most : Option Nat} {greedy : Bool} {next start waiting : NodeId}

/-- The state of the emitter before the body of a loop is made. -/
def looping (before : Emitter) (least : Nat) (most : Option Nat) (greedy : Bool)
    (next waiting : NodeId) : Emitter where
  nodes := (before.nodes.push (.loopHead before.loopSlots least most greedy waiting next)).push
    (.loopTail before.nodes.size)
  loopSlots := before.loopSlots + 1

/-- The state of the emitter behind a loop whose body was made. -/
def looped (before middle : Emitter) (least : Nat) (most : Option Nat) (greedy : Bool)
    (next start : NodeId) : Emitter :=
  { middle with
    nodes := middle.nodes.setIfInBounds before.nodes.size
      (.loopHead before.loopSlots least most greedy start next) }

theorem size_looping :
    (looping before least most greedy next waiting).nodes.size = before.nodes.size + 2 := by
  simp [looping]

theorem looped_other {id : Nat} (different : before.nodes.size ≠ id) :
    (looped before middle least most greedy next start).nodes[id]? = middle.nodes[id]? :=
  Array.getElem?_setIfInBounds_ne different

section Grows

variable (grows : (looping before least most greedy next waiting).Grows middle)
include grows

theorem looped_head :
    (looped before middle least most greedy next start).nodes[before.nodes.size]? =
      some (.loopHead before.loopSlots least most greedy start next) := by
  have larger := grows.size_le
  rw [size_looping] at larger
  exact Array.getElem?_setIfInBounds_self_of_lt (by omega)

theorem looped_early {id : Nat} (early : id < before.nodes.size) :
    (looped before middle least most greedy next start).nodes[id]? = before.nodes[id]? := by
  have kept := grows.kept id (by rw [size_looping]; omega)
  rw [looped_other (by omega), kept, looping, Array.getElem?_push, if_neg (by simp; omega),
    Array.getElem?_push, if_neg (by omega)]

/-- What was added with a loop is the head, the tail, or a part of the body. -/
theorem looped_cases {id : Nat} {node : Node} (behind : before.nodes.size ≤ id)
    (found : (looped before middle least most greedy next start).nodes[id]? = some node) :
    (id = before.nodes.size ∧ node = .loopHead before.loopSlots least most greedy start next) ∨
    (id = before.nodes.size + 1 ∧ node = .loopTail before.nodes.size) ∨
    ((looping before least most greedy next waiting).nodes.size ≤ id ∧
      middle.nodes[id]? = some node) := by
  rw [size_looping]
  rcases Nat.lt_trichotomy id (before.nodes.size + 1) with early | rfl | late
  · obtain rfl : id = before.nodes.size := by omega
    rw [looped_head grows] at found
    exact .inl ⟨rfl, (Option.some.inj found).symm⟩
  · have kept := grows.kept (before.nodes.size + 1) (by rw [size_looping]; omega)
    rw [looped_other (by omega), kept, looping, Array.getElem?_push, if_pos (by simp)] at found
    exact .inr (.inl ⟨rfl, (Option.some.inj found).symm⟩)
  · rw [looped_other (by omega)] at found
    exact .inr (.inr ⟨late, found⟩)

end Grows

theorem adds_loop (adds : (looping before least most greedy next waiting).Adds groupCount middle)
    (inside : next < before.nodes.size) (startInside : start < middle.nodes.size) :
    before.Adds groupCount (looped before middle least most greedy next start) := by
  have grows := adds.toGrows
  have larger := grows.size_le
  have slots_le : before.loopSlots + 1 ≤ middle.loopSlots := grows.slots_le
  rw [size_looping] at larger
  have size_eq : (looped before middle least most greedy next start).nodes.size =
      middle.nodes.size := Array.size_setIfInBounds
  have headed : Node.HeadAt (looped before middle least most greedy next start).nodes
      before.nodes.size := ⟨_, _, looped_head grows, rfl⟩
  refine ⟨⟨by omega, Nat.le_of_succ_le slots_le, fun id => looped_early grows⟩, ?_, ?_, ?_⟩
  · intro id node behind found
    rcases looped_cases grows behind found with ⟨rfl, rfl⟩ | ⟨rfl, rfl⟩ | ⟨late, held⟩
    · refine ⟨?_, by simp [Node.continuations], by simp [Node.groups], by simp [Node.tail?]⟩
      have nextInside : next < middle.nodes.size := Nat.lt_of_lt_of_le inside (by omega)
      simp [Node.targets, size_eq, startInside, nextInside]
    · refine ⟨?_, by simp [Node.continuations], by simp [Node.groups], ?_⟩
      · have placed : before.nodes.size < middle.nodes.size := by omega
        simpa [Node.targets, size_eq] using placed
      · rintro head ⟨⟩
        exact headed
    · refine (adds.sound id node late held).grown (Nat.le_of_eq size_eq.symm) fun head isHead => ?_
      by_cases same : before.nodes.size = head
      · exact same ▸ headed
      · obtain ⟨target, slot, held, takes⟩ := isHead
        exact ⟨target, slot, (looped_other same).trans held, takes⟩
  · intro id node slot behind found takes
    rcases looped_cases grows behind found with ⟨rfl, rfl⟩ | ⟨rfl, rfl⟩ | ⟨late, held⟩
    · obtain rfl : before.loopSlots = slot := Option.some.inj takes
      exact ⟨Nat.le_refl _, slots_le⟩
    · cases takes
    · have bounds := adds.slots_between id node slot late held takes
      exact ⟨Nat.le_of_succ_le bounds.1, bounds.2⟩
  · intro first second node other slot firstBehind secondBehind firstFound secondFound firstTakes
      secondTakes
    have later {id : Nat} {node : Node} (late : (looping before least most greedy next
        waiting).nodes.size ≤ id) (held : middle.nodes[id]? = some node)
        (takes : node.slot? = some slot) : before.loopSlots ≠ slot :=
      Nat.ne_of_lt (adds.slots_between id node slot late held takes).1
    rcases looped_cases grows firstBehind firstFound with ⟨rfl, rfl⟩ | ⟨rfl, rfl⟩ | ⟨late, held⟩ <;>
      rcases looped_cases grows secondBehind secondFound with
        ⟨rfl, rfl⟩ | ⟨rfl, rfl⟩ | ⟨lateToo, heldToo⟩
    · rfl
    · cases secondTakes
    · exact absurd (Option.some.inj firstTakes) (later lateToo heldToo secondTakes)
    · cases firstTakes
    · cases firstTakes
    · cases firstTakes
    · exact absurd (Option.some.inj secondTakes) (later late held firstTakes)
    · cases secondTakes
    · exact adds.slots_distinct first second node other slot late lateToo held heldToo firstTakes
        secondTakes

end Loop

end Emitter

namespace Emitting

open Emitter Pattern

theorem push_ensures (node : Node) (before : Emitter) :
    Ensures (push node) before fun entry after =>
      entry = before.nodes.size ∧ after = { before with nodes := before.nodes.push node } := by
  intro entry after succeeds
  cases succeeds
  exact ⟨rfl, rfl⟩

theorem push_adds {groupCount : Nat} {before middle : Emitter} {node : Node}
    (adds : before.Adds groupCount middle)
    (targets : ∀ target ∈ node.targets, target < middle.nodes.size)
    (within : ∀ group ∈ node.groups, 1 ≤ group ∧ group ≤ groupCount)
    (slotless : node.slot? = none) (tailless : node.tail? = none) :
    Ensures (push node) middle fun entry after =>
      entry < after.nodes.size ∧ before.Adds groupCount after := by
  refine (push_ensures node middle).weaken ?_
  rintro _ _ ⟨rfl, rfl⟩
  exact ⟨by simp, adds.trans (adds_push targets within slotless tailless)⟩

/-- What is known of the groups that a part of a pattern names. -/
def NamesGroups (parsed : ParsedPattern) : Pattern → Prop
  | .group index _ => 1 ≤ index ∧ index ≤ parsed.groupCount
  | .backReference target _ _ | .conditional target _ _ _ =>
      ∀ group, parsed.group? target = some group → 1 ≤ group ∧ group ≤ parsed.groupCount
  | _ => True

variable {parsed : ParsedPattern}

/-- The nodes of a pattern are added soundly, in front of any node that exists already. -/
def AddsPattern (parsed : ParsedPattern) (pattern : Pattern) : Prop :=
  ∀ (next : NodeId) (before : Emitter), next < before.nodes.size →
    Ensures (Emitting.pattern parsed pattern next) before fun entry after =>
      entry < after.nodes.size ∧ before.Adds parsed.groupCount after

theorem flush_adds (pending : PendingText) {groupCount : Nat} {before middle : Emitter}
    (adds : before.Adds groupCount middle) (inside : pending.next < middle.nodes.size) :
    Ensures pending.flush middle fun entry after =>
      entry < after.nodes.size ∧ before.Adds groupCount after := by
  unfold PendingText.flush
  split
  · exact .pure ⟨inside, adds⟩
  · exact push_adds adds (by simpa [Node.targets] using inside) (by simp [Node.groups]) rfl rfl
  · exact push_adds adds (by simpa [Node.targets] using inside) (by simp [Node.groups]) rfl rfl

theorem prepend_adds (pending : PendingText) (character : Char) (ignoresCase : Bool)
    {groupCount : Nat} {before middle : Emitter} (adds : before.Adds groupCount middle)
    (inside : pending.next < middle.nodes.size) :
    Ensures (pending.prepend character ignoresCase) middle fun extended after =>
      extended.next < after.nodes.size ∧ before.Adds groupCount after := by
  unfold PendingText.prepend
  split
  · exact .pure ⟨inside, adds⟩
  · exact (flush_adds pending adds inside).bind fun _ _ flushed => .pure flushed

section Lists

variable {patterns : List Pattern}

theorem sequence_adds (known : ∀ item ∈ patterns, AddsPattern parsed item) (next : NodeId)
    {before : Emitter} (inside : next < before.nodes.size) :
    Ensures (Emitting.sequence parsed patterns next) before fun pending after =>
      pending.next < after.nodes.size ∧ before.Adds parsed.groupCount after := by
  induction patterns with
  | nil => exact .pure ⟨inside, .refl before⟩
  | cons item items ih =>
      refine Ensures.bind (ih fun other member => known other (by simp [member])) ?_
      rintro pending middle ⟨pendingInside, adds⟩
      split
      · next character => exact prepend_adds pending character false adds pendingInside
      · next character => exact prepend_adds pending character true adds pendingInside
      · refine Ensures.bind (flush_adds pending adds pendingInside) ?_
        rintro flushed rest ⟨flushedInside, adds⟩
        refine Ensures.bind (known item (by simp) flushed rest flushedInside) ?_
        rintro entry after ⟨entryInside, follows⟩
        exact .pure ⟨entryInside, adds.trans follows⟩

theorem alternatives_adds (known : ∀ branch ∈ patterns, AddsPattern parsed branch)
    (next : NodeId) {before : Emitter} (inside : next < before.nodes.size) :
    Ensures (Emitting.alternatives parsed patterns next) before fun entries after =>
      (∀ entry ∈ entries, entry < after.nodes.size) ∧ before.Adds parsed.groupCount after := by
  induction patterns generalizing before with
  | nil => exact .pure ⟨by simp, .refl before⟩
  | cons branch branches ih =>
      refine Ensures.bind (known branch (by simp) next before inside) ?_
      rintro entry middle ⟨entryInside, adds⟩
      refine Ensures.bind (ih (fun other member => known other (by simp [member]))
        (Nat.lt_of_lt_of_le inside adds.size_le)) ?_
      rintro entries after ⟨entriesInside, follows⟩
      refine .pure ⟨List.forall_mem_cons.mpr ⟨?_, entriesInside⟩, adds.trans follows⟩
      exact Nat.lt_of_lt_of_le entryInside follows.size_le

theorem measured_adds (known : ∀ branch ∈ patterns, AddsPattern parsed branch) (offset : Nat)
    {before : Emitter} (inside : Program.done < before.nodes.size) :
    Ensures (Emitting.measured parsed patterns offset) before fun entries after =>
      (∀ entry ∈ entries, entry.2 < after.nodes.size) ∧ before.Adds parsed.groupCount after := by
  induction patterns generalizing before with
  | nil => exact .pure ⟨by simp, .refl before⟩
  | cons branch branches ih =>
      refine Ensures.bind (branchWidth_ensures branch offset before) ?_
      rintro width _ ⟨-, -, rfl⟩
      refine Ensures.bind (known branch (by simp) _ _ inside) ?_
      rintro entry middle ⟨entryInside, adds⟩
      refine Ensures.bind (ih (fun other member => known other (by simp [member]))
        (Nat.lt_of_lt_of_le inside adds.size_le)) ?_
      rintro entries after ⟨entriesInside, follows⟩
      refine .pure ⟨List.forall_mem_cons.mpr ⟨?_, entriesInside⟩, adds.trans follows⟩
      exact Nat.lt_of_lt_of_le entryInside follows.size_le

end Lists

theorem repeated_adds {body : Pattern} (known : AddsPattern parsed body) (least : Nat)
    (most : Option Nat) (mode : RepeatMode) :
    AddsPattern parsed (.repeated body least most mode) := by
  intro next before inside
  have start : Program.done < before.nodes.size := Nat.zero_lt_of_lt inside
  simp only [Emitting.pattern]
  split
  · exact .pure ⟨inside, .refl before⟩
  split
  · exact push_adds (.refl before) (by simpa [Node.targets] using inside) (by simp [Node.groups])
      rfl rfl
  split
  · refine Ensures.bind (known _ before start) ?_
    rintro entry middle ⟨entryInside, adds⟩
    have nextInside := Nat.lt_of_lt_of_le inside adds.size_le
    exact push_adds adds (by simp [Node.targets, entryInside, nextInside]) (by simp [Node.groups])
      rfl rfl
  split
  · exact known next before inside
  split
  · refine Ensures.bind (known next before inside) ?_
    rintro entry middle ⟨entryInside, adds⟩
    have nextInside := Nat.lt_of_lt_of_le inside adds.size_le
    refine push_adds adds ?_ (by simp [Node.groups]) rfl rfl
    split <;> simp [Node.targets, entryInside, nextInside]
  · refine Ensures.bind (newSlot_makes before) ?_
    rintro _ _ ⟨rfl, rfl⟩
    refine Ensures.bind (push_ensures _ _) ?_
    rintro _ _ ⟨rfl, rfl⟩
    refine Ensures.bind (push_ensures _ _) ?_
    rintro _ _ ⟨rfl, rfl⟩
    refine Ensures.bind (known _ (looping before least most (mode = .greedy) next Program.unset)
      (by simp [looping])) ?_
    rintro entry middle ⟨entryInside, adds⟩
    refine Ensures.bind (replace_ensures _ _ middle) ?_
    rintro _ _ rfl
    have loop := adds_loop adds inside entryInside
    exact .pure ⟨(Array.getElem?_eq_some_iff.mp (looped_head adds.toGrows)).1, loop⟩

theorem pattern_adds (pattern : Pattern) (names : pattern.Throughout (NamesGroups parsed)) :
    AddsPattern parsed pattern := by
  induction pattern with
  | empty => exact fun next before inside => .pure ⟨inside, .refl before⟩
  | char matcher =>
      exact fun next before inside => push_adds (.refl before)
        (by simpa [Node.targets] using inside) (by simp [Node.groups]) rfl rfl
  | assert assertion =>
      exact fun next before inside => push_adds (.refl before)
        (by simpa [Node.targets] using inside) (by simp [Node.groups]) rfl rfl
  | group index body ih =>
      intro next before inside
      have within : ∀ group ∈ [index], 1 ≤ group ∧ group ≤ parsed.groupCount := by
        simpa [NamesGroups] using names.self
      refine Ensures.bind (push_adds (.refl before) (by simpa [Node.targets] using inside) within
        rfl rfl) ?_
      rintro stop closed ⟨stopInside, closes⟩
      refine Ensures.bind (ih names.group stop closed stopInside) ?_
      rintro start middle ⟨startInside, adds⟩
      exact push_adds (closes.trans adds) (by simpa [Node.targets] using startInside) within rfl
        rfl
  | concat items ih =>
      intro next before inside
      refine Ensures.bind (sequence_adds (fun item member => ih item member (names.item member))
        next inside) ?_
      rintro pending middle ⟨pendingInside, adds⟩
      exact flush_adds pending adds pendingInside
  | alternation branches ih =>
      intro next before inside
      refine Ensures.bind (alternatives_adds
        (fun branch member => ih branch member (names.branch member)) next inside) ?_
      rintro entries middle ⟨entriesInside, adds⟩
      exact push_adds adds entriesInside (by simp [Node.groups]) rfl rfl
  | repeated body least most mode ih => exact repeated_adds (ih names.repeated) least most mode
  | lookAround direction negated body offset ih branchIH =>
      intro next before inside
      have start : Program.done < before.nodes.size := Nat.zero_lt_of_lt inside
      cases direction with
      | ahead =>
          refine Ensures.bind (ih names.lookAround _ before start) ?_
          rintro entry middle ⟨entryInside, adds⟩
          have nextInside := Nat.lt_of_lt_of_le inside adds.size_le
          exact push_adds adds (by simp [Node.targets, entryInside, nextInside])
            (by simp [Node.groups]) rfl rfl
      | behind =>
          rw [pattern_behind]
          refine Ensures.bind (measured_adds (fun branch member =>
            branchIH branch member (names.lookAround.ofBranches member)) offset start) ?_
          rintro entries middle ⟨entriesInside, adds⟩
          have nextInside := Nat.lt_of_lt_of_le inside adds.size_le
          refine push_adds adds ?_ (by simp [Node.groups]) rfl rfl
          intro target member
          rcases List.mem_append.mp member with branch | last
          · obtain ⟨entry, listed, rfl⟩ := List.mem_map.mp branch
            exact entriesInside entry listed
          · exact List.mem_singleton.mp last ▸ nextInside
  | atomic body ih =>
      intro next before inside
      refine Ensures.bind (ih names.atomic _ before (Nat.zero_lt_of_lt inside)) ?_
      rintro entry middle ⟨entryInside, adds⟩
      have nextInside := Nat.lt_of_lt_of_le inside adds.size_le
      exact push_adds adds (by simp [Node.targets, entryInside, nextInside])
        (by simp [Node.groups]) rfl rfl
  | backReference target ignoresCase offset =>
      intro next before inside
      refine Ensures.bind (resolve_ensures parsed target offset before) ?_
      rintro group _ ⟨named, rfl⟩
      have within : ∀ other ∈ [group], 1 ≤ other ∧ other ≤ parsed.groupCount := by
        simpa using names.self group named
      exact push_adds (.refl _) (by simpa [Node.targets] using inside) within rfl rfl
  | conditional target yes no offset yesIH noIH =>
      intro next before inside
      refine Ensures.bind (resolve_ensures parsed target offset before) ?_
      rintro group _ ⟨named, rfl⟩
      have within : ∀ other ∈ [group], 1 ≤ other ∧ other ≤ parsed.groupCount := by
        simpa using names.self group named
      refine Ensures.bind (yesIH names.yes next _ inside) ?_
      rintro yesEntry middle ⟨yesInside, adds⟩
      refine Ensures.bind
        (noIH names.no next middle (Nat.lt_of_lt_of_le inside adds.size_le)) ?_
      rintro noEntry rest ⟨noInside, follows⟩
      have order := Nat.lt_of_lt_of_le yesInside follows.size_le
      exact push_adds (adds.trans follows) (by simp [Node.targets, order, noInside]) within rfl
        rfl

end Emitting

namespace ParsedPattern

variable {parsed : ParsedPattern}

/-- A reference other than to the whole match names one of the groups. -/
theorem group?_bounds {target : GroupRef} (legal : target ≠ .number 0) {group : Nat}
    (named : parsed.group? target = some group) : 1 ≤ group ∧ group ≤ parsed.groupCount := by
  cases target with
  | number number =>
      rw [group?] at named
      split at named
      · next exist =>
          cases named
          exact ⟨Nat.one_le_iff_ne_zero.mpr fun zero => legal (zero ▸ rfl), exist⟩
      · cases named
  | name name =>
      obtain ⟨index, found, rfl⟩ := Option.map_eq_some_iff.mp named
      have inside := (Array.findIdx?_eq_some_iff_getElem.mp found).1
      exact ⟨Nat.succ_pos index, inside⟩

theorem Numbered.namesGroups (numbered : parsed.Numbered) :
    parsed.pattern.Throughout (Emitting.NamesGroups parsed) := by
  intro part member
  have legal := numbered.legal part member
  cases part
  case group index body =>
    have number : index ∈ parsed.pattern.groups := List.mem_filterMap.mpr ⟨_, member, rfl⟩
    rw [numbered.groups_eq, List.mem_range'_1] at number
    exact ⟨number.1, by omega⟩
  case backReference target ignoresCase offset => exact fun group => group?_bounds legal
  case conditional target yes no offset => exact fun group => group?_bounds legal
  all_goals trivial

end ParsedPattern

/-- The program of a pattern is well-formed. -/
theorem Program.ofPattern_wellFormed {parsed : ParsedPattern} {program : Program}
    (numbered : parsed.Numbered) (made : Program.ofPattern parsed = .ok program) :
    program.WellFormed parsed.groupCount := by
  rw [Program.ofPattern] at made
  cases run : (Emitting.pattern parsed parsed.pattern Program.done).run {} with
  | error error =>
      rw [run] at made
      cases made
  | ok result =>
      obtain ⟨start, emitter⟩ := result
      rw [run] at made
      cases made
      obtain ⟨startInside, adds⟩ := Emitting.pattern_adds parsed.pattern numbered.namesGroups
        Program.done {} Nat.zero_lt_one start emitter run
      have first : emitter.nodes[0]? = some .done := adds.kept 0 Nat.zero_lt_one
      have either {id : NodeId} {node : Node} (holds : emitter.nodes[id]? = some node) :
          node = .done ∨ 1 ≤ id := by
        rcases Nat.eq_zero_or_pos id with rfl | positive
        · exact .inl (Option.some.inj (holds.symm.trans first))
        · exact .inr positive
      refine ⟨startInside, fun id node holds => ?_, fun id node slot holds takes => ?_,
        fun one two node other slot holds holdsToo takes takesToo => ?_⟩
      · rcases either holds with rfl | behind
        · constructor <;> simp [Node.targets, Node.continuations, Node.groups, Node.tail?]
        · exact adds.sound id node behind holds
      · rcases either holds with rfl | behind
        · cases takes
        · exact (adds.slots_between id node slot behind holds takes).2
      · rcases either holds with rfl | behind
        · cases takes
        rcases either holdsToo with rfl | behindToo
        · cases takesToo
        · exact adds.slots_distinct one two node other slot behind behindToo holds holdsToo takes
            takesToo

end Backtracking
