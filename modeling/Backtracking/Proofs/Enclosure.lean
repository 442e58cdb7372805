import Backtracking.Proofs.ProgramShape

/-!
# Parts that are tried on their own

The body of an atomic part, of a possessive repetition or of a lookaround is executed on its own,
and is complete at the first node of the program.  Its nodes stand together, right in front of the
node that tries it, and there is no other way out of them.  So while such a body is executed, the
node that tries it is not executed again.
-/

namespace Backtracking

namespace Node

/-- The nodes at which the parts begin that a node tries on their own. -/
def bodies : Node → List NodeId
  | .possessive body _ _ _ | .atomic body _ | .lookAhead body _ _ => [body]
  | .lookBehind branches _ _ => branches.map Prod.snd
  | _ => []

/-- A node tries nothing on its own. -/
def isPlain : Node → Bool
  | .possessive _ _ _ _ | .atomic _ _ | .lookAhead _ _ _ | .lookBehind _ _ _ => false
  | _ => true

/-- A node is the first one of the program, or lies between two others. -/
def DoneOrBetween (first last id : Nat) : Prop :=
  id = Program.done ∨ (first ≤ id ∧ id < last)

/-- The nodes between two others lead to each other and to the first node of the program only. -/
def Closed (nodes : Array Node) (first last : Nat) : Prop :=
  ∀ id node, first ≤ id → id < last → nodes[id]? = some node →
    ∀ target ∈ node.targets, DoneOrBetween first last target

/-- The parts that a node tries on their own stand in front of it, behind some node, and cannot be
left. -/
def Encloses (nodes : Array Node) (start id : Nat) (node : Node) : Prop :=
  ∃ first, start ≤ first ∧ Closed nodes first id ∧
    ∀ body ∈ node.bodies, DoneOrBetween first id body

variable {nodes more : Array Node} {start id : Nat} {node : Node}

theorem bodies_subset (node : Node) : node.bodies ⊆ node.targets := by
  cases node <;> simp [bodies, targets]

theorem bodies_of_isPlain (plain : node.isPlain = true) : node.bodies = [] := by
  cases node <;> first | rfl | cases plain

theorem encloses_of_isPlain (before : start ≤ id) (plain : node.isPlain = true) :
    Encloses nodes start id node :=
  ⟨id, before, fun _ _ behind inside => absurd inside (Nat.not_lt_of_le behind),
    by simp [bodies_of_isPlain plain]⟩

/-- What is enclosed stays so while the nodes in front are kept. -/
theorem Encloses.kept (encloses : Encloses nodes start id node)
    (same : ∀ inner, start ≤ inner → inner < id → more[inner]? = nodes[inner]?) {lower : Nat}
    (lowerLe : lower ≤ start) : Encloses more lower id node := by
  obtain ⟨first, startLe, closed, begins⟩ := encloses
  refine ⟨first, Nat.le_trans lowerLe startLe, fun inner other behind inside found => ?_, begins⟩
  rw [same inner (Nat.le_trans startLe behind) inside] at found
  exact closed inner other behind inside found

end Node

namespace Emitter

/-- The nodes to which a stretch of nodes may lead that is followed by `next`. -/
def Leads (before after : Emitter) (next id : Nat) : Prop :=
  id = next ∨ Node.DoneOrBetween before.nodes.size after.nodes.size id

/-- Where the branches of a lookbehind come from: they were made for a part of the pattern, right in
front of the node. -/
def MadeBehind (parsed : ParsedPattern) (after : Emitter) (start id : Nat) (node : Node) :
    Prop :=
  ∀ entries negated next, node = .lookBehind entries negated next → ∃ body offset first middle,
    .lookAround .behind negated body offset ∈ parsed.pattern.parts ∧
    (Emitting.measured parsed body.branches offset).run first = .ok (entries, middle) ∧
    start ≤ first.nodes.size ∧ middle.nodes.size = id ∧ middle.loopSlots ≤ after.loopSlots ∧
    ∀ inner, first.nodes.size ≤ inner → inner < id →
      after.nodes[inner]? = middle.nodes[inner]?

/-- What a node tries on its own was made in front of it, behind some node. -/
structure Settled (parsed : ParsedPattern) (after : Emitter) (start id : Nat) (node : Node) :
    Prop where
  encloses : node.Encloses after.nodes start id
  behind : MadeBehind parsed after start id node

/-- All nodes that are added between two states of the emitter, for something that is followed by
`next`, lead to each other, to `next` or to the first node of the program.  What they try on their
own stands in front of them. -/
structure Lays (parsed : ParsedPattern) (next : NodeId) (before after : Emitter) : Prop
    extends before.Grows after where
  leads : ∀ id node, before.nodes.size ≤ id → after.nodes[id]? = some node →
    ∀ target ∈ node.targets, before.Leads after next target
  settled : ∀ id node, before.nodes.size ≤ id → after.nodes[id]? = some node →
    Settled parsed after before.nodes.size id node

variable {parsed : ParsedPattern} {next other : NodeId} {id start : Nat} {node : Node}
  {first second third before middle after : Emitter}

theorem Leads.grown (leads : before.Leads middle next id)
    (size_le : middle.nodes.size ≤ after.nodes.size) : before.Leads after next id := by
  rcases leads with same | done | ⟨behind, inside⟩
  · exact .inl same
  · exact .inr (.inl done)
  · exact .inr (.inr ⟨behind, Nat.lt_of_lt_of_le inside size_le⟩)

/-- What leads on from a second stretch leads on from both. -/
theorem Leads.trans (follows : second.Leads third other id)
    (size_le : first.nodes.size ≤ second.nodes.size) (leads : first.Leads third next other) :
    first.Leads third next id := by
  rcases follows with rfl | done | ⟨behind, inside⟩
  · exact leads
  · exact .inr (.inl done)
  · exact .inr (.inr ⟨Nat.le_trans size_le behind, inside⟩)

/-- What was made in front of a node stays so while the nodes there are kept. -/
theorem Settled.kept {lower : Nat} (settled : Settled parsed middle start id node)
    (slots_le : middle.loopSlots ≤ after.loopSlots)
    (same : ∀ inner, start ≤ inner → inner < id → after.nodes[inner]? = middle.nodes[inner]?)
    (lowerLe : lower ≤ start) : Settled parsed after lower id node := by
  refine ⟨settled.encloses.kept same lowerLe, fun entries negated next shape => ?_⟩
  obtain ⟨body, offset, begins, ends, member, runs, startLe, placed, slotsLe, kept⟩ :=
    settled.behind entries negated next shape
  refine ⟨body, offset, begins, ends, member, runs, Nat.le_trans lowerLe startLe, placed,
    Nat.le_trans slotsLe slots_le, fun inner behind inside => ?_⟩
  rw [same inner (Nat.le_trans startLe behind) inside]
  exact kept inner behind inside

theorem Settled.grown {lower : Nat} (settled : Settled parsed middle start id node)
    (grows : middle.Grows after) (inside : id ≤ middle.nodes.size) (lowerLe : lower ≤ start) :
    Settled parsed after lower id node :=
  settled.kept grows.slots_le (fun inner _ below =>
    grows.kept inner (Nat.lt_of_lt_of_le below inside)) lowerLe

theorem Lays.refl (parsed : ParsedPattern) (next : NodeId) (emitter : Emitter) :
    emitter.Lays parsed next emitter := by
  have absent {id : NodeId} {node : Node} (behind : emitter.nodes.size ≤ id)
      (found : emitter.nodes[id]? = some node) : False :=
    absurd (Array.getElem?_eq_some_iff.mp found).1 (Nat.not_lt_of_le behind)
  exact ⟨.refl emitter, fun _ _ behind found => (absent behind found).elim,
    fun _ _ behind found => (absent behind found).elim⟩

/-- Two stretches make one, if the second is followed by a node to which the first one leads. -/
theorem Lays.trans (begins : first.Lays parsed next second)
    (follows : second.Lays parsed other third) (leads : first.Leads second next other) :
    first.Lays parsed next third := by
  -- A node was added in the first stretch and kept since, or it was added in the second.
  have either {id : NodeId} {node : Node} (found : third.nodes[id]? = some node) :
      (id < second.nodes.size ∧ second.nodes[id]? = some node) ∨ second.nodes.size ≤ id := by
    rcases Nat.lt_or_ge id second.nodes.size with early | late
    · exact .inl ⟨early, follows.kept id early ▸ found⟩
    · exact .inr late
  refine ⟨begins.toGrows.trans follows.toGrows, ?_, ?_⟩
  · intro id node behind found target member
    rcases either found with ⟨-, early⟩ | late
    · exact (begins.leads id node behind early target member).grown follows.size_le
    · exact (follows.leads id node late found target member).trans begins.size_le
        (leads.grown follows.size_le)
  · intro id node behind found
    rcases either found with ⟨inside, early⟩ | late
    · exact (begins.settled id node behind early).grown follows.toGrows (Nat.le_of_lt inside)
        (Nat.le_refl _)
    · exact (follows.settled id node late found).kept (Nat.le_refl _) (fun _ _ _ => rfl)
        begins.size_le

/-- What leads to the first node of the program only may be followed by any node. -/
theorem Lays.ofDone (lays : before.Lays parsed Program.done after) :
    before.Lays parsed next after where
  toGrows := lays.toGrows
  leads id node behind found target member :=
    .inr ((lays.leads id node behind found target member).elim .inl fun inside => inside)
  settled := lays.settled

/-- A stretch that leads to the first node of the program only is closed. -/
theorem Lays.closed (lays : before.Lays parsed Program.done after) :
    Node.Closed after.nodes before.nodes.size after.nodes.size := by
  intro id node behind _ found target member
  rcases lays.leads id node behind found target member with done | inside
  · exact .inl done
  · exact inside

/-- A node may be added behind a stretch if it leads to where that stretch leads, and if what it
tries on its own was made in that stretch. -/
theorem lays_push (lays : before.Lays parsed next middle)
    (targets : ∀ target ∈ node.targets, before.Leads middle next target)
    (settled : Settled parsed middle before.nodes.size middle.nodes.size node) :
    before.Lays parsed next { middle with nodes := middle.nodes.push node } := by
  have grows : middle.Grows { middle with nodes := middle.nodes.push node } :=
    ⟨by simp, Nat.le_refl _, fun id inside => by
      simp [Array.getElem?_push, Nat.ne_of_lt inside]⟩
  have either {id : NodeId} {other : Node} (found : (middle.nodes.push node)[id]? = some other) :
      (id < middle.nodes.size ∧ middle.nodes[id]? = some other) ∨
        (id = middle.nodes.size ∧ other = node) := by
    rw [Array.getElem?_push] at found
    split at found
    · next same => exact .inr ⟨same, (Option.some.inj found).symm⟩
    · exact .inl ⟨(Array.getElem?_eq_some_iff.mp found).1, found⟩
  refine ⟨lays.toGrows.trans grows, ?_, ?_⟩
  · intro id other late found target member
    rcases either found with ⟨-, early⟩ | ⟨rfl, rfl⟩
    · exact (lays.leads id other late early target member).grown grows.size_le
    · exact (targets target member).grown grows.size_le
  · intro id other late found
    rcases either found with ⟨inside, early⟩ | ⟨rfl, rfl⟩
    · exact (lays.settled id other late early).grown grows (Nat.le_of_lt inside) (Nat.le_refl _)
    · exact settled.grown grows (Nat.le_refl _) (Nat.le_refl _)

/-- Nothing is asked of a node that is no lookbehind. -/
theorem madeBehind_of_ne (other : ∀ entries negated next, node ≠ .lookBehind entries negated next) :
    MadeBehind parsed after start id node :=
  fun entries negated next shape => absurd shape (other entries negated next)

theorem settled_of_isPlain (before : start ≤ id) (plain : node.isPlain = true) :
    Settled parsed middle start id node := by
  refine ⟨Node.encloses_of_isPlain before plain, madeBehind_of_ne ?_⟩
  rintro entries negated next rfl
  cases plain

section Loop

variable {least : Nat} {most : Option Nat} {greedy : Bool} {waiting entry : NodeId}

/-- A loop may be added, whose body leads back to the tail. -/
theorem lays_loop
    (lays : (looping before least most greedy next waiting).Lays parsed (before.nodes.size + 1)
      middle)
    (leads : (looping before least most greedy next waiting).Leads middle (before.nodes.size + 1)
      entry) :
    before.Lays parsed next (looped before middle least most greedy next entry) := by
  have grows := lays.toGrows
  have larger := grows.size_le
  have slots_le : before.loopSlots + 1 ≤ middle.loopSlots := grows.slots_le
  rw [size_looping] at larger
  have size_eq : (looped before middle least most greedy next entry).nodes.size =
      middle.nodes.size := Array.size_setIfInBounds
  -- The head and the tail are new, so what leads to the tail stays among the new nodes.
  have inner {target : NodeId} (leads : (looping before least most greedy next waiting).Leads middle
      (before.nodes.size + 1) target) :
      before.Leads (looped before middle least most greedy next entry) next target := by
    rw [Leads, size_looping] at leads
    rw [Leads, size_eq]
    rcases leads with rfl | done | ⟨behind, inside⟩
    · exact .inr (.inr ⟨Nat.le_succ _, by omega⟩)
    · exact .inr (.inl done)
    · exact .inr (.inr ⟨by omega, inside⟩)
  refine ⟨⟨by omega, Nat.le_of_succ_le slots_le, fun id => looped_early grows⟩, ?_, ?_⟩
  · intro id node behind found target member
    rcases looped_cases grows behind found with ⟨rfl, rfl⟩ | ⟨rfl, rfl⟩ | ⟨late, held⟩
    · rcases List.mem_cons.mp member with rfl | last
      · exact inner leads
      · exact .inl (List.mem_singleton.mp last)
    · obtain rfl := List.mem_singleton.mp member
      exact .inr (.inr ⟨Nat.le_refl _, by omega⟩)
    · exact inner (lays.leads id node late held target member)
  · intro id node behind found
    rcases looped_cases grows behind found with ⟨rfl, rfl⟩ | ⟨rfl, rfl⟩ | ⟨late, held⟩
    · exact settled_of_isPlain behind rfl
    · exact settled_of_isPlain behind rfl
    · refine (lays.settled id node late held).kept (Nat.le_refl _) (fun inner above _ => ?_)
        (by rw [size_looping]; omega)
      exact looped_other (by rw [size_looping] at above; omega)

end Loop

end Emitter

namespace Emitting

open Emitter Pattern

variable {parsed : ParsedPattern} {next : NodeId} {before middle : Emitter}

theorem push_lays {node : Node} (lays : before.Lays parsed next middle)
    (targets : ∀ target ∈ node.targets, before.Leads middle next target)
    (settled : Settled parsed middle before.nodes.size middle.nodes.size node) :
    Ensures (push node) middle fun entry after =>
      before.Leads after next entry ∧ before.Lays parsed next after := by
  refine (push_ensures node middle).weaken ?_
  rintro _ _ ⟨rfl, rfl⟩
  exact ⟨.inr (.inr ⟨lays.size_le, by simp⟩), lays_push lays targets settled⟩

theorem push_plain_lays {node : Node} (lays : before.Lays parsed next middle)
    (plain : node.isPlain = true)
    (targets : ∀ target ∈ node.targets, before.Leads middle next target) :
    Ensures (push node) middle fun entry after =>
      before.Leads after next entry ∧ before.Lays parsed next after :=
  push_lays lays targets (settled_of_isPlain lays.size_le plain)

theorem flush_lays (pending : PendingText) (lays : before.Lays parsed next middle)
    (leads : before.Leads middle next pending.next) :
    Ensures pending.flush middle fun entry after =>
      before.Leads after next entry ∧ before.Lays parsed next after := by
  unfold PendingText.flush
  split
  · exact .pure ⟨leads, lays⟩
  · exact push_plain_lays lays rfl (by simpa [Node.targets] using leads)
  · exact push_plain_lays lays rfl (by simpa [Node.targets] using leads)

theorem prepend_lays (pending : PendingText) (character : Char) (ignoresCase : Bool)
    (lays : before.Lays parsed next middle) (leads : before.Leads middle next pending.next) :
    Ensures (pending.prepend character ignoresCase) middle fun extended after =>
      before.Leads after next extended.next ∧ before.Lays parsed next after := by
  unfold PendingText.prepend
  split
  · exact .pure ⟨leads, lays⟩
  · exact (flush_lays pending lays leads).bind fun _ _ flushed => .pure flushed

/-- The nodes of a pattern lead to each other, to the node that follows the pattern, and to the
first node of the program. -/
def LaysPattern (parsed : ParsedPattern) (pattern : Pattern) : Prop :=
  ∀ (next : NodeId) (before : Emitter),
    Ensures (Emitting.pattern parsed pattern next) before fun entry after =>
      before.Leads after next entry ∧ before.Lays parsed next after

/-- A pattern is made behind a stretch, and is followed by a node to which that stretch leads. -/
theorem LaysPattern.behind {pattern : Pattern} (known : LaysPattern parsed pattern)
    {other : NodeId} (lays : before.Lays parsed next middle)
    (leads : before.Leads middle next other) :
    Ensures (Emitting.pattern parsed pattern other) middle fun entry after =>
      before.Leads after next entry ∧ before.Lays parsed next after := by
  refine (known other middle).weaken ?_
  rintro entry after ⟨entryLeads, follows⟩
  exact ⟨entryLeads.trans lays.size_le (leads.grown follows.size_le), lays.trans follows leads⟩

section Lists

variable {patterns : List Pattern}

theorem sequence_lays (known : ∀ item ∈ patterns, LaysPattern parsed item) (next : NodeId)
    (before : Emitter) :
    Ensures (Emitting.sequence parsed patterns next) before fun pending after =>
      before.Leads after next pending.next ∧ before.Lays parsed next after := by
  induction patterns with
  | nil => exact .pure ⟨.inl rfl, .refl parsed next before⟩
  | cons item items ih =>
      refine Ensures.bind (ih fun other member => known other (by simp [member])) ?_
      rintro pending middle ⟨leads, lays⟩
      split
      · next character => exact prepend_lays pending character false lays leads
      · next character => exact prepend_lays pending character true lays leads
      · refine Ensures.bind (flush_lays pending lays leads) ?_
        rintro flushed rest ⟨flushedLeads, flushes⟩
        refine Ensures.bind ((known item (by simp)).behind flushes flushedLeads) ?_
        exact fun entry after both => .pure both

theorem alternatives_lays (known : ∀ branch ∈ patterns, LaysPattern parsed branch)
    (next : NodeId) (before : Emitter) :
    Ensures (Emitting.alternatives parsed patterns next) before fun entries after =>
      (∀ entry ∈ entries, before.Leads after next entry) ∧ before.Lays parsed next after := by
  induction patterns generalizing before with
  | nil => exact .pure ⟨by simp, .refl parsed next before⟩
  | cons branch branches ih =>
      refine Ensures.bind (known branch (by simp) next before) ?_
      rintro entry middle ⟨leads, lays⟩
      refine Ensures.bind (ih (fun other member => known other (by simp [member])) middle) ?_
      rintro entries after ⟨allLead, follows⟩
      refine .pure ⟨List.forall_mem_cons.mpr ⟨leads.grown follows.size_le, fun other member => ?_⟩,
        lays.trans follows (.inl rfl)⟩
      exact (allLead other member).trans lays.size_le (.inl rfl)

theorem measured_lays (known : ∀ branch ∈ patterns, LaysPattern parsed branch) (offset : Nat)
    (before : Emitter) :
    Ensures (Emitting.measured parsed patterns offset) before fun entries after =>
      (∀ entry ∈ entries, before.Leads after Program.done entry.2) ∧
        before.Lays parsed Program.done after := by
  induction patterns generalizing before with
  | nil => exact .pure ⟨by simp, .refl parsed Program.done before⟩
  | cons branch branches ih =>
      refine Ensures.bind (branchWidth_ensures branch offset before) ?_
      rintro width _ ⟨-, -, rfl⟩
      refine Ensures.bind (known branch (by simp) Program.done _) ?_
      rintro entry middle ⟨leads, lays⟩
      refine Ensures.bind (ih (fun other member => known other (by simp [member])) middle) ?_
      rintro entries after ⟨allLead, follows⟩
      refine .pure ⟨List.forall_mem_cons.mpr ⟨leads.grown follows.size_le, fun other member => ?_⟩,
        lays.trans follows (.inl rfl)⟩
      exact (allLead other member).trans lays.size_le (.inl rfl)

end Lists

/-- A node is added behind the parts that it tries on its own. -/
theorem push_lays_of_bodies {node : Node} (lays : before.Lays parsed Program.done middle)
    (bodies : ∀ body ∈ node.bodies, before.Leads middle Program.done body)
    (targets : ∀ target ∈ node.targets, target ∈ node.bodies ∨ target = next)
    (behind : MadeBehind parsed middle before.nodes.size middle.nodes.size node) :
    Ensures (push node) middle fun entry after =>
      before.Leads after next entry ∧ before.Lays parsed next after := by
  have between : ∀ body ∈ node.bodies,
      Node.DoneOrBetween before.nodes.size middle.nodes.size body :=
    fun body member => (bodies body member).elim .inl id
  refine push_lays lays.ofDone (fun target member => ?_)
    ⟨⟨before.nodes.size, Nat.le_refl _, lays.closed, between⟩, behind⟩
  rcases targets target member with body | rfl
  · exact .inr (between target body)
  · exact .inl rfl

theorem repeated_lays {body : Pattern} (known : LaysPattern parsed body) (least : Nat)
    (most : Option Nat) (mode : RepeatMode) :
    LaysPattern parsed (.repeated body least most mode) := by
  intro next before
  simp only [Emitting.pattern]
  split
  · exact .pure ⟨.inl rfl, .refl parsed next before⟩
  split
  · exact push_plain_lays (.refl parsed next before) rfl (by simp [Node.targets, Leads])
  split
  · refine Ensures.bind (known Program.done before) ?_
    rintro entry middle ⟨leads, lays⟩
    exact push_lays_of_bodies lays (by simpa [Node.bodies] using leads)
      (by simp [Node.targets, Node.bodies])
      (madeBehind_of_ne (by simp))
  split
  · exact known next before
  split
  · refine Ensures.bind (known next before) ?_
    rintro entry middle ⟨leads, lays⟩
    refine push_plain_lays lays rfl ?_
    have nextLeads : before.Leads middle next next := .inl rfl
    split <;> simp [Node.targets, leads, nextLeads]
  · refine Ensures.bind (newSlot_makes before) ?_
    rintro _ _ ⟨rfl, rfl⟩
    refine Ensures.bind (push_ensures _ _) ?_
    rintro _ _ ⟨rfl, rfl⟩
    refine Ensures.bind (push_ensures _ _) ?_
    rintro _ _ ⟨rfl, rfl⟩
    refine Ensures.bind (known _ (looping before least most (mode = .greedy) next Program.unset)) ?_
    rintro entry middle ⟨leads, lays⟩
    rw [Array.size_push] at leads lays
    refine Ensures.bind (replace_ensures _ _ middle) ?_
    rintro _ _ rfl
    have loop := lays_loop lays leads
    refine .pure ⟨.inr (.inr ⟨Nat.le_refl _, ?_⟩), loop⟩
    exact (Array.getElem?_eq_some_iff.mp (looped_head lays.toGrows)).1

/-- The nodes of every pattern lead to each other, to the node that follows the pattern, and to the
first node of the program. -/
theorem pattern_lays (pattern : Pattern) (member : pattern.Throughout (· ∈ parsed.pattern.parts)) :
    LaysPattern parsed pattern := by
  induction pattern with
  | empty => exact fun next before => .pure ⟨.inl rfl, .refl parsed next before⟩
  | char matcher =>
      exact fun next before => push_plain_lays (.refl parsed next before) rfl
        (by simp [Node.targets, Leads])
  | assert assertion =>
      exact fun next before => push_plain_lays (.refl parsed next before) rfl
        (by simp [Node.targets, Leads])
  | group index body ih =>
      intro next before
      refine Ensures.bind (push_plain_lays (.refl parsed next before) rfl
        (by simp [Node.targets, Leads])) ?_
      rintro stop closed ⟨stopLeads, closes⟩
      refine Ensures.bind ((ih member.group).behind closes stopLeads) ?_
      rintro start middle ⟨leads, lays⟩
      exact push_plain_lays lays rfl (by simpa [Node.targets] using leads)
  | concat items ih =>
      intro next before
      refine Ensures.bind (sequence_lays (fun item inside => ih item inside (member.item inside))
        next before) ?_
      rintro pending middle ⟨leads, lays⟩
      exact flush_lays pending lays leads
  | alternation branches ih =>
      intro next before
      refine Ensures.bind (alternatives_lays
        (fun branch inside => ih branch inside (member.branch inside)) next before) ?_
      rintro entries middle ⟨leads, lays⟩
      exact push_plain_lays lays rfl leads
  | repeated body least most mode ih => exact repeated_lays (ih member.repeated) least most mode
  | lookAround direction negated body offset ih branchIH =>
      intro next before
      cases direction with
      | ahead =>
          refine Ensures.bind (ih member.lookAround Program.done before) ?_
          rintro entry middle ⟨leads, lays⟩
          exact push_lays_of_bodies lays (by simpa [Node.bodies] using leads)
            (by simp [Node.targets, Node.bodies])
            (madeBehind_of_ne (by simp))
      | behind =>
          rw [pattern_behind]
          -- The run of the emitter is kept, for it says which nodes were made for the branches.
          refine Ensures.bind ((measured_lays
            (fun branch inside => branchIH branch inside (member.lookAround.ofBranches inside))
            offset before).and fun entries middle runs => runs) ?_
          rintro entries middle ⟨⟨leads, lays⟩, runs⟩
          refine push_lays_of_bodies lays (List.forall_mem_map.mpr leads)
            (by simp [Node.targets, Node.bodies]) ?_
          rintro _ _ _ ⟨⟩
          exact ⟨body, offset, before, middle, member.self, runs, Nat.le_refl _, rfl,
            Nat.le_refl _, fun _ _ _ => rfl⟩
  | atomic body ih =>
      intro next before
      refine Ensures.bind (ih member.atomic Program.done before) ?_
      rintro entry middle ⟨leads, lays⟩
      exact push_lays_of_bodies lays (by simpa [Node.bodies] using leads)
        (by simp [Node.targets, Node.bodies])
        (madeBehind_of_ne (by simp))
  | backReference target ignoresCase offset =>
      intro next before
      refine Ensures.bind (resolve_ensures parsed target offset before) ?_
      rintro group _ ⟨-, rfl⟩
      exact push_plain_lays (.refl parsed next _) rfl (by simp [Node.targets, Leads])
  | conditional target yes no offset yesIH noIH =>
      intro next before
      refine Ensures.bind (resolve_ensures parsed target offset before) ?_
      rintro group _ ⟨-, rfl⟩
      refine Ensures.bind (yesIH member.yes next _) ?_
      rintro yesEntry middle ⟨yesLeads, lays⟩
      refine Ensures.bind (noIH member.no next middle) ?_
      rintro noEntry rest ⟨noLeads, follows⟩
      refine push_plain_lays (lays.trans follows (.inl rfl)) rfl ?_
      simp [Node.targets, yesLeads.grown follows.size_le,
        noLeads.trans lays.size_le (.inl rfl)]

end Emitting

/-- Parts that are tried on their own stand in front of the node that tries them, and cannot be left
while they are executed. -/
def Program.Encloses (program : Program) : Prop :=
  ∀ id node, program.Holds id node → node.Encloses program.nodes 0 id

/-- In the program of a pattern, parts that are tried on their own stand in front of the node that
tries them, and every lookbehind was made for a part of the pattern. -/
theorem Program.ofPattern_lays {parsed : ParsedPattern} {program : Program}
    (made : Program.ofPattern parsed = .ok program) :
    program.Encloses ∧ ∀ id node, program.Holds id node →
      Emitter.MadeBehind parsed ⟨program.nodes, program.loopSlots⟩ 1 id node := by
  rw [Program.ofPattern] at made
  cases run : (Emitting.pattern parsed parsed.pattern Program.done).run {} with
  | error error =>
      rw [run] at made
      cases made
  | ok result =>
      obtain ⟨start, emitter⟩ := result
      rw [run] at made
      cases made
      obtain ⟨-, lays⟩ := Emitting.pattern_lays parsed.pattern (fun part member => member)
        Program.done {} start emitter run
      have first : emitter.nodes[0]? = some .done := lays.kept 0 Nat.zero_lt_one
      have settled (id : Nat) (node : Node) (holds : emitter.nodes[id]? = some node) :
          Emitter.Settled parsed emitter 0 id node ∧
            Emitter.MadeBehind parsed emitter 1 id node := by
        rcases Nat.eq_zero_or_pos id with rfl | positive
        · obtain rfl : node = .done := Option.some.inj (holds.symm.trans first)
          exact ⟨Emitter.settled_of_isPlain (Nat.le_refl _) rfl,
            Emitter.madeBehind_of_ne (by simp)⟩
        · have laid := lays.settled id node positive holds
          exact ⟨laid.kept (Nat.le_refl _) (fun _ _ _ => rfl) (Nat.zero_le _), laid.behind⟩
      exact ⟨fun id node holds => (settled id node holds).1.encloses,
        fun id node holds => (settled id node holds).2⟩

end Backtracking
