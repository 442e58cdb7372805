import Backtracking.Proofs.Enclosure
import Backtracking.Search.Attempt
import Mathlib.Logic.Relation

/-!
# Loops in the place of repetitions of one character

A repetition of one character has a node of its own.  In its place a program may have the nodes for
the repetition of any other part, with the character as the body: a loop with a slot that nothing
else uses, or a possessive repetition.

Such a loop relies on finding in its slot what it has written there, although what follows was tried
in between.  This is so because nothing that is tried on its own behind the loop leads back to it.
-/

namespace Backtracking

namespace Node

/-- The nodes with which a node goes on, at any level, apart from the parts that it tries on their
own. -/
def followers : Node → List NodeId
  | .done => []
  | .char _ next | .literal _ _ next | .assert _ next | .groupStart _ next | .groupEnd _ next
  | .backReference _ _ next | .charRepeat _ _ _ _ next | .possessive _ _ _ next | .atomic _ next
  | .lookAhead _ _ next | .lookBehind _ _ next => [next]
  | .alternation alternatives => alternatives
  | .loopHead _ _ _ _ body next => [body, next]
  | .loopTail head => [head]
  | .conditional _ yes no => [yes, no]

theorem followers_subset (node : Node) : node.followers ⊆ node.targets := by
  cases node <;> simp [followers, targets]

theorem continuations_subset_followers (node : Node) : node.continuations ⊆ node.followers := by
  cases node <;> simp [continuations, followers]

end Node

namespace Program

/-- A node names another one, or names one from which that is reached. -/
def Reaches (program : Program) : NodeId → NodeId → Prop :=
  Relation.ReflTransGen fun id target => target ∈ (program.node id).targets

/-- A node leads to another one without entering a part that is tried on its own. -/
def LeadsTo (program : Program) : NodeId → NodeId → Prop :=
  Relation.ReflTransGen fun id target => target ∈ (program.node id).followers

/-- Nothing that is tried on its own, from some node on, leads to another one. -/
def TriesApart (program : Program) (entry id : NodeId) : Prop :=
  ∀ inner, program.LeadsTo id inner →
    ∀ body ∈ (program.node inner).bodies, ¬ program.Reaches body entry

theorem LeadsTo.reaches {program : Program} {id target : NodeId}
    (leads : program.LeadsTo id target) : program.Reaches id target :=
  Relation.ReflTransGen.mono
    (fun inner _ (member : _ ∈ _) => (program.node inner).followers_subset member) id target leads

theorem holds_of_lt {program : Program} {id : NodeId} (inside : id < program.size) :
    program.Holds id (program.node id) := by
  have within : id < program.nodes.size := inside
  simp [Holds, node, Array.getD_eq_getD_getElem?, within]

/-- A node with targets is one of the program. -/
theorem holds_of_mem_targets {program : Program} {id target : NodeId}
    (member : target ∈ (program.node id).targets) : program.Holds id (program.node id) := by
  rcases Nat.lt_or_ge id program.nodes.size with inside | outside
  · exact holds_of_lt inside
  · simp [node, Array.getD_eq_getD_getElem?, outside, Node.targets] at member

/-- What is reached from a node of an enclosed part belongs to this part, or is the first node. -/
theorem Reaches.doneOrBetween {program : Program} (first : program.Holds done .done)
    {start last id target : NodeId} (closed : Node.Closed program.nodes start last)
    (reaches : program.Reaches id target) (begins : Node.DoneOrBetween start last id) :
    Node.DoneOrBetween start last target := by
  induction reaches with
  | refl => exact begins
  | tail _ step ih =>
      rcases ih with rfl | ⟨behind, inside⟩
      · rw [first.node_eq] at step
        cases step
      · exact closed _ _ behind inside (holds_of_mem_targets step) _ step

/-- No part that is tried on its own contains the node that tries it, nor anything that leads to
this node. -/
theorem Encloses.triesApart {program : Program} (encloses : program.Encloses)
    (first : program.Holds done .done) (entry : NodeId) : program.TriesApart entry entry := by
  intro id leads body member reaches
  have held := holds_of_mem_targets ((program.node id).bodies_subset member)
  obtain ⟨start, -, closed, bodies⟩ := encloses id _ held
  have inside : Node.DoneOrBetween start id entry :=
    reaches.doneOrBetween first closed (bodies body member)
  rcases leads.reaches.doneOrBetween first closed inside with rfl | ⟨-, below⟩
  · rw [first.node_eq] at member
    cases member
  · exact absurd below (Nat.lt_irrefl id)

end Program

/-- A repetition of one character in a program. -/
structure CharLoop (program : Program) where
  entry : NodeId
  matcher : CharMatcher
  least : Nat
  most : Option Nat
  mode : RepeatMode
  next : NodeId
  holds : program.Holds entry (.charRepeat matcher least most mode next)
  ordered : ∀ bound, most = some bound → least ≤ bound

namespace CharLoop

variable {program : Program} (loop : CharLoop program)

/-- The slot of the loop, which is the next one behind those of the program. -/
def slot (_ : CharLoop program) : Nat := program.loopSlots

/-- The program that has a loop in the place of the repetition: its head stands where the repetition
stood, its body and its tail stand behind all other nodes. -/
def counted : Program where
  nodes := ((program.nodes.setIfInBounds loop.entry (.loopHead program.loopSlots loop.least
    loop.most (loop.mode = .greedy) program.size loop.next)).push
    (.char loop.matcher (program.size + 1))).push (.loopTail loop.entry)
  start := program.start
  loopSlots := program.loopSlots + 1

/-- The program that has a possessive repetition of any part in the place of the repetition. -/
def possessive : Program where
  nodes := (program.nodes.setIfInBounds loop.entry
    (.possessive program.size loop.least loop.most loop.next)).push
    (.char loop.matcher Program.done)
  start := program.start
  loopSlots := program.loopSlots

/-- The program that has the nodes for the repetition of any part in the place of the repetition of
one character. -/
def general : Program :=
  if loop.mode = .possessive then loop.possessive else loop.counted

section Nodes

theorem entry_lt : loop.entry < program.size := loop.holds.lt_size

theorem size_counted : loop.counted.size = program.size + 2 := by
  simp [counted, Program.size]

theorem size_possessive : loop.possessive.size = program.size + 1 := by
  simp [possessive, Program.size]

theorem size_lt_general : program.size < loop.general.size := by
  rw [general]
  split
  · rw [size_possessive]
    exact Nat.lt_succ_self _
  · rw [size_counted]
    exact Nat.lt_add_of_pos_right Nat.two_pos

theorem counted_head : loop.counted.node loop.entry =
    .loopHead loop.slot loop.least loop.most (loop.mode = .greedy) program.size loop.next := by
  have inside : loop.entry < program.nodes.size := loop.entry_lt
  simp [counted, slot, Program.node, Array.getD_eq_getD_getElem?, Array.getElem?_push, inside,
    Nat.ne_of_lt inside, Nat.ne_of_lt (Nat.lt_succ_of_lt inside)]

theorem counted_body :
    loop.counted.node program.size = .char loop.matcher (program.size + 1) := by
  have before : program.nodes.size ≠ program.nodes.size + 1 := Nat.ne_of_lt (Nat.lt_succ_self _)
  simp only [counted, Program.size, Program.node, Array.getD_eq_getD_getElem?, Array.getElem?_push,
    Array.size_push, Array.size_setIfInBounds, if_neg before, if_pos, Option.getD_some]

theorem counted_tail : loop.counted.node (program.size + 1) = .loopTail loop.entry := by
  simp [counted, Program.size, Program.node, Array.getD_eq_getD_getElem?, Array.getElem_push]

theorem possessive_head : loop.possessive.node loop.entry =
    .possessive program.size loop.least loop.most loop.next := by
  have inside : loop.entry < program.nodes.size := loop.entry_lt
  simp [possessive, Program.node, Array.getD_eq_getD_getElem?, Array.getElem?_push, inside,
    Nat.ne_of_lt inside]

theorem possessive_body :
    loop.possessive.node program.size = .char loop.matcher Program.done := by
  simp [possessive, Program.size, Program.node, Array.getD_eq_getD_getElem?, Array.getElem_push]

/-- The head of a loop is not the repetition. -/
theorem ne_entry {id : NodeId} {slot least : Nat} {most : Option Nat} {greedy : Bool}
    {body next : NodeId} (node_eq : program.node id = .loopHead slot least most greedy body next) :
    id ≠ loop.entry := by
  rintro rfl
  rw [loop.holds.node_eq] at node_eq
  cases node_eq

/-- All other nodes are those of the program. -/
theorem general_node {id : NodeId} (inside : id < program.size) (other : id ≠ loop.entry) :
    loop.general.node id = program.node id := by
  have within : id < program.nodes.size := inside
  rw [general]
  split <;>
    simp [possessive, counted, Program.node, Array.getD_eq_getD_getElem?, Array.getElem?_push,
      Array.getElem?_setIfInBounds_ne other.symm, Nat.ne_of_lt within,
      Nat.ne_of_lt (Nat.lt_succ_of_lt within)]

end Nodes

/-- The trial of the program with general nodes, with limits of its own. -/
def trial (trial : Trial) (limits : Limits) : Trial :=
  { trial with program := loop.general, limits := limits }

theorem subject_trial (trial : Trial) (limits : Limits) :
    (loop.trial trial limits).subject = trial.subject :=
  rfl

end CharLoop

end Backtracking
