import Backtracking.Proofs.CharRuns
import Backtracking.Proofs.Ensembles
import Backtracking.Proofs.ProgramShape
import Backtracking.Search.Candidate

/-!
# Accesses to arrays

What is read and written by its index while a program is executed: the nodes of the program, the
registers of groups and loops, and the characters of the subject.  The accesses of a node follow
from the position at which it is visited and the registers then.  If the program is well-formed and
the visit is one that occurs in an attempt, all of them are within the arrays.
-/

namespace Backtracking

/-- An access to an array by an index.

* `node`, `head`: a node of the program; one that has to be the head of a loop.
* `capture`, `opened`, `loop`: the registers of a group, of its beginning, and of a loop.
* `char`: a character of the subject. -/
inductive Access where
  | node (id : NodeId)
  | head (id : NodeId)
  | capture (group : Nat)
  | opened (group : Nat)
  | loop (slot : Nat)
  | char (position : Nat)

namespace Access

/-- The index of an access is within the array, and the head of a loop is one. -/
def Valid (program : Program) (subject : Subject) (registers : Registers) : Access → Prop
  | .node id => id < program.size
  | .head id => Node.HeadAt program.nodes id
  | .capture group => group < registers.captures.size
  | .opened group => group < registers.opened.size
  | .loop slot => slot < registers.loops.size
  | .char position => position < subject.size

/-- Accesses to the characters from a position on. -/
def chars (position length : Nat) : List Access := (List.range' position length).map .char

/-- Access to the character at a position, if the subject does not end there. -/
def guarded (subject : Subject) (position : Nat) : List Access :=
  if position < subject.size then [.char position] else []

instance (nodes : Array Node) (id : NodeId) : Decidable (Node.HeadAt nodes id) :=
  decidable_of_iff ((nodes[id]?.bind Node.slot?).isSome = true) <| by
    simp only [Node.HeadAt, Option.isSome_iff_exists, Option.bind_eq_some_iff]
    exact exists_comm.trans (exists_congr fun entry => exists_congr fun slot => Iff.rfl)

instance (program : Program) (subject : Subject) (registers : Registers) :
    DecidablePred (Valid program subject registers)
  | .node id => inferInstanceAs (Decidable (id < program.size))
  | .head id => inferInstanceAs (Decidable (Node.HeadAt program.nodes id))
  | .capture group => inferInstanceAs (Decidable (group < registers.captures.size))
  | .opened group => inferInstanceAs (Decidable (group < registers.opened.size))
  | .loop slot => inferInstanceAs (Decidable (slot < registers.loops.size))
  | .char position => inferInstanceAs (Decidable (position < subject.size))

variable {program : Program} {subject : Subject} {registers : Registers} {access : Access}

theorem chars_valid {position length : Nat} (inside : position + length ≤ subject.size)
    (member : access ∈ chars position length) : access.Valid program subject registers := by
  obtain ⟨index, listed, rfl⟩ := List.mem_map.mp member
  have bounds := List.mem_range'_1.mp listed
  exact Nat.lt_of_lt_of_le bounds.2 inside

theorem guarded_valid {position : Nat} (member : access ∈ guarded subject position) :
    access.Valid program subject registers := by
  rw [guarded] at member
  split at member
  · next inside => exact List.mem_singleton.mp member ▸ inside
  · cases member

end Access

def Assertion.accesses (subject : Subject) (position : Nat) : Assertion → List Access
  | .startOfInput | .endOfInput | .searchOrigin | .previousMatchEnd => []
  | .startOfLine =>
      if position ≠ 0 ∧ position < subject.size then [.char (position - 1)] else []
  | .endOfInputOrNewline =>
      if position ≠ subject.size ∧ position + 1 = subject.size then [.char position] else []
  | .endOfLine => if position ≠ subject.size then [.char position] else []
  | .wordBoundary _ | .notWordBoundary _ =>
      (if 0 < position then [.char (position - 1)] else []) ++ Access.guarded subject position

/-- The accesses of a node that is executed at a position.  A text is looked at if it fits into what
is left of the subject. -/
def Node.accesses (program : Program) (subject : Subject) (registers : Registers) (id : NodeId)
    (position : Nat) : Node → List Access
  | .char _ _ => Access.guarded subject position
  | .literal text _ _ =>
      if position + text.length ≤ subject.size then Access.chars position text.length else []
  | .assert assertion _ => assertion.accesses subject position
  | .groupStart group _ => [.opened group]
  | .groupEnd group _ => [.capture group, .opened group]
  | .backReference group _ _ =>
      .capture group ::
        match registers.capture? group with
        | none => []
        | some span =>
            let length := span.stop - span.start
            if position + length ≤ subject.size then
              Access.chars span.start length ++ Access.chars position length
            else []
  | .loopHead slot _ _ _ _ _ => [.loop slot, .head id]
  | .loopTail head => .head head :: (program.node head).slot?.toList.map .loop
  | .charRepeat _ _ most _ _ =>
      (List.range (subject.roomFor most position)).flatMap fun count =>
        Access.guarded subject (position + count)
  | .conditional group _ _ => [.capture group]
  | .done | .alternation _ | .possessive _ _ _ _ | .atomic _ _ | .lookAhead _ _ _
  | .lookBehind _ _ _ => []

def Trial.accesses (trial : Trial) (id : NodeId) (position : Nat) (registers : Registers) :
    List Access :=
  .node id :: (trial.program.node id).accesses trial.program trial.subject registers id position

def Hints.accesses (hints : Hints) (subject : Subject) (position : Nat) : List Access :=
  match reach position hints.minLength with
  | .error _ => []
  | .ok reached =>
      if reached > subject.size || position + hints.leading.length > subject.size then []
      else if hints.anchoredStart && position > 0 then []
      else Access.guarded subject position ++ Access.chars position hints.leading.length

variable {program : Program} {subject : Subject} {registers : Registers} {access : Access}
  {position : Nat}

theorem Assertion.accesses_valid (assertion : Assertion) (inside : position ≤ subject.size)
    (member : access ∈ assertion.accesses subject position) :
    access.Valid program subject registers := by
  have conditional {condition : Prop} [Decidable condition] {index : Nat}
      (valid : condition → index < subject.size)
      (member : access ∈ if condition then [Access.char index] else []) :
      access.Valid program subject registers := by
    split at member
    · next holds => exact List.mem_singleton.mp member ▸ valid holds
    · cases member
  cases assertion with
  | startOfInput | endOfInput | searchOrigin | previousMatchEnd => cases member
  | startOfLine => exact conditional (fun _ => by omega) member
  | endOfInputOrNewline => exact conditional (fun _ => by omega) member
  | endOfLine => exact conditional (fun _ => by omega) member
  | wordBoundary | notWordBoundary =>
      rcases List.mem_append.mp member with before | behind
      · exact conditional (fun _ => by omega) before
      · exact Access.guarded_valid behind

theorem Hints.accesses_valid (hints : Hints)
    (member : access ∈ hints.accesses subject position) :
    access.Valid program subject registers := by
  rw [accesses] at member
  split at member
  · cases member
  split at member
  · cases member
  next fits =>
  split at member
  · cases member
  have inside : position + hints.leading.length ≤ subject.size := by
    simp only [Bool.or_eq_true, decide_eq_true_eq, not_or, Nat.not_lt] at fits
    exact fits.2
  rcases List.mem_append.mp member with first | leading
  · exact Access.guarded_valid first
  · exact Access.chars_valid inside leading

theorem Trial.Visited.accesses_valid {trial : Trial} {origin : Registers} {id : NodeId}
    {groupCount : Nat} (wellFormed : trial.program.WellFormed groupCount)
    (captures_size : origin.captures.size = groupCount + 1)
    (opened_size : origin.opened.size = groupCount + 1)
    (loops_size : origin.loops.size = trial.program.loopSlots)
    (visited : trial.Visited origin id position registers) :
    ∀ access ∈ trial.accesses id position registers,
      access.Valid trial.program trial.subject registers := by
  have holds : trial.program.Holds id (trial.program.node id) := by
    have found := Array.getElem?_eq_getElem visited.lt_size
    rw [Program.node, Array.getD_eq_getD_getElem?, found]
    exact found
  have sound := wellFormed.sound id _ holds
  rw [← visited.alike.captures_size] at captures_size
  rw [← visited.alike.opened_size] at opened_size
  rw [← visited.alike.loops_size] at loops_size
  rw [Trial.accesses, List.forall_mem_cons]
  refine ⟨visited.lt_size, ?_⟩
  have counted {id : NodeId} {node : Node} {slot : Nat} (holds : trial.program.Holds id node)
      (takes : node.slot? = some slot) : slot < registers.loops.size := by
    rw [loops_size]
    exact wellFormed.slots_lt id node slot holds takes
  generalize trial.program.node id = node at holds sound
  have captured {group : Nat} (named : group ∈ node.groups) : group < registers.captures.size := by
    have bounds := sound.groups_within group named
    omega
  have opened {group : Nat} (named : group ∈ node.groups) : group < registers.opened.size := by
    have bounds := sound.groups_within group named
    omega
  intro access member
  cases node with
  | done | alternation | possessive | atomic | lookAhead | lookBehind => cases member
  | char => exact Access.guarded_valid member
  | literal text =>
      rw [Node.accesses] at member
      split at member
      · next fits => exact Access.chars_valid fits member
      · cases member
  | assert assertion => exact assertion.accesses_valid visited.le_size member
  | groupStart group => exact List.mem_singleton.mp member ▸ opened (by simp [Node.groups])
  | groupEnd group =>
      rcases List.mem_cons.mp member with rfl | last
      · exact captured (by simp [Node.groups])
      · exact List.mem_singleton.mp last ▸ opened (by simp [Node.groups])
  | backReference group =>
      rcases List.mem_cons.mp member with rfl | texts
      · exact captured (by simp [Node.groups])
      split at texts
      · cases texts
      next span found =>
      dsimp only at texts
      split at texts
      · next fits =>
          have bounds := visited.coherent.valid.span? (registers.capture?_eq group ▸ found)
          rcases List.mem_append.mp texts with expected | text
          · exact Access.chars_valid (by omega) expected
          · exact Access.chars_valid fits text
      · cases texts
  | loopHead slot =>
      rcases List.mem_cons.mp member with rfl | last
      · exact counted holds rfl
      · exact List.mem_singleton.mp last ▸ ⟨_, slot, holds, rfl⟩
  | loopTail head =>
      have isHead := sound.head head rfl
      rcases List.mem_cons.mp member with rfl | counts
      · exact isHead
      obtain ⟨loop, slot, held, takes⟩ := isHead
      obtain ⟨other, listed, rfl⟩ := List.mem_map.mp counts
      rw [Program.Holds.node_eq held, takes] at listed
      obtain rfl := List.mem_singleton.mp listed
      exact counted held takes
  | charRepeat =>
      obtain ⟨count, -, guardedMember⟩ := List.mem_flatMap.mp member
      exact Access.guarded_valid guardedMember
  | conditional group => exact List.mem_singleton.mp member ▸ captured (by simp [Node.groups])

end Backtracking
