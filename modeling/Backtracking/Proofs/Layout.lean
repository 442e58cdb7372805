import Backtracking.Proofs.Outcomes

/-!
# The nodes of a pattern

Which nodes of a program stand for a pattern that is followed by a given node.  A pattern may be
laid out in several ways; what the emitter makes is one of them.  Nodes that are passed without
going one level deeper lead to nodes of lesser numbers, and every loop has a slot that no loop
around it uses.
-/

namespace Backtracking

/-- The fixed number of characters is the least one. -/
theorem Width.fixed?_eq_some {width : Width} {length : Nat} (fixed : width.fixed? = some length) :
    length = width.least := by
  rw [fixed?] at fixed
  split at fixed
  · exact (Option.some.inj fixed).symm
  · cases fixed

/-- A node of a program, with its number. -/
def Program.Holds (program : Program) (id : NodeId) (node : Node) : Prop :=
  program.nodes[id]? = some node

theorem Program.Holds.lt_size {program : Program} {id : NodeId} {node : Node}
    (holds : program.Holds id node) : id < program.size :=
  (Array.getElem?_eq_some_iff.mp holds).1

theorem Program.Holds.node_eq {program : Program} {id : NodeId} {node : Node}
    (holds : program.Holds id node) : program.node id = node := by
  rw [Program.node, Array.getD_eq_getD_getElem?, holds, Option.getD_some]

/-- The node where pending characters begin. -/
inductive EncodesText (program : Program) : PendingText → (entry : NodeId) → Prop where
  | none {ignoresCase : Bool} {next : NodeId} : EncodesText program ⟨[], ignoresCase, next⟩ next
  | char {character : Char} {ignoresCase : Bool} {next entry : NodeId} (order : next < entry)
      (holds : program.Holds entry
        (.char (if ignoresCase then .charIgnoringCase character else .char character) next)) :
      EncodesText program ⟨[character], ignoresCase, next⟩ entry
  | literal {text : List Char} {ignoresCase : Bool} {next entry : NodeId} (order : next < entry)
      (holds : program.Holds entry (.literal text ignoresCase next)) :
      EncodesText program ⟨text, ignoresCase, next⟩ entry

section

variable (parsed : ParsedPattern) (program : Program) (loopDepth : Nat → Nat)

mutual

/-- From `entry` on, a program holds the nodes of a pattern that is followed by the node `next`.
The loops of the pattern use no slot below `slots`.  `loopDepth` tells for each slot within how many
parts that are tried on their own its loop lies, and `depth` is this number for the pattern. -/
inductive Encodes :
    (slots depth : Nat) → Pattern → (entry next : NodeId) → Prop where
  | empty {slots depth : Nat} {next : NodeId} : Encodes slots depth .empty next next
  | char {slots depth : Nat} {matcher : CharMatcher} {entry next : NodeId} (order : next < entry)
      (holds : program.Holds entry (.char matcher next)) :
      Encodes slots depth (.char matcher) entry next
  | assert {slots depth : Nat} {assertion : Assertion} {entry next : NodeId} (order : next < entry)
      (holds : program.Holds entry (.assert assertion next)) :
      Encodes slots depth (.assert assertion) entry next
  | group {slots depth index : Nat} {body : Pattern} {entry start stop next : NodeId}
      (opens : program.Holds entry (.groupStart index start))
      (encodes : Encodes slots depth body start stop)
      (closes : program.Holds stop (.groupEnd index next)) :
      Encodes slots depth (.group index body) entry next
  | concat {slots depth : Nat} {items : List Pattern} {pending : PendingText} {entry next : NodeId}
      (encodes : EncodesItems slots depth items pending next)
      (text : EncodesText program pending entry) :
      Encodes slots depth (.concat items) entry next
  | alternation {slots depth : Nat} {branches : List Pattern} {entries : List NodeId}
      {entry next : NodeId} (order : ∀ branch ∈ entries, branch < entry)
      (holds : program.Holds entry (.alternation entries))
      (encodes : EncodesBranches slots depth branches entries next) :
      Encodes slots depth (.alternation branches) entry next
  | omitted {slots depth least : Nat} {body : Pattern} {mode : RepeatMode} {next : NodeId} :
      Encodes slots depth (.repeated body least (some 0) mode) next next
  | charRepeat {slots depth least : Nat} {most : Option Nat} {matcher : CharMatcher}
      {mode : RepeatMode} {entry next : NodeId} (order : next < entry)
      (holds : program.Holds entry (.charRepeat matcher least most mode next)) :
      Encodes slots depth (.repeated (.char matcher) least most mode) entry next
  | possessive {slots depth least : Nat} {most : Option Nat} {body : Pattern}
      {entry start next : NodeId} (holds : program.Holds entry (.possessive start least most next))
      (encodes : Encodes slots (depth + 1) body start Program.done) :
      Encodes slots depth (.repeated body least most .possessive) entry next
  | single {slots depth : Nat} {body : Pattern} {mode : RepeatMode} {entry next : NodeId}
      (gives : mode ≠ .possessive) (encodes : Encodes slots depth body entry next) :
      Encodes slots depth (.repeated body 1 (some 1) mode) entry next
  | optional {slots depth : Nat} {body : Pattern} {mode : RepeatMode} {entry start next : NodeId}
      (gives : mode ≠ .possessive) (order : start < entry ∧ next < entry)
      (holds : program.Holds entry
        (.alternation (if mode = .greedy then [start, next] else [next, start])))
      (encodes : Encodes slots depth body start next) :
      Encodes slots depth (.repeated body 0 (some 1) mode) entry next
  | loop {slots depth slot least : Nat} {most : Option Nat} {body : Pattern} {mode : RepeatMode}
      {entry tail start next : NodeId} (gives : mode ≠ .possessive)
      (fresh : slots ≤ slot ∧ slot < program.loopSlots) (sealed : loopDepth slot = depth)
      (holds : program.Holds entry (.loopHead slot least most (mode = .greedy) start next))
      (closes : program.Holds tail (.loopTail entry))
      (encodes : Encodes (slot + 1) depth body start tail) :
      Encodes slots depth (.repeated body least most mode) entry next
  | lookAhead {slots depth offset : Nat} {negated : Bool} {body : Pattern}
      {entry start next : NodeId} (order : next < entry)
      (holds : program.Holds entry (.lookAhead start negated next))
      (encodes : Encodes slots (depth + 1) body start Program.done) :
      Encodes slots depth (.lookAround .ahead negated body offset) entry next
  | lookBehind {slots depth offset : Nat} {negated : Bool} {body : Pattern}
      {entries : List (Nat × NodeId)} {entry next : NodeId} (order : next < entry)
      (holds : program.Holds entry (.lookBehind entries negated next))
      (encodes : EncodesBehind slots (depth + 1) body.branches entries) :
      Encodes slots depth (.lookAround .behind negated body offset) entry next
  | atomic {slots depth : Nat} {body : Pattern} {entry start next : NodeId}
      (holds : program.Holds entry (.atomic start next))
      (encodes : Encodes slots (depth + 1) body start Program.done) :
      Encodes slots depth (.atomic body) entry next
  | backReference {slots depth index offset : Nat} {target : GroupRef} {ignoresCase : Bool}
      {entry next : NodeId} (named : parsed.group? target = some index) (order : next < entry)
      (holds : program.Holds entry (.backReference index ignoresCase next)) :
      Encodes slots depth (.backReference target ignoresCase offset) entry next
  | conditional {slots depth index offset : Nat} {target : GroupRef} {yes no : Pattern}
      {entry yesEntry noEntry next : NodeId} (named : parsed.group? target = some index)
      (order : yesEntry < entry ∧ noEntry < entry)
      (holds : program.Holds entry (.conditional index yesEntry noEntry))
      (encodesYes : Encodes slots depth yes yesEntry next)
      (encodesNo : Encodes slots depth no noEntry next) :
      Encodes slots depth (.conditional target yes no offset) entry next

/-- Items that follow one another begin with pending characters, and a program holds the nodes of
the rest. -/
inductive EncodesItems :
    (slots depth : Nat) → List Pattern → PendingText → (next : NodeId) → Prop where
  | nil {slots depth : Nat} {ignoresCase : Bool} {next : NodeId} :
      EncodesItems slots depth [] ⟨[], ignoresCase, next⟩ next
  | item {slots depth : Nat} {item : Pattern} {items : List Pattern} {pending : PendingText}
      {ignoresCase : Bool} {entry middle next : NodeId}
      (follows : EncodesItems slots depth items pending next)
      (text : EncodesText program pending middle)
      (encodes : Encodes slots depth item entry middle) :
      EncodesItems slots depth (item :: items) ⟨[], ignoresCase, entry⟩ next
  | joined {slots depth : Nat} {character : Char} {items : List Pattern} {pending : PendingText}
      {ignoresCase : Bool} {next : NodeId}
      (follows : EncodesItems slots depth items pending next)
      (alike : pending.text = [] ∨ pending.ignoresCase = ignoresCase) :
      EncodesItems slots depth
        (.char (if ignoresCase then .charIgnoringCase character else .char character) :: items)
        ⟨character :: pending.text, ignoresCase, pending.next⟩ next
  | apart {slots depth : Nat} {character : Char} {items : List Pattern} {pending : PendingText}
      {ignoresCase : Bool} {middle next : NodeId}
      (follows : EncodesItems slots depth items pending next)
      (text : EncodesText program pending middle) :
      EncodesItems slots depth
        (.char (if ignoresCase then .charIgnoringCase character else .char character) :: items)
        ⟨[character], ignoresCase, middle⟩ next

/-- A program holds the nodes of branches, each of which is followed by the node `next`. -/
inductive EncodesBranches :
    (slots depth : Nat) → List Pattern → List NodeId → (next : NodeId) → Prop where
  | nil {slots depth : Nat} {next : NodeId} : EncodesBranches slots depth [] [] next
  | cons {slots depth : Nat} {branch : Pattern} {branches : List Pattern} {entry next : NodeId}
      {entries : List NodeId} (encodes : Encodes slots depth branch entry next)
      (follows : EncodesBranches slots depth branches entries next) :
      EncodesBranches slots depth (branch :: branches) (entry :: entries) next

/-- A program holds the nodes of the branches of a lookbehind, each with its width. -/
inductive EncodesBehind :
    (slots depth : Nat) → List Pattern → List (Nat × NodeId) → Prop where
  | nil {slots depth : Nat} : EncodesBehind slots depth [] []
  | cons {slots depth : Nat} {branch : Pattern} {branches : List Pattern} {entry : NodeId}
      {entries : List (Nat × NodeId)}
      (fixed : branch.fixedWidth? = some branch.width.least)
      (encodes : Encodes slots depth branch entry Program.done)
      (follows : EncodesBehind slots depth branches entries) :
      EncodesBehind slots depth (branch :: branches)
        ((branch.width.least, entry) :: entries)

end

end

/-- The branches of all lookbehinds have a fixed width, apart from those in repetitions that are
omitted. -/
inductive Pattern.Measured : Pattern → Prop where
  | empty : Measured .empty
  | char (matcher : CharMatcher) : Measured (.char matcher)
  | assert (assertion : Assertion) : Measured (.assert assertion)
  | group {index : Nat} {body : Pattern} (measured : Measured body) : Measured (.group index body)
  | concat {items : List Pattern} (measured : ∀ item ∈ items, Measured item) :
      Measured (.concat items)
  | alternation {branches : List Pattern} (measured : ∀ branch ∈ branches, Measured branch) :
      Measured (.alternation branches)
  | omitted {body : Pattern} {least : Nat} {mode : RepeatMode} :
      Measured (.repeated body least (some 0) mode)
  | repeated {body : Pattern} {least : Nat} {most : Option Nat} {mode : RepeatMode}
      (measured : Measured body) : Measured (.repeated body least most mode)
  | lookAhead {negated : Bool} {body : Pattern} {offset : Nat} (measured : Measured body) :
      Measured (.lookAround .ahead negated body offset)
  | lookBehind {negated : Bool} {body : Pattern} {offset : Nat}
      (measured : ∀ branch ∈ body.branches, Measured branch)
      (fixed : ∀ branch ∈ body.branches, branch.fixedWidth? = some branch.width.least) :
      Measured (.lookAround .behind negated body offset)
  | atomic {body : Pattern} (measured : Measured body) : Measured (.atomic body)
  | backReference (target : GroupRef) (ignoresCase : Bool) (offset : Nat) :
      Measured (.backReference target ignoresCase offset)
  | conditional {target : GroupRef} {yes no : Pattern} {offset : Nat} (measuredYes : Measured yes)
      (measuredNo : Measured no) : Measured (.conditional target yes no offset)

section Measured

variable {parsed : ParsedPattern} {program : Program} {loopDepth : Nat → Nat} {slots depth : Nat}
  {next : NodeId}

theorem EncodesItems.measured {items : List Pattern} {pending : PendingText}
    (known : ∀ item ∈ items, ∀ {entry next : NodeId},
      Encodes parsed program loopDepth slots depth item entry next → item.Measured)
    (encodes : EncodesItems parsed program loopDepth slots depth items pending next) :
    ∀ item ∈ items, item.Measured := by
  induction items generalizing pending with
  | nil => simp
  | cons item items ih =>
      have later {pending : PendingText}
          (follows : EncodesItems parsed program loopDepth slots depth items pending next) :=
        ih (fun other member => known other (by simp [member])) follows
      rw [List.forall_mem_cons]
      cases encodes with
      | item follows text encodes => exact ⟨known item (by simp) encodes, later follows⟩
      | joined follows alike => exact ⟨.char _, later follows⟩
      | apart follows text => exact ⟨.char _, later follows⟩

theorem EncodesBranches.measured {branches : List Pattern} {entries : List NodeId}
    (known : ∀ branch ∈ branches, ∀ {entry next : NodeId},
      Encodes parsed program loopDepth slots depth branch entry next → branch.Measured)
    (encodes : EncodesBranches parsed program loopDepth slots depth branches entries next) :
    ∀ branch ∈ branches, branch.Measured := by
  induction branches generalizing entries with
  | nil => simp
  | cons branch branches ih =>
      rw [List.forall_mem_cons]
      cases encodes with
      | cons encodes follows =>
          exact ⟨known branch (by simp) encodes,
            ih (fun other member => known other (by simp [member])) follows⟩

theorem EncodesBehind.measured {branches : List Pattern} {entries : List (Nat × NodeId)}
    (known : ∀ branch ∈ branches, ∀ {entry next : NodeId},
      Encodes parsed program loopDepth slots depth branch entry next → branch.Measured)
    (encodes : EncodesBehind parsed program loopDepth slots depth branches entries) :
    (∀ branch ∈ branches, branch.Measured) ∧
      ∀ branch ∈ branches, branch.fixedWidth? = some branch.width.least := by
  induction branches generalizing entries with
  | nil => simp
  | cons branch branches ih =>
      rw [List.forall_mem_cons, List.forall_mem_cons]
      cases encodes with
      | cons fixed encodes follows =>
          obtain ⟨measured, allFixed⟩ :=
            ih (fun other member => known other (by simp [member])) follows
          exact ⟨⟨known branch (by simp) encodes, measured⟩, fixed, allFixed⟩

/-- Nodes are made for lookbehinds of fixed width only. -/
theorem Encodes.measured {pattern : Pattern} {entry : NodeId}
    (encodes : Encodes parsed program loopDepth slots depth pattern entry next) :
    pattern.Measured := by
  induction pattern generalizing slots depth entry next with
  | empty => exact .empty
  | char matcher => exact .char matcher
  | assert assertion => exact .assert assertion
  | group index body ih =>
      cases encodes with
      | group opens encodes closes => exact .group (ih encodes)
  | concat items ih =>
      cases encodes with
      | concat encodes text =>
          exact .concat (encodes.measured fun item member _ _ => ih item member)
  | alternation branches ih =>
      cases encodes with
      | alternation order holds encodes =>
          exact .alternation (encodes.measured fun branch member _ _ => ih branch member)
  | repeated body least most mode ih =>
      cases encodes with
      | omitted => exact .omitted
      | charRepeat order holds => exact .repeated (.char _)
      | possessive holds encodes => exact .repeated (ih encodes)
      | single gives encodes => exact .repeated (ih encodes)
      | optional gives order holds encodes => exact .repeated (ih encodes)
      | loop gives fresh sealed holds closes encodes => exact .repeated (ih encodes)
  | lookAround direction negated body offset ih branchIH =>
      cases encodes with
      | lookAhead order holds encodes => exact .lookAhead (ih encodes)
      | lookBehind order holds encodes =>
          obtain ⟨measured, fixed⟩ :=
            encodes.measured fun branch member _ _ => branchIH branch member
          exact .lookBehind measured fixed
  | atomic body ih =>
      cases encodes with
      | atomic holds encodes => exact .atomic (ih encodes)
  | backReference target ignoresCase offset => exact .backReference target ignoresCase offset
  | conditional target yes no offset yesIH noIH =>
      cases encodes with
      | conditional named order holds encodesYes encodesNo =>
          exact .conditional (yesIH encodesYes) (noIH encodesNo)

end Measured

end Backtracking
