import Backtracking.Pattern.Reader
import Backtracking.Pattern.Width
import Backtracking.Program.Basic

/-!
# Programs of patterns

A pattern is turned into nodes from its end to its beginning, so that a node is made when the
number of the one to go on with is known.  Only a loop is made before its body, which leads back
to it.  References are looked up and lookbehinds are measured on the way.
-/

namespace Backtracking

/-- The nodes made so far. -/
structure Emitter where
  nodes : Array Node := #[.done]
  loopSlots : Nat := 0

/-- A step of making nodes, which may refuse the pattern. -/
abbrev Emitting := StateT Emitter (Except CompileError)

namespace Emitting

/-- Adds a node and gives its number. -/
def push (node : Node) : Emitting NodeId := do
  let emitter ← get
  set { emitter with nodes := emitter.nodes.push node }
  return emitter.nodes.size

/-- Puts another node in the place of one that was added before. -/
def replace (id : NodeId) (node : Node) : Emitting Unit :=
  modify fun emitter => { emitter with nodes := emitter.nodes.setIfInBounds id node }

def newSlot : Emitting Nat := do
  let emitter ← get
  set { emitter with loopSlots := emitter.loopSlots + 1 }
  return emitter.loopSlots

end Emitting

/-- The number of the group that a reference names. -/
def ParsedPattern.resolve (parsed : ParsedPattern) (target : GroupRef) (offset : Nat) :
    Except CompileError Nat :=
  match target with
  | .number group =>
      if group ≤ parsed.groupCount then .ok group else .error (.invalidBackReference offset group)
  | .name name =>
      match parsed.groupNumber? name with
      | some group => .ok group
      | none => .error (.unknownGroupName offset name)

/-- Literal characters that wait to be made into one node, and the node that follows them. -/
structure PendingText where
  text : List Char
  ignoresCase : Bool
  next : NodeId

namespace PendingText

/-- Makes a node of the characters, if there are any. -/
def flush (pending : PendingText) : Emitting NodeId :=
  match pending.text with
  | [] => return pending.next
  | [character] =>
      .push (.char
        (if pending.ignoresCase then .charIgnoringCase character else .char character)
        pending.next)
  | text => .push (.literal text pending.ignoresCase pending.next)

/-- Puts a character in front.  A run of characters treats case in one way. -/
def prepend (pending : PendingText) (character : Char) (ignoresCase : Bool) :
    Emitting PendingText := do
  if pending.text.isEmpty || pending.ignoresCase = ignoresCase then
    return ⟨character :: pending.text, ignoresCase, pending.next⟩
  else
    return ⟨[character], ignoresCase, ← pending.flush⟩

end PendingText

/-- The width of a branch of a lookbehind, which has to be fixed. -/
def Pattern.branchWidth (branch : Pattern) (offset : Nat) : Except CompileError Nat :=
  match branch.fixedWidth? with
  | some width => .ok width
  | none => .error (.lookBehindNotFixedLength offset)

namespace Emitting

mutual

/-- Makes the nodes of a pattern that is followed by `next`, and gives the first of them. -/
def pattern (parsed : ParsedPattern) : Pattern → (next : NodeId) → Emitting NodeId
  | .empty, next => return next
  | .char matcher, next => push (.char matcher next)
  | .assert assertion, next => push (.assert assertion next)
  | .group index body, next => do
      let stop ← push (.groupEnd index next)
      push (.groupStart index (← pattern parsed body stop))
  | .concat items, next => do (← sequence parsed items next).flush
  | .alternation branches, next => do
      push (.alternation (← alternatives parsed branches next))
  | .repeated body least most mode, next => do
      if most = some 0 then
        return next
      else if let .char matcher := body then
        push (.charRepeat matcher least most mode next)
      else if mode = .possessive then
        push (.possessive (← pattern parsed body Program.done) least most next)
      else if least = 1 ∧ most = some 1 then
        pattern parsed body next
      else if least = 0 ∧ most = some 1 then
        let body ← pattern parsed body next
        push (.alternation (if mode = .greedy then [body, next] else [next, body]))
      else
        let greedy := mode = .greedy
        let slot ← newSlot
        let head ← push (.loopHead slot least most greedy Program.unset next)
        let tail ← push (.loopTail head)
        let body ← pattern parsed body tail
        replace head (.loopHead slot least most greedy body next)
        return head
  | .lookAround .ahead negated body _, next => do
      push (.lookAhead (← pattern parsed body Program.done) negated next)
  | .lookAround .behind negated (.alternation branches) offset, next => do
      push (.lookBehind (← measured parsed branches offset) negated next)
  | .lookAround .behind negated body offset, next => do
      let width ← body.branchWidth offset
      push (.lookBehind [(width, ← pattern parsed body Program.done)] negated next)
  | .atomic body, next => do push (.atomic (← pattern parsed body Program.done) next)
  | .backReference target ignoresCase offset, next => do
      push (.backReference (← parsed.resolve target offset) ignoresCase next)
  | .conditional target yes no offset, next => do
      let group ← parsed.resolve target offset
      let yes ← pattern parsed yes next
      push (.conditional group yes (← pattern parsed no next))

/-- Makes the nodes of items that follow one another, except for the literal characters that they
begin with. -/
def sequence (parsed : ParsedPattern) : List Pattern → (next : NodeId) → Emitting PendingText
  | [], next => return ⟨[], false, next⟩
  | item :: items, next => do
      let pending ← sequence parsed items next
      match item with
      | .char (.char character) => pending.prepend character false
      | .char (.charIgnoringCase character) => pending.prepend character true
      | _ => return ⟨[], false, ← pattern parsed item (← pending.flush)⟩

/-- Makes the nodes of branches that are followed by `next`, and gives the first of each. -/
def alternatives (parsed : ParsedPattern) :
    List Pattern → (next : NodeId) → Emitting (List NodeId)
  | [], _ => return []
  | branch :: branches, next => do
      let first ← pattern parsed branch next
      return first :: (← alternatives parsed branches next)

/-- Makes the nodes of the branches of a lookbehind, and gives the width and the first node of
each. -/
def measured (parsed : ParsedPattern) :
    List Pattern → (offset : Nat) → Emitting (List (Nat × NodeId))
  | [], _ => return []
  | branch :: branches, offset => do
      let width ← branch.branchWidth offset
      let first ← pattern parsed branch Program.done
      return (width, first) :: (← measured parsed branches offset)

end

end Emitting

def Program.ofPattern (parsed : ParsedPattern) : Except CompileError Program := do
  let (start, emitter) ← (Emitting.pattern parsed parsed.pattern Program.done).run {}
  return ⟨emitter.nodes, start, emitter.loopSlots⟩

end Backtracking
