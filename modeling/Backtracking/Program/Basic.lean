import Backtracking.Pattern.Basic

/-!
# Programs

A program is a table of nodes that refer to each other by number.  A node says what to do at a
position of the subject and with which node to go on; node zero says that a match is complete.
Loops are the only way back to a greater number: the body of a loop ends at its tail, and the tail
leads to its head.
-/

namespace Backtracking

abbrev NodeId := Nat

/-- A node of a program.

* `done`: the match, or the part of a pattern that is tried on its own, is complete.
* `char`, `literal`: take one character, or a text.
* `assert`: go on if a condition on the position holds.
* `groupStart`, `groupEnd`: note where a capture group begins, and capture it where it ends.
* `backReference`: take the text that a group has captured.
* `alternation`: go on with the first alternative that leads to a match.
* `loopHead`, `loopTail`: the entry of a loop, whose iterations are counted in a slot, and the end
  of one iteration.
* `charRepeat`: a loop around one character.
* `possessive`, `atomic`: parts that are tried on their own, and give nothing back.
* `lookAhead`, `lookBehind`: parts that are tried without taking anything.  Each branch behind has
  a width, the distance at which it begins.
* `conditional`: go on as a capture group tells. -/
inductive Node where
  | done
  | char (matcher : CharMatcher) (next : NodeId)
  | literal (text : List Char) (ignoresCase : Bool) (next : NodeId)
  | assert (assertion : Assertion) (next : NodeId)
  | groupStart (group : Nat) (next : NodeId)
  | groupEnd (group : Nat) (next : NodeId)
  | backReference (group : Nat) (ignoresCase : Bool) (next : NodeId)
  | alternation (alternatives : List NodeId)
  | loopHead (slot least : Nat) (most : Option Nat) (greedy : Bool) (body next : NodeId)
  | loopTail (head : NodeId)
  | charRepeat (matcher : CharMatcher) (least : Nat) (most : Option Nat) (mode : RepeatMode)
      (next : NodeId)
  | possessive (body : NodeId) (least : Nat) (most : Option Nat) (next : NodeId)
  | atomic (body next : NodeId)
  | lookAhead (body : NodeId) (negated : Bool) (next : NodeId)
  | lookBehind (branches : List (Nat × NodeId)) (negated : Bool) (next : NodeId)
  | conditional (group : Nat) (yes no : NodeId)
deriving DecidableEq

/-- A compiled pattern: its nodes, the first of them to execute, and the number of loop slots. -/
structure Program where
  nodes : Array Node
  start : NodeId
  loopSlots : Nat
deriving DecidableEq

namespace Program

/-- The node at which a match is complete. -/
def done : NodeId := 0

/-- What stands for a node that is not made yet: the greatest number of 32 bits. -/
def unset : NodeId := UInt32.size - 1

def size (program : Program) : Nat := program.nodes.size

def node (program : Program) (id : NodeId) : Node := program.nodes.getD id .done

end Program

end Backtracking
