import Backtracking.Pattern.Basic

/-!
# Width

The least and the greatest number of characters that a pattern can take.  There is no greatest
number where repetitions are unbounded, nor for references, whose text is known only in a search.
Numbers that do not fit a machine word are replaced by the greatest word.
-/

namespace Backtracking

/-- The bounds on the number of characters that a pattern takes. -/
structure Width where
  least : Nat
  most : Option Nat
deriving DecidableEq

namespace Width

def greatestWord : Nat := UInt64.size - 1

/-- The sum of two words, or the greatest word. -/
def add (left right : Nat) : Nat := min greatestWord (left + right)

/-- The product of two words, or the greatest word. -/
def mul (left right : Nat) : Nat := min greatestWord (left * right)

def zero : Width := ⟨0, some 0⟩

def append (left right : Width) : Width where
  least := add left.least right.least
  most :=
    match left.most, right.most with
    | some left, some right => some (add left right)
    | _, _ => none

def either (left right : Width) : Width where
  least := min left.least right.least
  most :=
    match left.most, right.most with
    | some left, some right => some (max left right)
    | _, _ => none

def times (body : Width) (least : Nat) (most : Option Nat) : Width where
  least := mul body.least least
  most :=
    match body.most, most with
    | some 0, _ => some 0
    | some body, some most => some (mul body most)
    | _, _ => none

/-- The number of characters, if it is always the same. -/
def fixed? (width : Width) : Option Nat :=
  if width.most = some width.least then some width.least else none

end Width

namespace Pattern

mutual

def width : Pattern → Width
  | .empty | .assert _ | .lookAround _ _ _ _ => .zero
  | .char _ => ⟨1, some 1⟩
  | .group _ body | .atomic body => width body
  | .concat items => sequenceWidth items
  | .alternation branches => choiceWidth branches
  | .repeated body least most _ => (width body).times least most
  | .backReference _ _ _ => ⟨0, none⟩
  | .conditional _ yes no _ => (width yes).either (width no)

def sequenceWidth : List Pattern → Width
  | [] => .zero
  | item :: items => (width item).append (sequenceWidth items)

def choiceWidth : List Pattern → Width
  | [] => .zero
  | [branch] => width branch
  | branch :: branches => (width branch).either (choiceWidth branches)

end

/-- The number of characters that a pattern takes, if it is always the same. -/
def fixedWidth? (pattern : Pattern) : Option Nat := pattern.width.fixed?

end Pattern

end Backtracking
