import Backtracking.Chars.AsciiSet
import Backtracking.Pattern.Width

/-!
# Hints

What every match of a pattern has in common: the characters that it may begin with, a text that it
begins with, a least length, or that it begins at the start of the subject.  A search passes over
the positions where no match can begin.
-/

namespace Backtracking

/-- What is known of every match of a pattern.

* `minLength`: the least number of its characters.
* `firstChar`: the character that it begins with.
* `firstSet`: the ASCII characters that it may begin with; it says nothing of other characters.
* `leading`: a text that it begins with.
* `anchoredStart`: it begins at the start of the subject. -/
structure Hints where
  minLength : Nat
  firstChar : Option Char
  firstSet : Option AsciiSet
  leading : List Char
  anchoredStart : Bool
deriving DecidableEq

/-- The ASCII characters that a pattern may take first, and whether it may take none at all. -/
structure FirstSet where
  members : AsciiSet
  nullable : Bool

namespace FirstSet

/-- What may come first in a pattern that takes nothing. -/
def nothing : FirstSet := ⟨.empty, true⟩

/-- What may come first in one of two patterns. -/
def either (left right : FirstSet) : FirstSet :=
  ⟨left.members.union right.members, left.nullable || right.nullable⟩

end FirstSet

namespace Pattern

mutual

/-- What a pattern may take first.  It is not known for a pattern that depends on captures or looks
around. -/
def first? : Pattern → Option FirstSet
  | .empty | .assert _ => some .nothing
  | .char matcher => some ⟨AsciiSet.ofTest matcher.accepts, false⟩
  | .group _ body | .atomic body => first? body
  | .concat items => sequenceFirst? items
  | .alternation branches => choiceFirst? branches
  | .repeated body least most _ =>
      if most = some 0 then some .nothing
      else (first? body).map fun first => { first with nullable := first.nullable || least == 0 }
  | .lookAround _ _ _ _ | .backReference _ _ _ | .conditional _ _ _ _ => none

/-- What a sequence may take first: what its items may, up to one that takes something. -/
def sequenceFirst? : List Pattern → Option FirstSet
  | [] => some .nothing
  | item :: items =>
      match first? item with
      | none => none
      | some first =>
          if first.nullable then
            (sequenceFirst? items).map fun rest =>
              ⟨first.members.union rest.members, rest.nullable⟩
          else
            some first

def choiceFirst? : List Pattern → Option FirstSet
  | [] => some ⟨.empty, false⟩
  | branch :: branches =>
      match first? branch with
      | none => none
      | some first => (choiceFirst? branches).map first.either

end

mutual

/-- The character that every match begins with. -/
def firstChar? : Pattern → Option Char
  | .char (.char character) => some character
  | .group _ body | .atomic body => firstChar? body
  | .repeated body least _ _ => if least > 0 then firstChar? body else none
  | .concat items => sequenceFirstChar? items
  | .alternation branches => choiceFirstChar? branches
  | _ => none

/-- The first character of a sequence is that of its first item which is no assertion, if this item
always takes something. -/
def sequenceFirstChar? : List Pattern → Option Char
  | [] => none
  | .assert _ :: items => sequenceFirstChar? items
  | item :: _ => if item.width.least = 0 then none else firstChar? item

/-- The first character that all branches of a choice agree on. -/
def choiceFirstChar? : List Pattern → Option Char
  | [] => none
  | [branch] => firstChar? branch
  | branch :: branches =>
      match firstChar? branch, choiceFirstChar? branches with
      | some left, some right => if left = right then some left else none
      | _, _ => none

end

/-- A text that every match begins with; `whole` tells that it is the text of every match, so that
what follows the pattern may extend it. -/
structure Leading where
  text : List Char
  whole : Bool

mutual

def leading : Pattern → Leading
  | .empty | .assert _ => ⟨[], true⟩
  | .char (.char character) => ⟨[character], true⟩
  | .group _ body | .atomic body => leading body
  | .concat items => sequenceLeading items
  | .repeated body least _ _ => if least > 0 then ⟨(leading body).text, false⟩ else ⟨[], false⟩
  | _ => ⟨[], false⟩

def sequenceLeading : List Pattern → Leading
  | [] => ⟨[], true⟩
  | item :: items =>
      let first := leading item
      if first.whole then
        let rest := sequenceLeading items
        ⟨first.text ++ rest.text, rest.whole⟩
      else
        first

end

mutual

/-- Whether every match begins at the start of the subject. -/
def startsAtInputStart : Pattern → Bool
  | .assert .startOfInput => true
  | .group _ body | .atomic body => startsAtInputStart body
  | .concat items => sequenceStartsAtInputStart items
  | .alternation branches => allStartAtInputStart branches
  | _ => false

def sequenceStartsAtInputStart : List Pattern → Bool
  | [] => false
  | item :: _ => startsAtInputStart item

def allStartAtInputStart : List Pattern → Bool
  | [] => true
  | branch :: branches => startsAtInputStart branch && allStartAtInputStart branches

end

/-- The hints of a pattern.  The first characters are of no use where a match may be empty. -/
def hints (pattern : Pattern) : Hints where
  minLength := pattern.width.least
  firstChar := pattern.firstChar?
  firstSet := pattern.first?.bind fun first => if first.nullable then none else some first.members
  leading := pattern.leading.text
  anchoredStart := pattern.startsAtInputStart

end Pattern

end Backtracking
