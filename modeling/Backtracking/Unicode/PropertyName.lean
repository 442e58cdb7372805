import Backtracking.Unicode.Age
import Backtracking.Unicode.CharacterClasses
import Backtracking.Unicode.Script
import Backtracking.Unicode.TextBoundary

/-!
# Names of properties

A pattern names a set of characters by a general category, a script or a binary property, or by a
property and one of its values with an equals sign between them.  Names are compared in loose
form: without regard to case, and without blanks, underscores, hyphens and a leading `is`.
-/

namespace Backtracking

namespace PropertyName

def isNameChar (character : Char) : Bool :=
  character.isAlphanum || ['_', '&', ' ', '-', '='].contains character

/-- The characters of a name that matter, in lower case. -/
def significant (name : List Char) : List Char :=
  (name.filter fun character => !([' ', '_', '-'].contains character)).map Char.toLower

/-- A name in loose form.  The short name `isc` of a comment property is not the name `c` of a
category with `is` in front. -/
def loose (name : List Char) : String :=
  match name with
  | first :: second :: rest =>
      if first.toLower = 'i' && second.toLower = 's' then
        let stem := String.ofList (significant rest)
        if stem = "c" then "isc" else stem
      else
        String.ofList (significant name)
  | _ => String.ofList (significant name)

/-- The characters of a name without a value. -/
def unary? (name : String) : Option (List CharRange) :=
  match BinaryProperty.named? name with
  | some property => some property.ranges
  | none =>
      match GeneralCategory.named? name with
      | some ranges => some ranges
      | none => (Script.named? name).map Script.ranges

/-- The characters for which a property has a value. -/
def withValue? (property value : String) : Option (List CharRange) :=
  if property = "gc" || property = "generalcategory" then GeneralCategory.named? value
  else if property = "sc" || property = "script" then (Script.named? value).map Script.ranges
  else if property = "scx" || property = "scriptextensions" then
    (Script.named? value).map Script.extensions
  else if property = "age" then Age.named? value
  else if property = "gcb" || property = "graphemeclusterbreak" then
    BoundaryClass.named? BoundaryClass.graphemeCluster value
  else if property = "wb" || property = "wordbreak" then
    BoundaryClass.named? BoundaryClass.word value
  else if property = "sb" || property = "sentencebreak" then
    BoundaryClass.named? BoundaryClass.sentence value
  else none

/-- The characters of a name in the usual spelling of properties. -/
def standard? (name : List Char) : Option (List CharRange) :=
  match name.dropWhile (· != '=') with
  | [] => unary? (loose name)
  | _ :: value => withValue? (loose (name.takeWhile (· != '='))) (loose value)

/-- The characters that a property name of a pattern stands for.  Some names exist in patterns
only; they have to be written exactly. -/
def ranges? (name : List Char) : Option (List CharRange) :=
  if name.isEmpty || !name.all isNameChar then none
  else
    match String.ofList name with
    | "Any" => some CharRange.all
    | "L&" | "LC" => some (GeneralCategory.union GeneralCategory.casedLetters)
    | "Xan" =>
        some (GeneralCategory.union (GeneralCategory.letters ++ GeneralCategory.numbers))
    | "Xsp" | "Xps" => some Unicode.spaces
    | "Xwd" => some Unicode.wordChars
    | _ => if name.contains '&' then none else standard? name

end PropertyName

end Backtracking
