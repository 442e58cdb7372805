import Backtracking.Flags
import Backtracking.Unicode.CharacterClasses

/-!
# Delimited patterns

A pattern may be written between delimiters, with the letters of its flags behind the closing one.
A bracket is closed by its partner, and pairs of the two may be nested in the pattern; any other
delimiter is closed by its next occurrence.  A backslash takes the character after it along.
-/

namespace Backtracking

/-- A pattern with the flag letters that were written behind it. -/
structure Delimited where
  pattern : List Char
  letters : List Char
deriving DecidableEq

namespace Delimited

/-- The delimiter that closes what a delimiter opens. -/
def closing (delimiter : Char) : Char :=
  match delimiter with
  | '(' => ')'
  | '[' => ']'
  | '{' => '}'
  | '<' => '>'
  | other => other

/-- Splits a text at the closing delimiter that `nesting` open pairs still allow for. -/
def splitAtClosing? (opening closing : Char) (nesting : Nat) : List Char → Option Delimited
  | [] => none
  | ['\\'] => none
  | '\\' :: escaped :: rest =>
      (splitAtClosing? opening closing nesting rest).map fun delimited =>
        { delimited with pattern := '\\' :: escaped :: delimited.pattern }
  | character :: rest =>
      if character = closing && nesting = 0 then some ⟨[], rest⟩
      else
        let nesting :=
          if closing = opening then nesting
          else if character = opening then nesting + 1
          else if character = closing then nesting - 1
          else nesting
        (splitAtClosing? opening closing nesting rest).map fun delimited =>
          { delimited with pattern := character :: delimited.pattern }

def split (text : List Char) : Except CompileError Delimited :=
  match text.dropWhile Unicode.isSpace with
  | [] => .error .emptyPattern
  | delimiter :: rest =>
      if Unicode.isAlphanumeric delimiter || delimiter = '\\' then
        .error (.invalidDelimiter delimiter)
      else
        match splitAtClosing? delimiter (closing delimiter) 0 rest with
        | some delimited => .ok delimited
        | none => .error (.missingDelimiter (closing delimiter))

end Delimited

end Backtracking
