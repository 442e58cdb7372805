import Backtracking.Unicode.CharacterClasses

/-!
# Characters in listings

Listings show text with escapes for the characters that would not be seen, or that stand for the
end of a quoted text: a backslash and a letter for the common control characters, and the code
point for every other character without a visible form of its own.
-/

namespace Backtracking

/-- What is escaped besides control characters and the backslash: either kind of quote, and
characters that extend the one before them. -/
structure EscapeStyle where
  singleQuotes : Bool
  doubleQuotes : Bool
  extending : Bool

namespace EscapeStyle

/-- A character on its own. -/
def alone : EscapeStyle := ⟨true, true, true⟩

/-- A character in a run of characters, where an extending one has something to extend. -/
def following : EscapeStyle := ⟨true, true, false⟩

def singleQuoted : EscapeStyle := ⟨true, false, true⟩

def doubleQuoted : EscapeStyle := ⟨false, true, true⟩

end EscapeStyle

def codePointEscape (character : Char) : String :=
  "\\u\x7b" ++ String.ofList (Nat.toDigits 16 character.toNat) ++ "\x7d"

def escapeChar (style : EscapeStyle) (character : Char) : String :=
  match character with
  | '\x00' => "\\0"
  | '\t' => "\\t"
  | '\r' => "\\r"
  | '\n' => "\\n"
  | '\\' => "\\\\"
  | '"' => if style.doubleQuotes then "\\\"" else "\""
  | '\'' => if style.singleQuotes then "\\'" else "'"
  | _ =>
      if (style.extending && Unicode.isExtending character) || !Unicode.isPrintable character then
        codePointEscape character
      else
        character.toString

/-- Every character of a text in one style. -/
def escapeAll (style : EscapeStyle) (text : List Char) : String :=
  String.join (text.map (escapeChar style))

/-- A run of characters, of which only the first has nothing before it. -/
def escapeRun : List Char → String
  | [] => ""
  | first :: rest => escapeChar .alone first ++ escapeAll .following rest

def quoteChar (character : Char) : String :=
  "'" ++ escapeChar .singleQuoted character ++ "'"

def quoteText (text : List Char) : String :=
  "\"" ++ escapeAll .doubleQuoted text ++ "\""

end Backtracking
