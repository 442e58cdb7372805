/-!
# Lines

A line ends with a line feed or with the text.  The line feed is not part of the line, nor is a
carriage return right before it.
-/

namespace Backtracking

namespace Lines

/-- A line without the carriage return at its end.  The line is given backwards. -/
def dropReturn : List Char → List Char
  | '\r' :: rest => rest
  | line => line

/-- The lines of a text that goes on a line, of which the characters read are given backwards. -/
def splitFrom (begun : List Char) : List Char → List (List Char)
  | [] => if begun.isEmpty then [] else [begun.reverse]
  | '\n' :: rest => (dropReturn begun).reverse :: splitFrom [] rest
  | character :: rest => splitFrom (character :: begun) rest

def split (text : List Char) : List (List Char) := splitFrom [] text

end Lines

end Backtracking
