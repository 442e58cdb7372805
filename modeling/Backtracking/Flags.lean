import Backtracking.Error

/-!
# Flags

The options that a pattern is compiled with.  Each is set by one letter; blanks and line ends
between the letters are ignored.
-/

namespace Backtracking

/-- The options of a pattern.

* `ignoreCase`, `i`: letters match both of their case forms.
* `multiline`, `m`: `^` and `$` match at line boundaries.
* `dotAll`, `s`: a dot matches a line end too.
* `extended`, `x`: blanks and comments in the pattern are ignored.
* `unicode`, `u`: shorthands and named classes are not confined to ASCII.
* `eval`, `e`: recorded, without an effect on matching.
* `ungreedy`, `U`: quantifiers are lazy unless a question mark follows.
* `dollarEndOnly`, `D`: `$` matches at the very end only.
* `anchored`, `A`: a match has to begin where the search begins. -/
structure Flags where
  ignoreCase : Bool := false
  multiline : Bool := false
  dotAll : Bool := false
  extended : Bool := false
  unicode : Bool := false
  eval : Bool := false
  ungreedy : Bool := false
  dollarEndOnly : Bool := false
  anchored : Bool := false
deriving DecidableEq, Inhabited

namespace Flags

def add (flags : Flags) (letter : Char) : Except CompileError Flags :=
  match letter with
  | 'i' => .ok { flags with ignoreCase := true }
  | 'm' => .ok { flags with multiline := true }
  | 's' => .ok { flags with dotAll := true }
  | 'x' => .ok { flags with extended := true }
  | 'u' => .ok { flags with unicode := true }
  | 'e' => .ok { flags with eval := true }
  | 'U' => .ok { flags with ungreedy := true }
  | 'D' => .ok { flags with dollarEndOnly := true }
  | 'A' => .ok { flags with anchored := true }
  | ' ' | '\n' | '\r' => .ok flags
  | _ => .error (.unknownFlag letter)

/-- The flags of some letters; the first unknown one is an error. -/
def parse (letters : List Char) : Except CompileError Flags :=
  letters.foldlM add {}

/-- The letters of the flags that are set. -/
def render (flags : Flags) : String :=
  let letters :=
    [(flags.ignoreCase, 'i'), (flags.multiline, 'm'), (flags.dotAll, 's'), (flags.extended, 'x'),
      (flags.unicode, 'u'), (flags.ungreedy, 'U'), (flags.dollarEndOnly, 'D'),
      (flags.anchored, 'A'), (flags.eval, 'e')]
  String.ofList ((letters.filter (·.1)).map (·.2))

end Flags

end Backtracking
