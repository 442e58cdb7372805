import Backtracking.Chars.Listing
import Backtracking.Program.Basic

/-!
# Listings of programs

A listing has a line for each node, with its number in five digits and what it does.
-/

namespace Backtracking

namespace Listing

/-- The number of a node in at least five digits. -/
def nodeId (id : NodeId) : String :=
  let digits := toString id
  String.ofList (List.replicate (5 - digits.length) '0') ++ digits

def caseMark (ignoresCase : Bool) : String := if ignoresCase then "/i" else ""

def bounds (least : Nat) (most : Option Nat) : String :=
  "\x7b" ++ toString least ++ "," ++ (most.map toString).getD "inf" ++ "\x7d"

def modeMark : RepeatMode → String
  | .greedy => ""
  | .lazy => "?"
  | .possessive => "+"

def assertion : Assertion → String
  | .startOfInput => "START_OF_INPUT"
  | .startOfLine => "START_OF_LINE"
  | .endOfInput => "END_OF_INPUT"
  | .endOfInputOrNewline => "END_OF_INPUT_OR_NL"
  | .endOfLine => "END_OF_LINE"
  | .searchOrigin => "SEARCH_ORIGIN"
  | .previousMatchEnd => "PREV_MATCH_END"
  | .wordBoundary _ => "WORD_BOUNDARY"
  | .notWordBoundary _ => "NOT_WORD_BOUNDARY"

/-- What leads to the next node. -/
def followedBy (text : String) (next : NodeId) : String := text ++ " -> " ++ nodeId next

def node : Node → String
  | .done => "END"
  | .char matcher next => followedBy ("CHAR " ++ matcher.render) next
  | .literal text ignoresCase next =>
      followedBy ("LIT \"" ++ escapeRun text ++ "\"" ++ caseMark ignoresCase) next
  | .assert condition next => followedBy ("ASSERT " ++ assertion condition) next
  | .groupStart group next => followedBy ("GROUP_START " ++ toString group) next
  | .groupEnd group next => followedBy ("GROUP_END " ++ toString group) next
  | .backReference group ignoresCase next =>
      followedBy ("BACKREF " ++ toString group ++ caseMark ignoresCase) next
  | .alternation alternatives =>
      "ALT" ++ String.join (alternatives.map fun id => " " ++ nodeId id)
  | .loopHead slot least most greedy body next =>
      followedBy
        ("LOOP_HEAD #" ++ toString slot ++ " " ++ bounds least most ++
          (if greedy then "" else "?") ++ " body=" ++ nodeId body)
        next
  | .loopTail head => "LOOP_TAIL head=" ++ nodeId head
  | .charRepeat matcher least most mode next =>
      followedBy
        ("CHAR_REPEAT " ++ matcher.render ++ " " ++ bounds least most ++ modeMark mode) next
  | .possessive body least most next =>
      followedBy ("POSSESSIVE " ++ bounds least most ++ " body=" ++ nodeId body) next
  | .atomic body next => followedBy ("ATOMIC body=" ++ nodeId body) next
  | .lookAhead body negated next =>
      followedBy ((if negated then "NEG_LOOKAHEAD" else "LOOKAHEAD") ++ " body=" ++ nodeId body)
        next
  | .lookBehind branches negated next =>
      followedBy
        ((if negated then "NEG_LOOKBEHIND" else "LOOKBEHIND") ++
          String.join (branches.map fun (width, body) =>
            " " ++ toString width ++ ":" ++ nodeId body))
        next
  | .conditional group yes no =>
      "COND " ++ toString group ++ " yes=" ++ nodeId yes ++ " no=" ++ nodeId no

/-- The text of some lines, each with its line end. -/
def lines (texts : List String) : String := String.join (texts.map (· ++ "\n"))

end Listing

def Program.listing (program : Program) : List String :=
  program.nodes.toList.mapIdx fun id node => Listing.nodeId id ++ ": " ++ Listing.node node

end Backtracking
