import Backtracking.Proofs.Compilation
import Backtracking.Proofs.PatternHeights

/-!
# Nested calls

The functions that go through the tree of a pattern call themselves, and some of them each other,
for parts of the pattern.  Here each of them is written with its calls left open, and they are put
into each other so many times: their calls may then be nested so deep and no deeper.  A call that
would be nested deeper has no answer, nor has any call that needs its answer.  The members of a list
are gone through one after the other, which nests nothing.

Calls that may be nested as deep as a pattern is high give what the functions themselves give.  As
the nesting of parentheses bounds the height, it bounds all of these recursions.
-/

namespace Backtracking

/-- A step of making nodes in which calls may have no answer. -/
abbrev Calling := StateT Emitter (ExceptT CompileError Option)

/-- A step without calls lacks no answer. -/
instance : MonadLift Emitting Calling where
  monadLift step := fun before => some (step before)

/-- The answers to calls, as far as they have any. -/
structure Calls where
  width : Pattern → Option Width
  first : Pattern → Option (Option FirstSet)
  firstChar : Pattern → Option (Option Char)
  leading : Pattern → Option Pattern.Leading
  startsAtInputStart : Pattern → Option Bool
  nodes : ParsedPattern → Pattern → NodeId → Calling NodeId

/-! ## The functions, with their calls left open -/

namespace Pattern

variable (calls : Calls)

def sequenceWidthBy : List Pattern → Option Width
  | [] => return .zero
  | item :: items => return (← calls.width item).append (← sequenceWidthBy items)

def choiceWidthBy : List Pattern → Option Width
  | [] => return .zero
  | [branch] => calls.width branch
  | branch :: second :: branches =>
      return (← calls.width branch).either (← choiceWidthBy (second :: branches))

/-- The width of a pattern, by calls for its parts. -/
def widthBy : Pattern → Option Width
  | .empty | .assert _ | .lookAround _ _ _ _ => return .zero
  | .char _ => return ⟨1, some 1⟩
  | .group _ body | .atomic body => calls.width body
  | .concat items => sequenceWidthBy calls items
  | .alternation branches => choiceWidthBy calls branches
  | .repeated body least most _ => return (← calls.width body).times least most
  | .backReference _ _ _ => return ⟨0, none⟩
  | .conditional _ yes no _ => return (← calls.width yes).either (← calls.width no)

def sequenceFirstBy : List Pattern → Option (Option FirstSet)
  | [] => return some .nothing
  | item :: items => do
      match ← calls.first item with
      | none => return none
      | some first =>
          if first.nullable then
            return (← sequenceFirstBy items).map fun rest =>
              ⟨first.members.union rest.members, rest.nullable⟩
          else
            return some first

def choiceFirstBy : List Pattern → Option (Option FirstSet)
  | [] => return some ⟨.empty, false⟩
  | branch :: branches => do
      match ← calls.first branch with
      | none => return none
      | some first => return (← choiceFirstBy branches).map first.either

def firstBy : Pattern → Option (Option FirstSet)
  | .empty | .assert _ => return some .nothing
  | .char matcher => return some ⟨AsciiSet.ofTest matcher.accepts, false⟩
  | .group _ body | .atomic body => calls.first body
  | .concat items => sequenceFirstBy calls items
  | .alternation branches => choiceFirstBy calls branches
  | .repeated body least most _ => do
      if most = some 0 then
        return some .nothing
      else
        return (← calls.first body).map fun first =>
          { first with nullable := first.nullable || least == 0 }
  | .lookAround _ _ _ _ | .backReference _ _ _ | .conditional _ _ _ _ => return none

def sequenceFirstCharBy : List Pattern → Option (Option Char)
  | [] => return none
  | .assert _ :: items => sequenceFirstCharBy items
  | item :: _ => do
      if (← calls.width item).least = 0 then return none else calls.firstChar item

def choiceFirstCharBy : List Pattern → Option (Option Char)
  | [] => return none
  | [branch] => calls.firstChar branch
  | branch :: second :: branches => do
      match ← calls.firstChar branch, ← choiceFirstCharBy (second :: branches) with
      | some left, some right => return if left = right then some left else none
      | _, _ => return none

/-- The character that every match begins with, by calls for the parts of a pattern and for their
widths. -/
def firstCharBy : Pattern → Option (Option Char)
  | .char (.char character) => return some character
  | .group _ body | .atomic body => calls.firstChar body
  | .repeated body least _ _ => if least > 0 then calls.firstChar body else return none
  | .concat items => sequenceFirstCharBy calls items
  | .alternation branches => choiceFirstCharBy calls branches
  | _ => return none

def sequenceLeadingBy : List Pattern → Option Leading
  | [] => return ⟨[], true⟩
  | item :: items => do
      let first ← calls.leading item
      if first.whole then
        let rest ← sequenceLeadingBy items
        return ⟨first.text ++ rest.text, rest.whole⟩
      else
        return first

def leadingBy : Pattern → Option Leading
  | .empty | .assert _ => return ⟨[], true⟩
  | .char (.char character) => return ⟨[character], true⟩
  | .group _ body | .atomic body => calls.leading body
  | .concat items => sequenceLeadingBy calls items
  | .repeated body least _ _ => do
      if least > 0 then return ⟨(← calls.leading body).text, false⟩ else return ⟨[], false⟩
  | _ => return ⟨[], false⟩

def allStartAtInputStartBy : List Pattern → Option Bool
  | [] => return true
  | branch :: branches => do
      if ← calls.startsAtInputStart branch then
        allStartAtInputStartBy branches
      else
        return false

def startsAtInputStartBy : Pattern → Option Bool
  | .assert .startOfInput => return true
  | .group _ body | .atomic body => calls.startsAtInputStart body
  | .concat (item :: _) => calls.startsAtInputStart item
  | .alternation branches => allStartAtInputStartBy calls branches
  | _ => return false

end Pattern

namespace Emitting

variable (calls : Calls) (parsed : ParsedPattern)

def sequenceBy : List Pattern → (next : NodeId) → Calling PendingText
  | [], next => return ⟨[], false, next⟩
  | item :: items, next => do
      let pending ← sequenceBy items next
      match item with
      | .char (.char character) => pending.prepend character false
      | .char (.charIgnoringCase character) => pending.prepend character true
      | _ => return ⟨[], false, ← calls.nodes parsed item (← pending.flush)⟩

def alternativesBy : List Pattern → (next : NodeId) → Calling (List NodeId)
  | [], _ => return []
  | branch :: branches, next => do
      let first ← calls.nodes parsed branch next
      return first :: (← alternativesBy branches next)

def measuredBy : List Pattern → (offset : Nat) → Calling (List (Nat × NodeId))
  | [], _ => return []
  | branch :: branches, offset => do
      match (← calls.width branch).fixed? with
      | none => throw (.lookBehindNotFixedLength offset)
      | some width =>
          let first ← calls.nodes parsed branch Program.done
          return (width, first) :: (← measuredBy branches offset)

/-- The nodes of a pattern, by calls for the nodes of its parts and for the widths of the branches
of lookbehinds. -/
def patternBy : Pattern → (next : NodeId) → Calling NodeId
  | .empty, next => return next
  | .char matcher, next => push (.char matcher next)
  | .assert assertion, next => push (.assert assertion next)
  | .group index body, next => do
      let stop ← push (.groupEnd index next)
      push (.groupStart index (← calls.nodes parsed body stop))
  | .concat items, next => do (← sequenceBy calls parsed items next).flush
  | .alternation branches, next => do
      push (.alternation (← alternativesBy calls parsed branches next))
  | .repeated body least most mode, next => do
      if most = some 0 then
        return next
      else if let .char matcher := body then
        push (.charRepeat matcher least most mode next)
      else if mode = .possessive then
        push (.possessive (← calls.nodes parsed body Program.done) least most next)
      else if least = 1 ∧ most = some 1 then
        calls.nodes parsed body next
      else if least = 0 ∧ most = some 1 then
        let body ← calls.nodes parsed body next
        push (.alternation (if mode = .greedy then [body, next] else [next, body]))
      else
        let greedy := mode = .greedy
        let slot ← newSlot
        let head ← push (.loopHead slot least most greedy Program.unset next)
        let tail ← push (.loopTail head)
        let body ← calls.nodes parsed body tail
        replace head (.loopHead slot least most greedy body next)
        return head
  | .lookAround .ahead negated body _, next => do
      push (.lookAhead (← calls.nodes parsed body Program.done) negated next)
  | .lookAround .behind negated body offset, next => do
      push (.lookBehind (← measuredBy calls parsed body.branches offset) negated next)
  | .atomic body, next => do push (.atomic (← calls.nodes parsed body Program.done) next)
  | .backReference target ignoresCase offset, next => do
      push (.backReference (← parsed.resolve target offset) ignoresCase next)
  | .conditional target yes no offset, next => do
      let group ← parsed.resolve target offset
      let yes ← calls.nodes parsed yes next
      push (.conditional group yes (← calls.nodes parsed no next))

end Emitting

namespace Calls

/-- Calls whose own calls are answered as given. -/
def around (calls : Calls) : Calls where
  width := Pattern.widthBy calls
  first := Pattern.firstBy calls
  firstChar := Pattern.firstCharBy calls
  leading := Pattern.leadingBy calls
  startsAtInputStart := Pattern.startsAtInputStartBy calls
  nodes := Emitting.patternBy calls

/-- Calls that are nested at most `depth` deep. -/
def nested : (depth : Nat) → Calls
  | 0 => {
      width := fun _ => none
      first := fun _ => none
      firstChar := fun _ => none
      leading := fun _ => none
      startsAtInputStart := fun _ => none
      nodes := fun _ _ _ _ => none }
  | depth + 1 => (nested depth).around

/-- All calls for a pattern are answered, with what the functions themselves give. -/
structure Answer (calls : Calls) (pattern : Pattern) : Prop where
  width : calls.width pattern = some pattern.width
  first : calls.first pattern = some pattern.first?
  firstChar : calls.firstChar pattern = some pattern.firstChar?
  leading : calls.leading pattern = some pattern.leading
  startsAtInputStart : calls.startsAtInputStart pattern = some pattern.startsAtInputStart
  nodes : ∀ parsed next, calls.nodes parsed pattern next = Emitting.pattern parsed pattern next

/-- All calls for patterns lower than `height` are answered in that way. -/
def AnswerBelow (calls : Calls) (height : Nat) : Prop :=
  ∀ pattern : Pattern, pattern.height < height → calls.Answer pattern

namespace AnswerBelow

variable {calls : Calls}

theorem body {body : Pattern} (below : calls.AnswerBelow (body.height + 1)) : calls.Answer body :=
  below body (Nat.lt_succ_self _)

theorem members {patterns : List Pattern}
    (below : calls.AnswerBelow (Pattern.heightOfAll patterns + 1)) :
    ∀ pattern ∈ patterns, calls.Answer pattern := fun pattern member =>
  below pattern (Nat.lt_succ_of_le (Pattern.height_le_heightOfAll member))

theorem both {first second : Pattern}
    (below : calls.AnswerBelow (max first.height second.height + 1)) :
    calls.Answer first ∧ calls.Answer second :=
  ⟨below first (Nat.lt_succ_of_le (Nat.le_max_left ..)),
    below second (Nat.lt_succ_of_le (Nat.le_max_right ..))⟩

end AnswerBelow

end Calls

/-! ## Answers -/

namespace Pattern

section Members

variable {calls : Calls} {patterns : List Pattern}
  (known : ∀ pattern ∈ patterns, calls.Answer pattern)
include known

theorem sequenceWidthBy_eq : sequenceWidthBy calls patterns = some (sequenceWidth patterns) := by
  induction patterns with
  | nil => rfl
  | cons item items ih =>
      obtain ⟨first, rest⟩ := List.forall_mem_cons.mp known
      rw [sequenceWidthBy, first.width, ih rest]
      rfl

theorem choiceWidthBy_eq : choiceWidthBy calls patterns = some (choiceWidth patterns) := by
  induction patterns with
  | nil => rfl
  | cons branch branches ih =>
      obtain ⟨first, rest⟩ := List.forall_mem_cons.mp known
      cases branches with
      | nil => exact first.width
      | cons second branches =>
          rw [choiceWidthBy, first.width, ih rest]
          rfl

theorem sequenceFirstBy_eq : sequenceFirstBy calls patterns = some (sequenceFirst? patterns) := by
  induction patterns with
  | nil => rfl
  | cons item items ih =>
      obtain ⟨first, rest⟩ := List.forall_mem_cons.mp known
      rw [sequenceFirstBy, first.first, ih rest, sequenceFirst?]
      cases item.first? with
      | none => rfl
      | some first => cases nullable : first.nullable <;> simp [nullable]

theorem choiceFirstBy_eq : choiceFirstBy calls patterns = some (choiceFirst? patterns) := by
  induction patterns with
  | nil => rfl
  | cons branch branches ih =>
      obtain ⟨first, rest⟩ := List.forall_mem_cons.mp known
      rw [choiceFirstBy, first.first, ih rest, choiceFirst?]
      cases branch.first? <;> rfl

theorem sequenceFirstCharBy_eq :
    sequenceFirstCharBy calls patterns = some (sequenceFirstChar? patterns) := by
  induction patterns with
  | nil => rfl
  | cons item items ih =>
      obtain ⟨first, rest⟩ := List.forall_mem_cons.mp known
      cases item
      case assert assertion => exact ih rest
      all_goals
        simp only [sequenceFirstCharBy, first.width, first.firstChar, Option.bind_eq_bind,
          Option.bind_some, sequenceFirstChar?]
        split <;> rfl

theorem choiceFirstCharBy_eq :
    choiceFirstCharBy calls patterns = some (choiceFirstChar? patterns) := by
  induction patterns with
  | nil => rfl
  | cons branch branches ih =>
      obtain ⟨first, rest⟩ := List.forall_mem_cons.mp known
      cases branches with
      | nil => exact first.firstChar
      | cons second branches =>
          rw [choiceFirstCharBy, choiceFirstChar?, first.firstChar, ih rest]
          · cases branch.firstChar? <;> cases choiceFirstChar? (second :: branches) <;> rfl
          · exact List.cons_ne_nil second branches

theorem sequenceLeadingBy_eq :
    sequenceLeadingBy calls patterns = some (sequenceLeading patterns) := by
  induction patterns with
  | nil => rfl
  | cons item items ih =>
      obtain ⟨first, rest⟩ := List.forall_mem_cons.mp known
      rw [sequenceLeadingBy, first.leading, ih rest, sequenceLeading]
      cases whole : item.leading.whole <;> simp [whole]

theorem allStartAtInputStartBy_eq :
    allStartAtInputStartBy calls patterns = some (allStartAtInputStart patterns) := by
  induction patterns with
  | nil => rfl
  | cons branch branches ih =>
      obtain ⟨first, rest⟩ := List.forall_mem_cons.mp known
      rw [allStartAtInputStartBy, first.startsAtInputStart, ih rest, allStartAtInputStart]
      cases branch.startsAtInputStart <;> rfl

end Members

variable {calls : Calls} {pattern : Pattern} (below : calls.AnswerBelow pattern.height)
include below

theorem widthBy_eq : widthBy calls pattern = some pattern.width := by
  cases pattern with
  | empty | char | assert | lookAround | backReference => rfl
  | group _ body | atomic body => exact below.body.width
  | concat items => exact sequenceWidthBy_eq below.members
  | alternation branches => exact choiceWidthBy_eq below.members
  | repeated body least most mode =>
      rw [widthBy, below.body.width]
      rfl
  | conditional target yes no offset =>
      rw [widthBy, below.both.1.width, below.both.2.width]
      rfl

theorem firstBy_eq : firstBy calls pattern = some pattern.first? := by
  cases pattern with
  | empty | char | assert | lookAround | backReference | conditional => rfl
  | group _ body | atomic body => exact below.body.first
  | concat items => exact sequenceFirstBy_eq below.members
  | alternation branches => exact choiceFirstBy_eq below.members
  | repeated body least most mode =>
      rw [firstBy, first?, below.body.first]
      split <;> rfl

theorem firstCharBy_eq : firstCharBy calls pattern = some pattern.firstChar? := by
  cases pattern with
  | empty | assert | lookAround | backReference | conditional => rfl
  | char matcher => cases matcher <;> rfl
  | group _ body | atomic body => exact below.body.firstChar
  | concat items => exact sequenceFirstCharBy_eq below.members
  | alternation branches => exact choiceFirstCharBy_eq below.members
  | repeated body least most mode =>
      rw [firstCharBy, firstChar?, below.body.firstChar]
      split <;> rfl

theorem leadingBy_eq : leadingBy calls pattern = some pattern.leading := by
  cases pattern with
  | empty | assert | alternation | lookAround | backReference | conditional => rfl
  | char matcher => cases matcher <;> rfl
  | group _ body | atomic body => exact below.body.leading
  | concat items => exact sequenceLeadingBy_eq below.members
  | repeated body least most mode =>
      rw [leadingBy, leading, below.body.leading]
      split <;> rfl

theorem startsAtInputStartBy_eq :
    startsAtInputStartBy calls pattern = some pattern.startsAtInputStart := by
  cases pattern with
  | empty | char | repeated | lookAround | backReference | conditional => rfl
  | assert assertion => cases assertion <;> rfl
  | group _ body | atomic body => exact below.body.startsAtInputStart
  | concat items =>
      cases items with
      | nil => rfl
      | cons item items => exact (below.members item (List.mem_cons_self ..)).startsAtInputStart
  | alternation branches => exact allStartAtInputStartBy_eq below.members

end Pattern

namespace Emitting

/-- Steps without calls may be put together before or after they are taken for steps with calls. -/
instance : LawfulMonadLift Emitting Calling where
  monadLift_pure _ := rfl
  monadLift_bind step follow := by
    funext before
    change some (step before >>= fun result => follow result.1 result.2) =
      ExceptT.bindCont (fun result => some (follow result.1 result.2)) (step before)
    cases step before <;> rfl

variable {calls : Calls} (parsed : ParsedPattern)

section Members

variable {patterns : List Pattern} (known : ∀ pattern ∈ patterns, calls.Answer pattern)
include known

theorem sequenceBy_eq (next : NodeId) :
    sequenceBy calls parsed patterns next = sequence parsed patterns next := by
  induction patterns with
  | nil => rfl
  | cons item items ih =>
      obtain ⟨first, rest⟩ := List.forall_mem_cons.mp known
      rw [sequenceBy, sequence, ih rest, liftM_bind]
      congr 1
      funext pending
      split
      · rfl
      · rfl
      · simp only [first.nodes, liftM_bind, liftM_pure]

theorem alternativesBy_eq (next : NodeId) :
    alternativesBy calls parsed patterns next = alternatives parsed patterns next := by
  induction patterns with
  | nil => rfl
  | cons branch branches ih =>
      obtain ⟨first, rest⟩ := List.forall_mem_cons.mp known
      simp only [alternativesBy, alternatives, first.nodes, ih rest, liftM_bind, liftM_pure]

theorem measuredBy_eq (offset : Nat) :
    measuredBy calls parsed patterns offset = measured parsed patterns offset := by
  induction patterns with
  | nil => rfl
  | cons branch branches ih =>
      obtain ⟨first, rest⟩ := List.forall_mem_cons.mp known
      have measure : (liftM (some branch.width) : Calling Width) = pure branch.width := rfl
      simp only [measuredBy, measured, Pattern.branchWidth, Pattern.fixedWidth?, first.width,
        first.nodes, ih rest, measure, pure_bind, liftM_bind, liftM_pure]
      cases branch.width.fixed? <;> rfl

end Members

theorem patternBy_repeated {body : Pattern} (known : calls.Answer body) (least : Nat)
    (most : Option Nat) (mode : RepeatMode) (next : NodeId) :
    patternBy calls parsed (.repeated body least most mode) next =
      pattern parsed (.repeated body least most mode) next := by
  simp only [patternBy, pattern, known.nodes]
  split
  · exact (liftM_pure next).symm
  split
  · rfl
  · next other =>
      split
      · simp only [liftM_bind]
      split
      · cases body with
        | char matcher => exact (other matcher rfl).elim
        | _ => rfl
      split
      · simp only [liftM_bind]
      · simp only [liftM_bind, liftM_pure]

theorem patternBy_eq {whole : Pattern} (below : calls.AnswerBelow whole.height) (next : NodeId) :
    patternBy calls parsed whole next = pattern parsed whole next := by
  cases whole with
  | empty | char | assert => rfl
  | group index body =>
      simp only [patternBy, pattern, below.body.nodes, liftM_bind]
  | concat items => rw [patternBy, pattern, sequenceBy_eq parsed below.members, liftM_bind]
  | alternation branches =>
      rw [patternBy, pattern, alternativesBy_eq parsed below.members, liftM_bind]
  | repeated body least most mode =>
      exact patternBy_repeated parsed below.body least most mode next
  | lookAround direction negated body offset =>
      cases direction with
      | ahead =>
          simp only [patternBy, pattern, below.body.nodes, liftM_bind]
      | behind =>
          -- The branches are parts of the body, whose own level is passed over.
          have branches : ∀ branch ∈ body.branches, calls.Answer branch := fun branch member =>
            below branch (Nat.lt_succ_of_le (Pattern.height_branch_le member))
          rw [pattern_behind, liftM_bind, ← measuredBy_eq parsed branches, patternBy]
  | atomic body =>
      simp only [patternBy, pattern, below.body.nodes, liftM_bind]
  | backReference target ignoresCase offset =>
      simp only [patternBy, pattern, liftM_bind]
      rfl
  | conditional target yes no offset =>
      simp only [patternBy, pattern, below.both.1.nodes, below.both.2.nodes, liftM_bind]
      rfl

end Emitting

namespace Calls

/-- The step: the parts for which a function calls itself are lower than the pattern. -/
theorem answer_around {calls : Calls} {pattern : Pattern}
    (below : calls.AnswerBelow pattern.height) : calls.around.Answer pattern where
  width := Pattern.widthBy_eq below
  first := Pattern.firstBy_eq below
  firstChar := Pattern.firstCharBy_eq below
  leading := Pattern.leadingBy_eq below
  startsAtInputStart := Pattern.startsAtInputStartBy_eq below
  nodes parsed := Emitting.patternBy_eq parsed below

/-- Calls for a pattern are nested no deeper than the pattern is high. -/
theorem answer_nested {pattern : Pattern} {depth : Nat} (low : pattern.height ≤ depth) :
    (nested depth).Answer pattern := by
  induction depth generalizing pattern with
  | zero => exact absurd (Nat.lt_of_lt_of_le pattern.height_pos low) (Nat.lt_irrefl 0)
  | succ depth ih =>
      exact answer_around fun part lower => ih (Nat.le_of_lt_succ (Nat.lt_of_lt_of_le lower low))

end Calls

namespace ParsedPattern

/-- The tree of the pattern is at most so high, and the functions that go through it nest their
calls no deeper. -/
structure Shallow (parsed : ParsedPattern) (depth : Nat) : Prop where
  height_le : parsed.pattern.height ≤ depth
  answers : (Calls.nested depth).Answer parsed.pattern

/-- The nesting limit of parentheses is a limit to the height of a pattern and to all later
recursions, whatever else a text holds. -/
theorem parseWithin_shallow (limit : Nat) (text : List Char) (flags : Flags)
    (parsed : ParsedPattern) :
    (parseWithin limit text flags = .ok parsed → parsed.Shallow (4 * limit + 7)) ∧
      (parse text flags = .ok parsed → parsed.Shallow 1007) := by
  have shallow {limit : Nat} (read : parseWithin limit text flags = .ok parsed) :
      parsed.Shallow (4 * limit + 7) := by
    have low := height_le_of_parseWithin read
    exact ⟨low, Calls.answer_nested low⟩
  refine ⟨shallow, fun read => ?_⟩
  have whole : parsed.Shallow (4 * Reader.nestingLimit + 7) := shallow read
  exact whole

/-- There are patterns as high as that: with one pair of parentheses, `(\R+a|b)+a|b` has the height
eleven, and a recursion that is to end before has no answer. -/
theorem line_ends_shallow :
    (∃ parsed, parseWithin 1 "(\\R+a|b)+a|b".toList {} = .ok parsed ∧
        parsed.Shallow (4 * 1 + 7) ∧ parsed.pattern.height = 4 * 1 + 7 ∧
        (Calls.nested 10).width parsed.pattern = none) ∧
      ∃ parsed, parse "(\\R+a|b)+a|b".toList {} = .ok parsed ∧ parsed.Shallow 1007 := by
  have measured : (parseWithin 1 "(\\R+a|b)+a|b".toList {}).toOption.any (fun parsed =>
      parsed.pattern.height == 11 && ((Calls.nested 10).width parsed.pattern).isNone) = true := by
    decide +kernel
  have accepted : (parse "(\\R+a|b)+a|b".toList {}).toOption.any (fun _ => true) = true := by
    decide +kernel
  obtain ⟨parsed, read, sizes⟩ := exists_of_toOption_any measured
  obtain ⟨same, reread, -⟩ := exists_of_toOption_any accepted
  simp only [Bool.and_eq_true, beq_iff_eq, Option.isNone_iff_eq_none] at sizes
  exact ⟨⟨parsed, read, (parseWithin_shallow 1 _ {} parsed).1 read, sizes⟩,
    same, reread, (parseWithin_shallow 1 _ {} same).2 reread⟩

end ParsedPattern

end Backtracking
