import Backtracking.Proofs.PatternTree
import Backtracking.Program.OfPattern
import Backtracking.Search.Conditions
import Backtracking.Search.Registers

/-!
# Ordered outcomes

What a pattern means, without a program: the list of all ways in which it can match at a position,
the preferred ones first.  A way to match is an outcome, which is the position where it ends and
the groups that are captured by then.

The meaning of a pattern is put together from the meanings of its parts.  Sequences and choices
keep every outcome of their parts; what is tried on its own keeps the first one only.
-/

namespace Backtracking

/-- The group that a reference names, if there is one. -/
def ParsedPattern.group? (parsed : ParsedPattern) : GroupRef → Option Nat
  | .number group => if group ≤ parsed.groupCount then some group else none
  | .name name => parsed.groupNumber? name

theorem ParsedPattern.resolve_eq_ok_iff {parsed : ParsedPattern} {target : GroupRef}
    {offset group : Nat} :
    parsed.resolve target offset = .ok group ↔ parsed.group? target = some group := by
  cases target with
  | number number =>
      by_cases exist : number ≤ parsed.groupCount <;> simp [resolve, group?, exist]
  | name name =>
      cases found : parsed.groupNumber? name <;> simp [resolve, group?, found]

/-- The groups that are captured: the text of each, and the greatest number of one. -/
structure Captured where
  spans : Array (Option Span)
  highest : Nat := 0

namespace Captured

/-- Nothing is captured, of as many groups as there are. -/
def nothing (groups : Nat) : Captured := ⟨Array.replicate groups none, 0⟩

/-- The text of a group that is captured. -/
def span? (captured : Captured) (group : Nat) : Option Span :=
  (captured.spans.getD group none).filter fun span => span.start ≤ span.stop

/-- The captures with one more group. -/
def close (captured : Captured) (group : Nat) (span : Span) : Captured :=
  ⟨captured.spans.setIfInBounds group (some span), max captured.highest group⟩

/-- All texts of groups lie within a subject. -/
def Valid (subject : Subject) (captured : Captured) : Prop :=
  ∀ span, some span ∈ captured.spans → span.start ≤ span.stop ∧ span.stop ≤ subject.size

@[simp]
theorem size_close (captured : Captured) (group : Nat) (span : Span) :
    (captured.close group span).spans.size = captured.spans.size := by
  simp [close]

theorem Valid.close {subject : Subject} {captured : Captured} (valid : captured.Valid subject)
    {group : Nat} {span : Span} (ordered : span.start ≤ span.stop)
    (inside : span.stop ≤ subject.size) : (captured.close group span).Valid subject := by
  intro other member
  rcases Array.mem_or_eq_of_mem_setIfInBounds member with old | new
  · exact valid other old
  · cases new
    exact ⟨ordered, inside⟩

theorem Valid.span? {subject : Subject} {captured : Captured} (valid : captured.Valid subject)
    {group : Nat} {span : Span} (found : captured.span? group = some span) :
    span.start ≤ span.stop ∧ span.stop ≤ subject.size := by
  apply valid
  have stored := (Option.filter_eq_some_iff.mp found).1
  rw [Array.getD_eq_getD_getElem?] at stored
  cases entry : captured.spans[group]? with
  | none => simp [entry] at stored
  | some span? =>
      simp only [entry, Option.getD_some] at stored
      exact stored ▸ Array.mem_of_getElem? entry

theorem valid_nothing (subject : Subject) (groups : Nat) :
    (nothing groups).Valid subject := by
  intro span member
  simp [nothing] at member

end Captured

/-- One way in which a pattern matches: where the match ends, and what is captured by then. -/
structure Outcome where
  stop : Nat
  captured : Captured

/-- The ways in which something matches at a position, in order of preference, when some groups are
captured already. -/
abbrev Matching := (position : Nat) → Captured → List Outcome

namespace Matching

/-- Nothing is taken. -/
def here : Matching := fun position captured => [⟨position, captured⟩]

def never : Matching := fun _ _ => []

def char (subject : Subject) (matcher : CharMatcher) : Matching := fun position captured =>
  if subject.acceptsAt matcher position then [⟨position + 1, captured⟩] else []

def text (subject : Subject) (ignoresCase : Bool) (text : List Char) : Matching :=
  fun position captured =>
    if subject.textAt ignoresCase text position then [⟨position + text.length, captured⟩] else []

def assertion (scene : Scene) (assertion : Assertion) : Matching := fun position captured =>
  if scene.holds assertion position then [⟨position, captured⟩] else []

/-- The text of a captured group is taken once more. -/
def backReference (subject : Subject) (ignoresCase : Bool) (group : Nat) : Matching :=
  fun position captured =>
    match captured.span? group with
    | none => []
    | some span => text subject ignoresCase (subject.slice span.start span.stop) position captured

/-- One thing after another: each outcome of the first is followed by those of the second. -/
def andThen (first second : Matching) : Matching := fun position captured =>
  (first position captured).flatMap fun outcome => second outcome.stop outcome.captured

/-- One thing or another, of which the first is preferred. -/
def orElse (first second : Matching) : Matching := fun position captured =>
  first position captured ++ second position captured

/-- Only the preferred outcome counts. -/
def once (body : Matching) : Matching := fun position captured =>
  (body position captured).head?.toList

def capturing (body : Matching) (group : Nat) : Matching := fun position captured =>
  (body position captured).map fun outcome =>
    ⟨outcome.stop, outcome.captured.close group ⟨position, outcome.stop⟩⟩

def ifCaptured (group : Nat) (yes no : Matching) : Matching := fun position captured =>
  if (captured.span? group).isSome then yes position captured else no position captured

/-- Whether there is a match is found out without taking anything.  What it captures is kept. -/
def looking (negated : Bool) (body : Matching) : Matching := fun position captured =>
  match negated, (body position captured).head? with
  | false, some outcome => [⟨position, outcome.captured⟩]
  | true, none => [⟨position, captured⟩]
  | _, _ => []

/-- A match that ends at the position, and begins at some distance before it. -/
def behind (width : Nat) (body : Matching) : Matching := fun position captured =>
  if width ≤ position then
    ((body (position - width) captured).head?.filter (·.stop = position)).toList
  else []

@[simp]
theorem andThen_here (body : Matching) : body.andThen here = body := by
  funext position captured
  exact List.flatMap_singleton' _

theorem here_andThen (body : Matching) : here.andThen body = body := by
  funext position captured
  exact List.flatMap_singleton _ _

theorem andThen_assoc (first second third : Matching) :
    (first.andThen second).andThen third = first.andThen (second.andThen third) := by
  funext position captured
  exact List.flatMap_assoc

@[simp]
theorem orElse_never (body : Matching) : body.orElse never = body := by
  funext position captured
  exact List.append_nil _

theorem text_nil (subject : Subject) (ignoresCase : Bool) : text subject ignoresCase [] = here :=
  rfl

theorem text_cons (subject : Subject) (ignoresCase : Bool) (expected : Char) (rest : List Char) :
    text subject ignoresCase (expected :: rest) =
      (char subject (if ignoresCase then .charIgnoringCase expected else .char expected)).andThen
        (text subject ignoresCase rest) := by
  funext position captured
  have stands : subject.textAt ignoresCase (expected :: rest) position =
      (subject.acceptsAt (if ignoresCase then .charIgnoringCase expected else .char expected)
        position && subject.textAt ignoresCase rest (position + 1)) := by
    cases ignoresCase <;> rfl
  generalize (if ignoresCase then .charIgnoringCase expected else .char expected : CharMatcher) =
    matcher at stands ⊢
  simp only [text, andThen, char, stands, Bool.and_eq_true, List.length_cons]
  split
  · next both =>
      rw [if_pos both.1, List.flatMap_singleton]
      dsimp only
      rw [if_pos both.2, Nat.add_assoc, Nat.add_comm 1]
  · next fails =>
      split
      · next first => simpa using fun follows => fails ⟨first, follows⟩
      · rfl

/-! ## Repetitions -/

/-- The outcomes of a repetition after `count` iterations, the last of which began at `start`.  An
iteration is forced as long as the least number is not reached.  From then on none is offered once
the greatest number is reached, or when the last one took nothing.  One more iteration is preferred
to leaving if the repetition is greedy.  `rounds` exceeds the number of iterations to come. -/
def iterations (body : Matching) (greedy : Bool) (least : Nat) (most : Option Nat) :
    (rounds count : Nat) → (start : Option Nat) → Matching
  | 0, _, _ => never
  | rounds + 1, count, start => fun position captured =>
      let again :=
        andThen body (iterations body greedy least most rounds (count + 1) (some position))
      if count < least then
        again position captured
      else if !(most.all (count < ·) && start != some position) then
        here position captured
      else if greedy then
        orElse again here position captured
      else
        orElse here again position captured

/-- The iterations of a possessive repetition, each of which keeps its first outcome only: their
number, and the outcome of the last.  With an iteration that takes nothing the least number is
reached, for it could be repeated at will.  `rounds` exceeds the number of iterations to come. -/
def possessiveIterations (body : Matching) (least : Nat) (most : Option Nat) :
    (rounds count position : Nat) → Captured → Nat × Outcome
  | 0, count, position, captured => (count, ⟨position, captured⟩)
  | rounds + 1, count, position, captured =>
      if most.all (count < ·) then
        match (body position captured).head? with
        | none => (count, ⟨position, captured⟩)
        | some outcome =>
            if outcome.stop = position then (max count least, outcome)
            else
              possessiveIterations body least most rounds (count + 1) outcome.stop outcome.captured
      else
        (count, ⟨position, captured⟩)

/-- A bound on the iterations that follow `count` others in a subject of some size, where the last
one began at `start`: those that are forced, those that take something, and one that does not. -/
def roundsLeft (size least count : Nat) (start : Option Nat) (position : Nat) : Nat :=
  (least - count) + (size - position) + (if start = some position then 0 else 1)

def repeated (body : Matching) (size least : Nat) (most : Option Nat) : RepeatMode → Matching
  | .greedy => fun position =>
      iterations body true least most (roundsLeft size least 0 none position + 1) 0 none position
  | .lazy => fun position =>
      iterations body false least most (roundsLeft size least 0 none position + 1) 0 none position
  | .possessive => fun position captured =>
      let (count, outcome) :=
        possessiveIterations body least most (size - position + 1) 0 position captured
      if count < least then [] else [outcome]

/-- An outcome of a repetition begins with one more iteration, if one is forced or offered, or it is
that of leaving. -/
theorem mem_iterations_succ {body : Matching} {greedy : Bool} {least : Nat} {most : Option Nat}
    {rounds count position : Nat} {start : Option Nat} {captured : Captured} {outcome : Outcome} :
    outcome ∈ iterations body greedy least most (rounds + 1) count start position captured ↔
      (count < least ∨ (∀ bound, most = some bound → count < bound) ∧ start ≠ some position) ∧
        outcome ∈ andThen body
          (iterations body greedy least most rounds (count + 1) (some position)) position captured ∨
      ¬ count < least ∧ outcome ∈ here position captured := by
  have offers : (most.all (count < ·) && start != some position) = true ↔
      (∀ bound, most = some bound → count < bound) ∧ start ≠ some position := by
    cases most <;> simp
  simp only [iterations, ← offers]
  by_cases forced : count < least
  · simp [forced]
  · rw [if_neg forced]
    cases most.all (count < ·) && start != some position with
    | false => simp [forced]
    | true =>
        cases greedy with
        | true => simp [forced, orElse]
        | false => simp [forced, orElse, or_comm]

theorem repeated_zero (body : Matching) (size : Nat) (mode : RepeatMode) :
    body.repeated size 0 (some 0) mode = here := by
  funext position captured
  cases mode <;> rfl

/-- After one iteration, if no more are allowed, the repetition is left. -/
theorem andThen_left (body : Matching) (greedy : Bool) {least : Nat} (reached : least ≤ 1)
    (rounds : Nat) (start : Option Nat) :
    body.andThen (iterations body greedy least (some 1) (rounds + 1) 1 start) = body := by
  have left : iterations body greedy least (some 1) (rounds + 1) 1 start = here := by
    funext position captured
    exact if_neg (Nat.not_lt_of_le reached)
  rw [left, andThen_here]

theorem repeated_once {mode : RepeatMode} (gives : mode ≠ .possessive) (body : Matching)
    (size : Nat) : body.repeated size 1 (some 1) mode = body := by
  funext position captured
  have rounds : roundsLeft size 1 0 none position = size - position + 1 + 1 := by
    simp only [roundsLeft, reduceCtorEq, if_false]
    omega
  have again (greedy : Bool) :=
    congrFun (congrFun (andThen_left body greedy (Nat.le_refl 1) (size - position + 1)
      (some position)) position) captured
  cases mode with
  | greedy =>
      simp only [repeated, rounds]
      exact again true
  | lazy =>
      simp only [repeated, rounds]
      exact again false
  | possessive => exact absurd rfl gives

theorem repeated_optional {mode : RepeatMode} (gives : mode ≠ .possessive) (body : Matching)
    (size : Nat) :
    body.repeated size 0 (some 1) mode =
      if mode = .greedy then body.orElse here else here.orElse body := by
  funext position captured
  have rounds : roundsLeft size 0 0 none position = size - position + 1 := by
    simp only [roundsLeft, reduceCtorEq, if_false]
    omega
  have again (greedy : Bool) :=
    congrFun (congrFun (andThen_left body greedy (Nat.zero_le 1) (size - position)
      (some position)) position) captured
  cases mode with
  | greedy =>
      simp only [repeated, rounds]
      exact congrArg (· ++ here position captured) (again true)
  | lazy =>
      simp only [repeated, rounds]
      exact congrArg (here position captured ++ ·) (again false)
  | possessive => exact absurd rfl gives

end Matching

namespace Pattern

mutual

/-- The ways in which a pattern matches. -/
def outcomes (parsed : ParsedPattern) (scene : Scene) : Pattern → Matching
  | .empty => .here
  | .char matcher => .char scene.subject matcher
  | .assert assertion => .assertion scene assertion
  | .group index body => (outcomes parsed scene body).capturing index
  | .concat items => sequenceOutcomes parsed scene items
  | .alternation branches => choiceOutcomes parsed scene branches
  | .repeated body least most mode =>
      (outcomes parsed scene body).repeated scene.subject.size least most mode
  | .lookAround .ahead negated body _ => .looking negated (outcomes parsed scene body)
  | .lookAround .behind negated (.alternation branches) _ =>
      .looking negated (outcomesBehind parsed scene branches)
  | .lookAround .behind negated body _ =>
      .looking negated (.behind body.width.least (outcomes parsed scene body))
  | .atomic body => (outcomes parsed scene body).once
  | .backReference target ignoresCase _ =>
      match parsed.group? target with
      | none => .never
      | some index => .backReference scene.subject ignoresCase index
  | .conditional target yes no _ =>
      match parsed.group? target with
      | none => .never
      | some index => .ifCaptured index (outcomes parsed scene yes) (outcomes parsed scene no)

def sequenceOutcomes (parsed : ParsedPattern) (scene : Scene) : List Pattern → Matching
  | [] => .here
  | item :: items => (outcomes parsed scene item).andThen (sequenceOutcomes parsed scene items)

def choiceOutcomes (parsed : ParsedPattern) (scene : Scene) : List Pattern → Matching
  | [] => .never
  | branch :: branches =>
      (outcomes parsed scene branch).orElse (choiceOutcomes parsed scene branches)

/-- The ways in which one of some branches matches before a position.  Each has a width, at which
distance it begins. -/
def outcomesBehind (parsed : ParsedPattern) (scene : Scene) : List Pattern → Matching
  | [] => .never
  | branch :: branches =>
      (Matching.behind branch.width.least (outcomes parsed scene branch)).orElse
        (outcomesBehind parsed scene branches)

end

theorem outcomes_behind (parsed : ParsedPattern) (scene : Scene) (negated : Bool) (body : Pattern)
    (offset : Nat) :
    (Pattern.lookAround .behind negated body offset).outcomes parsed scene =
      .looking negated (outcomesBehind parsed scene body.branches) := by
  cases body
  case alternation branches => rfl
  all_goals
    simp only [outcomes, branches, outcomesBehind]
    congr 1
    funext position captured
    exact (List.append_nil _).symm

end Pattern

/-- The ways in which a parsed pattern matches at a position of a subject, where nothing is
captured yet. -/
def ParsedPattern.outcomes (parsed : ParsedPattern) (scene : Scene) (position : Nat) :
    List Outcome :=
  parsed.pattern.outcomes parsed scene position (.nothing (parsed.groupCount + 1))

end Backtracking
