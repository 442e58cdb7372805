import Backtracking.Proofs.Compilation

/-!
# Accepted patterns

A pattern that can be read is accepted if its references name groups and its lookbehinds have a
fixed width.  Both are found out while nodes are made.  So they are asked of those parts only of
which nodes are made: the body of a repetition that allows no iteration may hold anything.
-/

namespace Backtracking

namespace Pattern

mutual

/-- The patterns within a pattern of which nodes are made, and it itself. -/
def keptParts : Pattern → List Pattern
  | .empty => [.empty]
  | .char matcher => [.char matcher]
  | .assert assertion => [.assert assertion]
  | .group index body => .group index body :: keptParts body
  | .concat items => .concat items :: keptPartsOfAll items
  | .alternation branches => .alternation branches :: keptPartsOfAll branches
  | .repeated body least most mode =>
      .repeated body least most mode :: if most = some 0 then [] else keptParts body
  | .lookAround direction negated body offset =>
      .lookAround direction negated body offset :: keptParts body
  | .atomic body => .atomic body :: keptParts body
  | .backReference target ignoresCase offset => [.backReference target ignoresCase offset]
  | .conditional target yes no offset =>
      .conditional target yes no offset :: (keptParts yes ++ keptParts no)

/-- The patterns within some patterns of which nodes are made, and these themselves. -/
def keptPartsOfAll : List Pattern → List Pattern
  | [] => []
  | pattern :: patterns => keptParts pattern ++ keptPartsOfAll patterns

end

theorem keptPartsOfAll_eq_flatMap (patterns : List Pattern) :
    keptPartsOfAll patterns = patterns.flatMap keptParts := by
  induction patterns with
  | nil => rfl
  | cons pattern patterns ih => simp [keptPartsOfAll, ih]

/-- A repetition without iterations. -/
def Omitted : Pattern → Prop
  | .repeated _ _ most _ => most = some 0
  | _ => False

/-- Nodes are made of all parts, if no repetition is without iterations. -/
theorem keptParts_eq_parts (pattern : Pattern)
    (iterates : pattern.Throughout fun part => ¬ part.Omitted) :
    pattern.keptParts = pattern.parts := by
  have all {patterns : List Pattern}
      (known : ∀ pattern ∈ patterns, pattern.keptParts = pattern.parts) :
      keptPartsOfAll patterns = partsOfAll patterns := by
    induction patterns with
    | nil => rfl
    | cons pattern patterns ih =>
        rw [keptPartsOfAll, partsOfAll, known pattern (by simp),
          ih fun other member => known other (by simp [member])]
  induction pattern with
  | empty => rfl
  | char matcher => rfl
  | assert assertion => rfl
  | group index body ih => rw [keptParts, parts, ih iterates.group]
  | concat items ih =>
      rw [keptParts, parts, all fun item member => ih item member (iterates.item member)]
  | alternation branches ih =>
      rw [keptParts, parts, all fun branch member => ih branch member (iterates.branch member)]
  | repeated body least most mode ih =>
      have goesOn : most ≠ some 0 := iterates.self
      rw [keptParts, parts, if_neg goesOn, ih iterates.repeated]
  | lookAround direction negated body offset ih branchIH =>
      rw [keptParts, parts, ih iterates.lookAround]
  | atomic body ih => rw [keptParts, parts, ih iterates.atomic]
  | backReference target ignoresCase offset => rfl
  | conditional target yes no offset yesIH noIH =>
      rw [keptParts, parts, yesIH iterates.yes, noIH iterates.no]

end Pattern

/-- What is asked of a part of a pattern: the group that it refers to exists, and each branch of a
lookbehind has a fixed width. -/
def ParsedPattern.Admits (parsed : ParsedPattern) : Pattern → Prop
  | .backReference target _ _ | .conditional target _ _ _ =>
      ∃ group, parsed.group? target = some group
  | .lookAround .behind _ body _ =>
      ∀ branch ∈ body.branches, ∃ width, branch.fixedWidth? = some width
  | _ => True

namespace Emitting

open Pattern

/-- A step of making nodes succeeds under a condition that no earlier step has a bearing on. -/
def SucceedsIff {α : Type} (step : Emitting α) (condition : Prop) : Prop :=
  ∀ before, (∃ result, step.run before = .ok result) ↔ condition

section SucceedsIff

variable {α β : Type} {condition further : Prop}

theorem SucceedsIff.pure (value : α) : SucceedsIff (Pure.pure value : Emitting α) True :=
  fun before => iff_of_true ⟨(value, before), rfl⟩ trivial

theorem SucceedsIff.push (node : Node) : SucceedsIff (push node) True :=
  fun _ => iff_of_true ⟨_, rfl⟩ trivial

theorem SucceedsIff.bind {first : Emitting α} {next : α → Emitting β}
    (begins : SucceedsIff first condition) (follows : ∀ value, SucceedsIff (next value) further) :
    SucceedsIff (first >>= next) (condition ∧ further) := by
  intro before
  rw [← begins before]
  change (∃ result, (first.run before >>= fun reached => (next reached.1).run reached.2) =
    .ok result) ↔ _
  cases first.run before with
  | error error => exact iff_of_false nofun fun both => nomatch both.1
  | ok reached =>
      have followed := follows reached.1 reached.2
      exact followed.trans (iff_and_self.mpr fun _ => ⟨reached, rfl⟩)

theorem SucceedsIff.iff {step : Emitting α} (succeeds : SucceedsIff step condition)
    (same : condition ↔ further) : SucceedsIff step further :=
  fun before => (succeeds before).trans same

/-- A step that always succeeds is followed by something else. -/
theorem SucceedsIff.andThen {first : Emitting α} {next : α → Emitting β}
    (begins : SucceedsIff first True) (follows : ∀ value, SucceedsIff (next value) further) :
    SucceedsIff (first >>= next) further :=
  (begins.bind follows).iff (by rw [true_and])

/-- A step is followed by something that always succeeds. -/
theorem SucceedsIff.finish {first : Emitting α} {next : α → Emitting β}
    (begins : SucceedsIff first condition) (follows : ∀ value, SucceedsIff (next value) True) :
    SucceedsIff (first >>= next) condition :=
  (begins.bind follows).iff (by rw [and_true])

theorem SucceedsIff.lifted {result : Except CompileError α}
    (succeeds : (∃ value, result = .ok value) ↔ condition) :
    SucceedsIff (liftM result : Emitting α) condition := by
  intro before
  rw [← succeeds]
  cases result with
  | error error => constructor <;> rintro ⟨_, ⟨⟩⟩
  | ok value => exact iff_of_true ⟨(value, before), rfl⟩ ⟨value, rfl⟩

end SucceedsIff

theorem flush_succeeds (pending : PendingText) : SucceedsIff pending.flush True := by
  unfold PendingText.flush
  split
  · exact .pure _
  · exact .push _
  · exact .push _

theorem prepend_succeeds (pending : PendingText) (character : Char) (ignoresCase : Bool) :
    SucceedsIff (pending.prepend character ignoresCase) True := by
  unfold PendingText.prepend
  split
  · exact .pure _
  · exact (flush_succeeds pending).andThen fun _ => .pure _

theorem resolve_succeeds (parsed : ParsedPattern) (target : GroupRef) (offset : Nat) :
    SucceedsIff (liftM (parsed.resolve target offset) : Emitting Nat)
      (∃ group, parsed.group? target = some group) :=
  .lifted (exists_congr fun _ => ParsedPattern.resolve_eq_ok_iff)

theorem branchWidth_succeeds (branch : Pattern) (offset : Nat) :
    SucceedsIff (liftM (branch.branchWidth offset) : Emitting Nat)
      (∃ width, branch.fixedWidth? = some width) := by
  refine .lifted (exists_congr fun width => ?_)
  unfold Pattern.branchWidth
  split
  · next known => simp [known]
  · next unknown => simp [unknown]

variable (parsed : ParsedPattern)

/-- All parts of which nodes are made are admitted. -/
def AllAdmitted (pattern : Pattern) : Prop := ∀ part ∈ pattern.keptParts, parsed.Admits part

section Lists

variable {parsed} {patterns : List Pattern}

theorem forall_mem_keptPartsOfAll :
    (∀ part ∈ keptPartsOfAll patterns, parsed.Admits part) ↔
      ∀ pattern ∈ patterns, AllAdmitted parsed pattern := by
  rw [keptPartsOfAll_eq_flatMap]
  simp only [List.mem_flatMap, AllAdmitted]
  grind

theorem sequence_succeeds (known : ∀ item ∈ patterns, ∀ next,
      SucceedsIff (Emitting.pattern parsed item next) (AllAdmitted parsed item)) (next : NodeId) :
    SucceedsIff (Emitting.sequence parsed patterns next)
      (∀ item ∈ patterns, AllAdmitted parsed item) := by
  induction patterns with
  | nil => exact (SucceedsIff.pure _).iff (by simp)
  | cons item items ih =>
      have rest := ih fun other member => known other (by simp [member])
      have single (matcher : CharMatcher) : AllAdmitted parsed (.char matcher) := by
        simp [AllAdmitted, keptParts, ParsedPattern.Admits]
      rw [List.forall_mem_cons, and_comm]
      refine rest.bind fun pending => ?_
      split
      · next character => exact (prepend_succeeds _ _ _).iff (by simp [single])
      · next character => exact (prepend_succeeds _ _ _).iff (by simp [single])
      · refine (flush_succeeds pending).andThen fun middle => ?_
        exact (known item (by simp) middle).finish fun _ => .pure _

theorem alternatives_succeeds (known : ∀ branch ∈ patterns, ∀ next,
      SucceedsIff (Emitting.pattern parsed branch next) (AllAdmitted parsed branch))
    (next : NodeId) :
    SucceedsIff (Emitting.alternatives parsed patterns next)
      (∀ branch ∈ patterns, AllAdmitted parsed branch) := by
  induction patterns with
  | nil => exact (SucceedsIff.pure _).iff (by simp)
  | cons branch branches ih =>
      rw [List.forall_mem_cons]
      refine (known branch (by simp) next).bind fun first => ?_
      exact (ih fun other member => known other (by simp [member])).finish fun _ => .pure _

theorem measured_succeeds (known : ∀ branch ∈ patterns, ∀ next,
      SucceedsIff (Emitting.pattern parsed branch next) (AllAdmitted parsed branch))
    (offset : Nat) :
    SucceedsIff (Emitting.measured parsed patterns offset)
      (∀ branch ∈ patterns, (∃ width, branch.fixedWidth? = some width) ∧
        AllAdmitted parsed branch) := by
  induction patterns with
  | nil => exact (SucceedsIff.pure _).iff (by simp)
  | cons branch branches ih =>
      rw [List.forall_mem_cons, and_assoc]
      refine (branchWidth_succeeds branch offset).bind fun width => ?_
      refine (known branch (by simp) _).bind fun first => ?_
      exact (ih fun other member => known other (by simp [member])).finish fun _ => .pure _

end Lists

theorem forall_branches_allAdmitted (body : Pattern) :
    (∀ branch ∈ body.branches, AllAdmitted parsed branch) ↔ AllAdmitted parsed body := by
  cases body
  case alternation branches =>
    rw [AllAdmitted, keptParts, List.forall_mem_cons, forall_mem_keptPartsOfAll]
    simp [Pattern.branches, ParsedPattern.Admits]
  all_goals simp [Pattern.branches]

theorem repeated_succeeds {body : Pattern}
    (known : ∀ next, SucceedsIff (Emitting.pattern parsed body next) (AllAdmitted parsed body))
    (least : Nat) (most : Option Nat) (mode : RepeatMode) (next : NodeId) :
    SucceedsIff (Emitting.pattern parsed (.repeated body least most mode) next)
      (AllAdmitted parsed (.repeated body least most mode)) := by
  simp only [Emitting.pattern]
  split
  · next omitted =>
      refine (SucceedsIff.pure next).iff ?_
      simp [AllAdmitted, keptParts, omitted, ParsedPattern.Admits]
  next goesOn =>
  have same : AllAdmitted parsed body ↔ AllAdmitted parsed (.repeated body least most mode) := by
    simp [AllAdmitted, keptParts, goesOn, ParsedPattern.Admits]
  refine SucceedsIff.iff ?_ same
  split
  · refine (SucceedsIff.push _).iff ?_
    simp [AllAdmitted, keptParts, ParsedPattern.Admits]
  split
  · exact (known _).finish fun _ => .push _
  split
  · exact known next
  split
  · exact (known next).finish fun _ => .push _
  · have reserves : SucceedsIff newSlot True := fun _ => iff_of_true ⟨_, rfl⟩ trivial
    have replaces (id : NodeId) (node : Node) : SucceedsIff (replace id node) True :=
      fun _ => iff_of_true ⟨_, rfl⟩ trivial
    refine reserves.andThen fun slot => (SucceedsIff.push _).andThen fun head => ?_
    refine (SucceedsIff.push _).andThen fun tail => (known tail).finish fun start => ?_
    exact (replaces _ _).andThen fun _ => .pure head

/-- Nodes are made of a pattern exactly if all parts of which they are made are admitted. -/
theorem pattern_succeeds (pattern : Pattern) (next : NodeId) :
    SucceedsIff (Emitting.pattern parsed pattern next) (AllAdmitted parsed pattern) := by
  induction pattern generalizing next with
  | empty =>
      refine (SucceedsIff.pure next).iff ?_
      simp [AllAdmitted, keptParts, ParsedPattern.Admits]
  | char matcher =>
      refine (SucceedsIff.push _).iff ?_
      simp [AllAdmitted, keptParts, ParsedPattern.Admits]
  | assert assertion =>
      refine (SucceedsIff.push _).iff ?_
      simp [AllAdmitted, keptParts, ParsedPattern.Admits]
  | group index body ih =>
      have made := (SucceedsIff.push (.groupEnd index next)).andThen fun stop =>
        (ih stop).finish fun start => SucceedsIff.push (.groupStart index start)
      refine made.iff ?_
      simp [AllAdmitted, keptParts, ParsedPattern.Admits]
  | concat items ih =>
      refine ((sequence_succeeds ih next).finish flush_succeeds).iff ?_
      rw [AllAdmitted, keptParts, List.forall_mem_cons, forall_mem_keptPartsOfAll]
      simp [ParsedPattern.Admits]
  | alternation branches ih =>
      refine ((alternatives_succeeds ih next).finish fun _ => SucceedsIff.push _).iff ?_
      rw [AllAdmitted, keptParts, List.forall_mem_cons, forall_mem_keptPartsOfAll]
      simp [ParsedPattern.Admits]
  | repeated body least most mode ih => exact repeated_succeeds parsed ih least most mode next
  | lookAround direction negated body offset ih branchIH =>
      have around : AllAdmitted parsed (.lookAround direction negated body offset) ↔
          parsed.Admits (.lookAround direction negated body offset) ∧ AllAdmitted parsed body := by
        rw [AllAdmitted, keptParts, List.forall_mem_cons, AllAdmitted]
      cases direction with
      | ahead =>
          refine ((ih _).finish fun _ => SucceedsIff.push _).iff ?_
          simp [around, ParsedPattern.Admits]
      | behind =>
          rw [pattern_behind]
          have measured := (measured_succeeds branchIH offset).finish fun entries =>
            SucceedsIff.push (.lookBehind entries negated next)
          refine measured.iff ?_
          rw [around, ← forall_branches_allAdmitted parsed body]
          simp only [ParsedPattern.Admits, forall_and]
  | atomic body ih =>
      refine ((ih _).finish fun _ => SucceedsIff.push _).iff ?_
      simp [AllAdmitted, keptParts, ParsedPattern.Admits]
  | backReference target ignoresCase offset =>
      refine ((resolve_succeeds parsed target offset).finish fun _ => SucceedsIff.push _).iff ?_
      simp [AllAdmitted, keptParts, ParsedPattern.Admits]
  | conditional target yes no offset yesIH noIH =>
      have made := (resolve_succeeds parsed target offset).bind fun group =>
        (yesIH next).bind fun yesEntry => (noIH next).finish fun noEntry =>
          SucceedsIff.push (.conditional group yesEntry noEntry)
      refine made.iff ?_
      simp only [AllAdmitted, keptParts, List.forall_mem_cons, List.forall_mem_append,
        ParsedPattern.Admits]

end Emitting

theorem Program.ofPattern_succeeds (parsed : ParsedPattern) :
    (∃ program, Program.ofPattern parsed = .ok program) ↔
      ∀ part ∈ parsed.pattern.keptParts, parsed.Admits part := by
  have succeeds := Emitting.pattern_succeeds parsed parsed.pattern Program.done {}
  rw [← Emitting.AllAdmitted, ← succeeds, Program.ofPattern]
  cases (Emitting.pattern parsed parsed.pattern Program.done).run {} with
  | error error => constructor <;> rintro ⟨_, ⟨⟩⟩
  | ok result => exact iff_of_true ⟨_, rfl⟩ ⟨result, rfl⟩

namespace Regexp

variable {text : List Char} {flags : Flags} {parsed : ParsedPattern}

theorem compile_of_made (parses : ParsedPattern.parse text flags = .ok parsed)
    {program : Program} (made : Program.ofPattern parsed = .ok program) :
    compile text flags =
      .ok ⟨text, flags, program, parsed.pattern.hints, parsed.groupNames, {}⟩ := by
  have compiles : compile text flags = (Program.ofPattern parsed >>= fun program =>
      .ok ⟨text, flags, program, parsed.pattern.hints, parsed.groupNames, {}⟩) := by
    rw [compile, parses]
    rfl
  rw [compiles, made]
  rfl

theorem exists_compile_of_made (parses : ParsedPattern.parse text flags = .ok parsed)
    {program : Program} (made : Program.ofPattern parsed = .ok program) :
    ∃ regexp, compile text flags = .ok regexp :=
  ⟨_, compile_of_made parses made⟩

/-- A text is compiled exactly if it can be read and every part of which nodes are made is admitted.
Where no repetition is without iterations, these are all parts of the pattern. -/
theorem compile_succeeds_iff (text : List Char) (flags : Flags) :
    ((∃ regexp, compile text flags = .ok regexp) ↔
      ∃ parsed, ParsedPattern.parse text flags = .ok parsed ∧
        ∀ part ∈ parsed.pattern.keptParts, parsed.Admits part) ∧
    ∀ parsed, ParsedPattern.parse text flags = .ok parsed →
      (parsed.pattern.Throughout fun part => ¬ part.Omitted) →
        ((∃ regexp, compile text flags = .ok regexp) ↔
          ∀ part ∈ parsed.pattern.parts, parsed.Admits part) := by
  have main : (∃ regexp, compile text flags = .ok regexp) ↔
      ∃ parsed, ParsedPattern.parse text flags = .ok parsed ∧
        ∀ part ∈ parsed.pattern.keptParts, parsed.Admits part := by
    constructor
    · rintro ⟨regexp, compiles⟩
      obtain ⟨parsed, parses, compiled⟩ := exists_compiledFrom compiles
      exact ⟨parsed, parses, (Program.ofPattern_succeeds parsed).mp ⟨_, compiled.made⟩⟩
    · rintro ⟨parsed, parses, admitted⟩
      obtain ⟨program, made⟩ := (Program.ofPattern_succeeds parsed).mpr admitted
      exact exists_compile_of_made parses made
  refine ⟨main, fun parsed parses iterates => ?_⟩
  rw [main, ← parsed.pattern.keptParts_eq_parts iterates]
  simp [parses]

/-- `(?<=a|bc)(x)\1{2}` is accepted: its lookbehind has alternatives of fixed widths, and its
reference names a group. -/
theorem compile_reference_succeeds :
    ∃ parsed,
      ParsedPattern.parse ['(', '?', '<', '=', 'a', '|', 'b', 'c', ')', '(', 'x', ')',
        '\\', '1', '{', '2', '}'] {} = .ok parsed ∧
      (parsed.pattern.Throughout fun part => ¬ part.Omitted) ∧
      ((∃ regexp, compile ['(', '?', '<', '=', 'a', '|', 'b', 'c', ')', '(', 'x', ')',
          '\\', '1', '{', '2', '}'] {} = .ok regexp) ↔
        ∀ part ∈ parsed.pattern.parts, parsed.Admits part) ∧
      ∀ part ∈ parsed.pattern.parts, parsed.Admits part := by
  have parses : ParsedPattern.parse ['(', '?', '<', '=', 'a', '|', 'b', 'c', ')', '(', 'x', ')',
      '\\', '1', '{', '2', '}'] {} = .ok
      ⟨.concat [
        .lookAround .behind false (.alternation [.char (.literal 'a' false),
          .concat [.char (.literal 'b' false), .char (.literal 'c' false)]]) 0,
        .group 1 (.char (.literal 'x' false)),
        .repeated (.backReference (.number 1) false 12) 2 (some 2) .greedy], #[none]⟩ := by
    rfl
  refine ⟨_, parses, ?_, (compile_succeeds_iff _ {}).2 _ parses ?_, ?_⟩
  · simp [Pattern.Throughout, Pattern.parts, Pattern.partsOfAll, Pattern.Omitted]
  · simp [Pattern.Throughout, Pattern.parts, Pattern.partsOfAll, Pattern.Omitted]
  · simp [Pattern.parts, Pattern.partsOfAll, ParsedPattern.Admits, Pattern.branches,
      ParsedPattern.group?, ParsedPattern.groupCount]
    exact ⟨⟨1, rfl⟩, 2, rfl⟩

/-- In `(?:\1){0}` there is a reference to a group that does not exist, and the pattern is accepted
all the same. -/
theorem omitted_reference_accepted :
    ∃ parsed,
      ParsedPattern.parse ['(', '?', ':', '\\', '1', ')', '{', '0', '}'] {} = .ok parsed ∧
      (∃ regexp,
        compile ['(', '?', ':', '\\', '1', ')', '{', '0', '}'] {} = .ok regexp) ∧
      ∃ part ∈ parsed.pattern.parts, ¬ parsed.Admits part := by
  have parses : ParsedPattern.parse ['(', '?', ':', '\\', '1', ')', '{', '0', '}'] {} =
      .ok ⟨.repeated (.backReference (.number 1) false 3) 0 (some 0) .greedy, #[]⟩ := by
    rfl
  refine ⟨_, parses, exists_compile_of_made parses rfl, .backReference (.number 1) false 3, ?_, ?_⟩
  · simp [Pattern.parts]
  · simp [ParsedPattern.Admits, ParsedPattern.group?, ParsedPattern.groupCount]

end Regexp

end Backtracking
