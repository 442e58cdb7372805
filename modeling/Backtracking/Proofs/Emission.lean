import Backtracking.Proofs.Layout
import Backtracking.Proofs.Success

/-!
# The nodes that the emitter makes

The emitter only adds nodes, and changes none that a finished part of the pattern uses.  So whatever
program holds the nodes that were added for a pattern holds the nodes of that pattern.
-/

namespace Backtracking

namespace Emitter

/-- An emitter only adds nodes to those made before, and only reserves further slots. -/
structure Grows (before after : Emitter) : Prop where
  size_le : before.nodes.size ≤ after.nodes.size
  slots_le : before.loopSlots ≤ after.loopSlots
  kept : ∀ id < before.nodes.size, after.nodes[id]? = before.nodes[id]?

/-- A program holds the nodes that were made between two states of the emitter. -/
structure Between (before after : Emitter) (program : Program) : Prop where
  slots_le : after.loopSlots ≤ program.loopSlots
  holds : ∀ id node, before.nodes.size ≤ id → after.nodes[id]? = some node → program.Holds id node

theorem Grows.refl (emitter : Emitter) : emitter.Grows emitter :=
  ⟨Nat.le_refl _, Nat.le_refl _, fun _ _ => rfl⟩

theorem Grows.trans {first second third : Emitter} (begins : first.Grows second)
    (follows : second.Grows third) : first.Grows third where
  size_le := Nat.le_trans begins.size_le follows.size_le
  slots_le := Nat.le_trans begins.slots_le follows.slots_le
  kept id inside :=
    (follows.kept id (Nat.lt_of_lt_of_le inside begins.size_le)).trans (begins.kept id inside)

theorem Between.left {first second third : Emitter} {program : Program}
    (between : first.Between third program) (follows : second.Grows third) :
    first.Between second program where
  slots_le := Nat.le_trans follows.slots_le between.slots_le
  holds id node inside found := by
    apply between.holds id node inside
    rw [follows.kept id (Array.getElem?_eq_some_iff.mp found).1]
    exact found

theorem Between.right {first second third : Emitter} {program : Program}
    (between : first.Between third program) (begins : first.Grows second) :
    second.Between third program where
  slots_le := between.slots_le
  holds id node inside found :=
    between.holds id node (Nat.le_trans begins.size_le inside) found

/-- What is added between two states of the emitter makes a statement true of every program that
holds it, if no slot below those reserved before is asked for, and if the depths of the slots that
were reserved between these states are the right ones. -/
def Makes (before after : Emitter)
    (statement : (slots : Nat) → (loopDepth : Nat → Nat) → Program → Prop) : Prop :=
  before.Grows after ∧ ∃ right : Nat → Nat, ∀ slots loopDepth program, slots ≤ before.loopSlots →
    (∀ slot, before.loopSlots ≤ slot → slot < after.loopSlots → loopDepth slot = right slot) →
    before.Between after program → statement slots loopDepth program

section Makes

variable {begins follows stronger weaker : (slots : Nat) → (loopDepth : Nat → Nat) → Program → Prop}

theorem Makes.refl {emitter : Emitter}
    (holds : ∀ slots loopDepth program, follows slots loopDepth program) :
    emitter.Makes emitter follows :=
  ⟨.refl emitter, fun _ => 0, fun slots loopDepth program _ _ _ => holds slots loopDepth program⟩

theorem Makes.and {first second third : Emitter} (firstMakes : first.Makes second begins)
    (secondMakes : second.Makes third follows) :
    first.Makes third fun slots loopDepth program =>
      begins slots loopDepth program ∧ follows slots loopDepth program := by
  obtain ⟨firstGrows, left, firstHolds⟩ := firstMakes
  obtain ⟨secondGrows, right, secondHolds⟩ := secondMakes
  have firstSlots := firstGrows.slots_le
  have secondSlots := secondGrows.slots_le
  refine ⟨firstGrows.trans secondGrows,
    fun slot => if slot < second.loopSlots then left slot else right slot,
    fun slots loopDepth program below depths between => ⟨?_, ?_⟩⟩
  · refine firstHolds slots loopDepth program below (fun slot reserved inside => ?_)
      (between.left secondGrows)
    rw [depths slot reserved (by omega)]
    exact if_pos inside
  · refine secondHolds slots loopDepth program (by omega) (fun slot reserved inside => ?_)
      (between.right firstGrows)
    rw [depths slot (by omega) inside]
    exact if_neg (by omega)

theorem Makes.weaken {before after : Emitter} (makes : before.Makes after stronger)
    (implies : ∀ slots loopDepth program, stronger slots loopDepth program →
      weaker slots loopDepth program) : before.Makes after weaker := by
  obtain ⟨grows, right, holds⟩ := makes
  exact ⟨grows, right, fun slots loopDepth program below depths between =>
    implies slots loopDepth program (holds slots loopDepth program below depths between)⟩

end Makes

end Emitter

namespace Emitting

open Emitter

/-- A new node has the number of nodes made before as its number. -/
theorem push_makes (node : Node) (before : Emitter) :
    Ensures (push node) before fun entry after =>
      entry = before.nodes.size ∧ before.nodes.size < after.nodes.size ∧
        before.Makes after fun _ _ program => program.Holds entry node := by
  intro entry after succeeds
  cases succeeds
  refine ⟨rfl, by simp, ⟨by simp, Nat.le_refl _, ?_⟩, fun _ => 0, ?_⟩
  · intro id inside
    simp [Array.getElem?_push, Nat.ne_of_lt inside]
  · intro slots loopDepth program _ _ between
    exact between.holds _ node (Nat.le_refl _) (by simp)

/-- A node that is added completes what was made before it. -/
theorem push_completes {before middle : Emitter} {node : Node}
    {made : (slots : Nat) → (loopDepth : Nat → Nat) → Program → Prop}
    {finished : NodeId → (slots : Nat) → (loopDepth : Nat → Nat) → Program → Prop}
    (makes : before.Makes middle made)
    (completes : ∀ slots loopDepth program, made slots loopDepth program →
      program.Holds middle.nodes.size node → finished middle.nodes.size slots loopDepth program) :
    Ensures (push node) middle fun entry after =>
      entry < after.nodes.size ∧ before.Makes after (finished entry) := by
  refine Ensures.weaken (push_makes node middle) ?_
  rintro _ after ⟨rfl, larger, holds⟩
  exact ⟨larger, (makes.and holds).weaken fun slots loopDepth program both =>
    completes slots loopDepth program both.1 both.2⟩

theorem push_alone {before : Emitter} {node : Node}
    {finished : NodeId → (slots : Nat) → (loopDepth : Nat → Nat) → Program → Prop}
    (completes : ∀ slots loopDepth program, program.Holds before.nodes.size node →
      finished before.nodes.size slots loopDepth program) :
    Ensures (push node) before fun entry after =>
      entry < after.nodes.size ∧ before.Makes after (finished entry) :=
  push_completes (.refl fun _ _ _ => trivial) fun slots loopDepth program _ =>
    completes slots loopDepth program

theorem flush_makes (pending : PendingText) {before : Emitter}
    (inside : pending.next < before.nodes.size) :
    Ensures pending.flush before fun entry after =>
      entry < after.nodes.size ∧ before.Makes after fun _ _ program =>
        EncodesText program pending entry := by
  obtain ⟨text, ignoresCase, next⟩ := pending
  match text with
  | [] => exact .pure ⟨inside, .refl fun _ _ _ => .none⟩
  | [character] => exact push_alone fun _ _ _ holds => .char inside holds
  | first :: second :: rest => exact push_alone fun _ _ _ holds => .literal inside holds

theorem prepend_makes {parsed : ParsedPattern} {depth : Nat} {items : List Pattern}
    {pending : PendingText} {next : NodeId} (character : Char) (ignoresCase : Bool)
    {before middle : Emitter}
    (inside : pending.next < middle.nodes.size)
    (makes : before.Makes middle fun slots loopDepth program =>
      EncodesItems parsed program loopDepth slots depth items pending next) :
    Ensures (pending.prepend character ignoresCase) middle fun extended after =>
      extended.next < after.nodes.size ∧ before.Makes after fun slots loopDepth program =>
        EncodesItems parsed program loopDepth slots depth
          (.char (if ignoresCase then .charIgnoringCase character else .char character) :: items)
          extended next := by
  unfold PendingText.prepend
  split
  · next alike =>
      have same : pending.text = [] ∨ pending.ignoresCase = ignoresCase := by simpa using alike
      exact .pure ⟨inside, makes.weaken fun _ _ _ follows => .joined follows same⟩
  · refine Ensures.bind (flush_makes pending inside) ?_
    rintro entry after ⟨entryInside, flushes⟩
    exact .pure ⟨entryInside, (makes.and flushes).weaken fun _ _ _ both => .apart both.1 both.2⟩

theorem newSlot_makes (before : Emitter) :
    Ensures newSlot before fun slot after =>
      slot = before.loopSlots ∧ after = { before with loopSlots := before.loopSlots + 1 } := by
  intro slot after succeeds
  cases succeeds
  exact ⟨rfl, rfl⟩

theorem replace_ensures (id : NodeId) (node : Node) (before : Emitter) :
    Ensures (replace id node) before fun _ after =>
      after = { before with nodes := before.nodes.setIfInBounds id node } :=
  .modified rfl

/-- The placeholder of a loop is replaced when its body is made, which leaves the nodes of the body
and those made before the loop as they are. -/
theorem loop_makes {parsed : ParsedPattern} {depth : Nat} {body : Pattern} {least : Nat}
    {most : Option Nat} {mode : RepeatMode} {next start : NodeId}
    {before headed tailed middle : Emitter} (gives : mode ≠ .possessive)
    (heads : Grows { before with loopSlots := before.loopSlots + 1 } headed)
    (larger : before.nodes.size < headed.nodes.size)
    (tails : headed.Makes tailed fun _ _ program => program.Holds headed.nodes.size
      (.loopTail before.nodes.size))
    (makes : tailed.Makes middle fun slots loopDepth program =>
      Encodes parsed program loopDepth slots depth body start headed.nodes.size) :
    before.Makes
      { middle with
        nodes := middle.nodes.setIfInBounds before.nodes.size
          (.loopHead before.loopSlots least most (mode = .greedy) start next) }
      fun slots loopDepth program =>
        Encodes parsed program loopDepth slots depth (.repeated body least most mode)
          before.nodes.size next := by
  obtain ⟨tailGrows, tailRight, tailHolds⟩ := tails
  obtain ⟨bodyGrows, bodyRight, bodyHolds⟩ := makes
  have grows := (heads.trans tailGrows).trans bodyGrows
  have headSlots : before.loopSlots + 1 ≤ headed.loopSlots := heads.slots_le
  have tailSlots := tailGrows.slots_le
  have bodySlots := bodyGrows.slots_le
  have others {id : NodeId} (different : before.nodes.size ≠ id) :
      (middle.nodes.setIfInBounds before.nodes.size
        (.loopHead before.loopSlots least most (mode = .greedy) start next))[id]? =
          middle.nodes[id]? :=
    Array.getElem?_setIfInBounds_ne different
  refine ⟨⟨?_, by dsimp only; omega, fun id inside => ?_⟩,
    fun slot => if slot = before.loopSlots then depth
      else if slot < tailed.loopSlots then tailRight slot else bodyRight slot,
    fun slots loopDepth program below depths between => ?_⟩
  · simpa using grows.size_le
  · rw [others (Nat.ne_of_gt inside)]
    exact grows.kept id inside
  · have beyond : headed.Between middle program := by
      refine ⟨between.slots_le, fun id node inside found => ?_⟩
      apply between.holds id node (by omega)
      rw [others (by omega)]
      exact found
    have placed : before.nodes.size < middle.nodes.size :=
      Nat.lt_of_lt_of_le larger (tailGrows.trans bodyGrows).size_le
    have head := between.holds before.nodes.size _ (Nat.le_refl _)
      (Array.getElem?_setIfInBounds_self_of_lt placed)
    have sealed : loopDepth before.loopSlots = depth := by
      rw [depths before.loopSlots (Nat.le_refl _) (by dsimp only; omega)]
      exact if_pos rfl
    have tailDepths : ∀ slot, headed.loopSlots ≤ slot → slot < tailed.loopSlots →
        loopDepth slot = tailRight slot := by
      intro slot reserved inside
      rw [depths slot (by omega) (by dsimp only; omega)]
      dsimp only
      rw [if_neg (by omega), if_pos inside]
    have bodyDepths : ∀ slot, tailed.loopSlots ≤ slot → slot < middle.loopSlots →
        loopDepth slot = bodyRight slot := by
      intro slot reserved inside
      rw [depths slot (by omega) inside]
      dsimp only
      rw [if_neg (by omega), if_neg (by omega)]
    have tail := tailHolds 0 loopDepth program (Nat.zero_le _) tailDepths (beyond.left bodyGrows)
    have encodes := bodyHolds (before.loopSlots + 1) loopDepth program (by omega) bodyDepths
      (beyond.right tailGrows)
    have slotsLe : middle.loopSlots ≤ program.loopSlots := between.slots_le
    exact .loop gives ⟨below, by omega⟩ sealed head tail encodes

/-- The emitter makes the nodes of a pattern, in front of any node that exists already. -/
def MakesPattern (parsed : ParsedPattern) (pattern : Pattern) : Prop :=
  ∀ (depth : Nat) (next : NodeId) (before : Emitter), next < before.nodes.size →
    Ensures (Emitting.pattern parsed pattern next) before fun entry after =>
      entry < after.nodes.size ∧ before.Makes after fun slots loopDepth program =>
        Encodes parsed program loopDepth slots depth pattern entry next

theorem branchWidth_ensures (branch : Pattern) (offset : Nat) (before : Emitter) :
    Ensures (liftM (branch.branchWidth offset) : Emitting Nat) before fun width after =>
      branch.fixedWidth? = some branch.width.least ∧ width = branch.width.least ∧
        after = before := by
  refine Ensures.lifted fun width measured => ?_
  simp only [Pattern.branchWidth] at measured
  split at measured
  · next known fixed =>
      cases measured
      obtain rfl := Width.fixed?_eq_some fixed
      exact ⟨fixed, rfl, rfl⟩
  · cases measured

theorem resolve_ensures (parsed : ParsedPattern) (target : GroupRef) (offset : Nat)
    (before : Emitter) :
    Ensures (liftM (parsed.resolve target offset) : Emitting Nat) before fun group after =>
      parsed.group? target = some group ∧ after = before :=
  Ensures.lifted fun _ resolved => ⟨ParsedPattern.resolve_eq_ok_iff.mp resolved, rfl⟩

section Lists

variable {parsed : ParsedPattern} {patterns : List Pattern}

theorem sequence_makes (known : ∀ item ∈ patterns, MakesPattern parsed item) (depth : Nat)
    (next : NodeId) {before : Emitter} (inside : next < before.nodes.size) :
    Ensures (Emitting.sequence parsed patterns next) before fun pending after =>
      pending.next < after.nodes.size ∧ before.Makes after fun slots loopDepth program =>
        EncodesItems parsed program loopDepth slots depth patterns pending next := by
  induction patterns with
  | nil => exact .pure ⟨inside, .refl fun _ _ _ => .nil⟩
  | cons item items ih =>
      refine Ensures.bind (ih fun other member => known other (by simp [member])) ?_
      rintro pending middle ⟨pendingInside, follows⟩
      split
      · next character => exact prepend_makes character false pendingInside follows
      · next character => exact prepend_makes character true pendingInside follows
      · refine Ensures.bind (flush_makes pending pendingInside) ?_
        rintro flushed rest ⟨flushedInside, text⟩
        refine Ensures.bind (known item (by simp) depth flushed rest flushedInside) ?_
        rintro entry after ⟨entryInside, encodes⟩
        exact .pure ⟨entryInside, ((follows.and text).and encodes).weaken fun _ _ _ all =>
          .item all.1.1 all.1.2 all.2⟩

theorem alternatives_makes (known : ∀ branch ∈ patterns, MakesPattern parsed branch)
    (depth : Nat) (next : NodeId) {before : Emitter} (inside : next < before.nodes.size) :
    Ensures (Emitting.alternatives parsed patterns next) before fun entries after =>
      (∀ entry ∈ entries, entry < after.nodes.size) ∧
        before.Makes after fun slots loopDepth program =>
          EncodesBranches parsed program loopDepth slots depth patterns entries next := by
  induction patterns generalizing before with
  | nil => exact .pure ⟨by simp, .refl fun _ _ _ => .nil⟩
  | cons branch branches ih =>
      refine Ensures.bind (known branch (by simp) depth next before inside) ?_
      rintro entry middle ⟨entryInside, encodes⟩
      refine Ensures.bind (ih (fun other member => known other (by simp [member]))
        (Nat.lt_of_lt_of_le inside encodes.1.size_le)) ?_
      rintro entries after ⟨entriesInside, follows⟩
      refine .pure ⟨?_, (encodes.and follows).weaken fun _ _ _ both => .cons both.1 both.2⟩
      intro other member
      rcases List.mem_cons.mp member with rfl | later
      · exact Nat.lt_of_lt_of_le entryInside follows.1.size_le
      · exact entriesInside other later

theorem measured_makes (known : ∀ branch ∈ patterns, MakesPattern parsed branch) (depth : Nat)
    (offset : Nat) {before : Emitter} (inside : Program.done < before.nodes.size) :
    Ensures (Emitting.measured parsed patterns offset) before fun entries after =>
      before.Makes after fun slots loopDepth program =>
        EncodesBehind parsed program loopDepth slots depth patterns entries := by
  induction patterns generalizing before with
  | nil => exact .pure (.refl fun _ _ _ => .nil)
  | cons branch branches ih =>
      refine Ensures.bind (branchWidth_ensures branch offset before) ?_
      rintro width _ ⟨fixed, rfl, rfl⟩
      refine Ensures.bind (known branch (by simp) depth _ _ inside) ?_
      rintro entry middle ⟨-, encodes⟩
      refine Ensures.bind (ih (fun other member => known other (by simp [member]))
        (Nat.lt_of_lt_of_le inside encodes.1.size_le)) ?_
      intro entries after follows
      exact .pure ((encodes.and follows).weaken fun _ _ _ both => .cons fixed both.1 both.2)

end Lists

/-- A lookbehind is made from the branches of its body, whether there is one or are several. -/
theorem pattern_behind (parsed : ParsedPattern) (negated : Bool) (body : Pattern) (offset : Nat)
    (next : NodeId) :
    Emitting.pattern parsed (.lookAround .behind negated body offset) next =
      measured parsed body.branches offset >>= fun entries =>
        push (.lookBehind entries negated next) := by
  cases body
  case alternation branches => rfl
  all_goals simp [Emitting.pattern, measured, Pattern.branches]

theorem repeated_makes {parsed : ParsedPattern} {body : Pattern} (known : MakesPattern parsed body)
    (least : Nat) (most : Option Nat) (mode : RepeatMode) :
    MakesPattern parsed (.repeated body least most mode) := by
  intro depth next before inside
  have start : Program.done < before.nodes.size := Nat.zero_lt_of_lt inside
  simp only [Emitting.pattern]
  split
  · next omitted =>
      subst omitted
      exact .pure ⟨inside, .refl fun _ _ _ => .omitted⟩
  split
  · exact push_alone fun _ _ _ holds => .charRepeat inside holds
  split
  · next possessive =>
      subst possessive
      refine Ensures.bind (known (depth + 1) _ before start) ?_
      rintro entry middle ⟨-, encodes⟩
      exact push_completes encodes fun _ _ _ encodes holds => .possessive holds encodes
  next gives =>
  split
  · next single =>
      obtain ⟨rfl, rfl⟩ := single
      refine Ensures.weaken (known depth next before inside) ?_
      rintro entry after ⟨entryInside, makes⟩
      exact ⟨entryInside, makes.weaken fun _ _ _ encodes => .single gives encodes⟩
  split
  · next optional =>
      obtain ⟨rfl, rfl⟩ := optional
      refine Ensures.bind (known depth next before inside) ?_
      rintro entry middle ⟨entryInside, encodes⟩
      have order := Nat.lt_of_lt_of_le inside encodes.1.size_le
      exact push_completes encodes fun _ _ _ encodes holds =>
        .optional gives ⟨entryInside, order⟩ holds encodes
  · refine Ensures.bind (newSlot_makes before) ?_
    rintro _ _ ⟨rfl, rfl⟩
    refine Ensures.bind (push_makes _ _) ?_
    rintro _ headed ⟨rfl, larger, heads⟩
    refine Ensures.bind (push_makes _ headed) ?_
    rintro _ tailed ⟨rfl, tailInside, tails⟩
    refine Ensures.bind (known depth _ tailed tailInside) ?_
    rintro start middle ⟨-, encodes⟩
    refine Ensures.bind (replace_ensures _ _ middle) ?_
    rintro _ _ rfl
    have placed := Nat.lt_of_lt_of_le larger (tails.1.trans encodes.1).size_le
    exact .pure ⟨by simpa using placed, loop_makes gives heads.1 larger tails encodes⟩

/-- The emitter makes the nodes of every pattern. -/
theorem pattern_makes (parsed : ParsedPattern) (pattern : Pattern) :
    MakesPattern parsed pattern := by
  induction pattern with
  | empty => exact fun depth next before inside => .pure ⟨inside, .refl fun _ _ _ => .empty⟩
  | char matcher =>
      exact fun depth next before inside => push_alone fun _ _ _ holds => .char inside holds
  | assert assertion =>
      exact fun depth next before inside => push_alone fun _ _ _ holds => .assert inside holds
  | group index body ih =>
      intro depth next before inside
      refine Ensures.bind (push_makes _ before) ?_
      rintro _ closed ⟨rfl, larger, closes⟩
      refine Ensures.bind (ih depth _ closed larger) ?_
      rintro start middle ⟨-, encodes⟩
      exact push_completes (closes.and encodes) fun _ _ _ both opens =>
        .group opens both.2 both.1
  | concat items ih =>
      intro depth next before inside
      refine Ensures.bind (sequence_makes ih depth next inside) ?_
      rintro pending middle ⟨pendingInside, follows⟩
      refine Ensures.weaken (flush_makes pending pendingInside) ?_
      rintro entry after ⟨entryInside, text⟩
      exact ⟨entryInside, (follows.and text).weaken fun _ _ _ both => .concat both.1 both.2⟩
  | alternation branches ih =>
      intro depth next before inside
      refine Ensures.bind (alternatives_makes ih depth next inside) ?_
      rintro entries middle ⟨entriesInside, encodes⟩
      exact push_completes encodes fun _ _ _ encodes holds =>
        .alternation entriesInside holds encodes
  | repeated body least most mode ih => exact repeated_makes ih least most mode
  | lookAround direction negated body offset ih branchIH =>
      intro depth next before inside
      have start : Program.done < before.nodes.size := Nat.zero_lt_of_lt inside
      cases direction with
      | ahead =>
          refine Ensures.bind (ih (depth + 1) _ before start) ?_
          rintro entry middle ⟨-, encodes⟩
          have order := Nat.lt_of_lt_of_le inside encodes.1.size_le
          exact push_completes encodes fun _ _ _ encodes holds => .lookAhead order holds encodes
      | behind =>
          rw [pattern_behind]
          refine Ensures.bind (measured_makes branchIH (depth + 1) offset start) ?_
          intro entries middle encodes
          have order := Nat.lt_of_lt_of_le inside encodes.1.size_le
          exact push_completes encodes fun _ _ _ encodes holds => .lookBehind order holds encodes
  | atomic body ih =>
      intro depth next before inside
      refine Ensures.bind (ih (depth + 1) _ before (Nat.zero_lt_of_lt inside)) ?_
      rintro entry middle ⟨-, encodes⟩
      exact push_completes encodes fun _ _ _ encodes holds => .atomic holds encodes
  | backReference target ignoresCase offset =>
      intro depth next before inside
      refine Ensures.bind (resolve_ensures parsed target offset before) ?_
      rintro group _ ⟨named, rfl⟩
      exact push_alone fun _ _ _ holds => .backReference named inside holds
  | conditional target yes no offset yesIH noIH =>
      intro depth next before inside
      refine Ensures.bind (resolve_ensures parsed target offset before) ?_
      rintro group _ ⟨named, rfl⟩
      refine Ensures.bind (yesIH depth next _ inside) ?_
      rintro yesEntry middle ⟨yesInside, encodesYes⟩
      refine Ensures.bind
        (noIH depth next middle (Nat.lt_of_lt_of_le inside encodesYes.1.size_le)) ?_
      rintro noEntry rest ⟨noInside, encodesNo⟩
      have order := Nat.lt_of_lt_of_le yesInside encodesNo.1.size_le
      exact push_completes (encodesYes.and encodesNo) fun _ _ _ both holds =>
        .conditional named ⟨order, noInside⟩ holds both.1 both.2

end Emitting

/-- The program of a pattern holds its nodes, and they lead to the first node of the program, at
which a match is complete. -/
theorem Program.ofPattern_encodes {parsed : ParsedPattern} {program : Program}
    (made : Program.ofPattern parsed = .ok program) :
    (∃ loopDepth, Encodes parsed program loopDepth 0 0 parsed.pattern program.start Program.done) ∧
      program.Holds Program.done .done := by
  simp only [Program.ofPattern] at made
  cases run : (Emitting.pattern parsed parsed.pattern Program.done).run {} with
  | error error =>
      rw [run] at made
      cases made
  | ok result =>
      obtain ⟨start, emitter⟩ := result
      rw [run] at made
      cases made
      obtain ⟨-, grows, depths, encodes⟩ :=
        Emitting.pattern_makes parsed parsed.pattern 0 Program.done {} Nat.zero_lt_one start emitter
          run
      have first : emitter.nodes[0]? = some .done := grows.kept 0 Nat.zero_lt_one
      exact ⟨⟨depths, encodes 0 depths _ (Nat.le_refl _) (fun _ _ _ => rfl)
        ⟨Nat.le_refl _, fun id node _ found => found⟩⟩, first⟩

end Backtracking
