import Backtracking.Pattern.Cursor

/-!
# Readings of texts that are known

What is read from a text that is known: a reading succeeds, takes the text off, and gives a result
that satisfies a condition.  The flags in force stay what they are.  A reading may open groups
without names, which are then numbered on from those that were opened before.
-/

namespace Backtracking

namespace Reading

/-- A reading goes from one text to a tail of it, with a result that satisfies a condition. -/
def Reads {α : Type} (flags : Flags) (reading : Reading α) (text tail : List Char)
    (before after : Array (Option String)) (condition : α → Prop) : Prop :=
  ∀ position, ∃ value next,
    reading.run ⟨text, position, flags, before⟩ = .ok (value, ⟨tail, next, flags, after⟩) ∧
      condition value

section Rules

variable {α β : Type} {flags : Flags} {text middle tail : List Char}
  {names before between after : Array (Option String)} {condition : α → Prop}

theorem Reads.pure {value : α} (holds : condition value) :
    Reads flags (Pure.pure value) text text names names condition :=
  fun position => ⟨value, position, rfl, holds⟩

theorem Reads.bind {first : Reading β} {next : β → Reading α} {known : β → Prop}
    (begins : Reads flags first text middle before between known)
    (follows : ∀ value, known value →
      Reads flags (next value) middle tail between after condition) :
    Reads flags (first >>= next) text tail before after condition := by
  intro position
  obtain ⟨value, reached, runs, holds⟩ := begins position
  obtain ⟨result, last, finishes, final⟩ := follows value holds reached
  refine ⟨result, last, ?_, final⟩
  rw [StateT.run_bind, runs]
  exact finishes

theorem Reads.weaken {reading : Reading α} {stronger : α → Prop}
    (reads : Reads flags reading text tail before after stronger)
    (implies : ∀ value, stronger value → condition value) :
    Reads flags reading text tail before after condition := by
  intro position
  obtain ⟨value, next, runs, holds⟩ := reads position
  exact ⟨value, next, runs, implies value holds⟩

theorem Reads.get {next : Cursor → Reading α}
    (follows : ∀ position,
      Reads flags (next ⟨text, position, flags, before⟩) text tail before after condition) :
    Reads flags (MonadState.get >>= next) text tail before after condition :=
  fun position => follows position position

theorem Reads.skip {count : Nat} (drops : text.drop count = tail) :
    Reads flags (skip count) text tail names names fun _ => True := by
  intro position
  subst drops
  exact ⟨(), position + count, rfl, trivial⟩

theorem Reads.peek? :
    Reads flags peek? text text names names fun character? => character? = text.head? :=
  fun position => ⟨text.head?, position, rfl, rfl⟩

theorem Reads.next? {character : Char} :
    Reads flags next? (character :: tail) tail names names fun read => read = some character :=
  fun position => ⟨some character, position + 1, rfl, rfl⟩

theorem Reads.accepted {character : Char} :
    Reads flags (accept character) (character :: tail) tail names names fun yes => yes = true := by
  apply Reads.peek?.bind
  rintro _ rfl
  simp only [List.head?_cons, if_true]
  apply Reads.bind (Reads.skip rfl)
  intro _ _
  exact .pure rfl

theorem Reads.refused {character : Char} (other : text.head? ≠ some character) :
    Reads flags (accept character) text text names names fun yes => yes = false := by
  apply Reads.peek?.bind
  rintro _ rfl
  simp only [if_neg other]
  exact .pure rfl

theorem Reads.expect {character : Char} (otherwise : CompileError) :
    Reads flags (expect character otherwise) (character :: tail) tail names names
      fun _ => True := by
  apply Reads.accepted.bind
  rintro _ rfl
  exact .pure trivial

theorem Reads.takeWhile {test : Char → Bool} {front : List Char}
    (taken : ∀ character ∈ front, test character = true)
    (stops : ∀ character ∈ tail.head?, test character = false) :
    Reads flags (takeWhile test) (front ++ tail) tail names names fun read => read = front := by
  have whole : (front ++ tail).takeWhile test = front := by
    rw [List.takeWhile_append_of_pos taken]
    cases tail with
    | nil => simp
    | cons character rest => simp [stops character rfl]
  apply Reads.get
  intro position
  simp only [whole]
  apply Reads.bind (Reads.skip List.drop_left)
  intro _ _
  exact .pure rfl

theorem Reads.keepFlags :
    Reads flags (modify ({ · with flags := flags })) text text names names fun _ => True :=
  fun position => ⟨(), position, rfl, trivial⟩

end Rules

/-! ## Readings that open groups -/

/-- The flags by default, where the pattern may hold blanks and comments or not. -/
def coreFlags (extended : Bool) : Flags := { extended := extended }

/-- The numbers of groups of which the first is opened when there are `count` already. -/
def Consecutive (count : Nat) (groups : List Nat) : Prop :=
  groups = List.range' (count + 1) groups.length

/-- The names when some groups without names have been opened as well. -/
def opened (names : Array (Option String)) (groups : List Nat) : Array (Option String) :=
  names ++ Array.replicate groups.length none

/-- A reading goes from one text to a tail of it, if the groups that it opens are numbered so. -/
def Opens {α : Type} (extended : Bool) (reading : Reading α) (groups : List Nat)
    (text tail : List Char) (condition : α → Prop) : Prop :=
  ∀ names : Array (Option String), Consecutive names.size groups →
    Reads (coreFlags extended) reading text tail names (opened names groups) condition

theorem size_opened (names : Array (Option String)) (groups : List Nat) :
    (opened names groups).size = names.size + groups.length := by
  simp [opened]

theorem opened_append (names : Array (Option String)) (first second : List Nat) :
    opened (opened names first) second = opened names (first ++ second) := by
  simp [opened, Array.append_assoc, Array.replicate_append_replicate]

theorem Consecutive.left {count : Nat} {first second : List Nat}
    (consecutive : Consecutive count (first ++ second)) : Consecutive count first := by
  rw [Consecutive, List.length_append, ← List.range'_append_1] at consecutive
  exact List.append_inj_left consecutive (by simp)

theorem Consecutive.right {count : Nat} {first second : List Nat}
    (consecutive : Consecutive count (first ++ second)) :
    Consecutive (count + first.length) second := by
  rw [Consecutive, List.length_append, ← List.range'_append_1] at consecutive
  have rest := List.append_inj_right consecutive (by simp)
  rw [Consecutive]
  rwa [show count + first.length + 1 = count + 1 + first.length by omega]

section Opens

variable {α β : Type} {extended : Bool} {text middle tail : List Char} {groups more : List Nat}
  {condition : α → Prop}

theorem Opens.none {reading : Reading α}
    (reads : ∀ names, Reads (coreFlags extended) reading text tail names names condition) :
    Opens extended reading [] text tail condition := by
  intro names _
  have same : opened names [] = names := by simp [opened]
  rw [same]
  exact reads names

theorem Opens.pure {value : α} (holds : condition value) :
    Opens extended (Pure.pure value) [] text text condition :=
  .none fun _ => .pure holds

theorem Opens.weaken {reading : Reading α} {stronger : α → Prop}
    (opens : Opens extended reading groups text tail stronger)
    (implies : ∀ value, stronger value → condition value) :
    Opens extended reading groups text tail condition :=
  fun names consecutive => (opens names consecutive).weaken implies

theorem Opens.bind {first : Reading β} {next : β → Reading α} {known : β → Prop}
    (begins : Opens extended first groups text middle known)
    (follows : ∀ value, known value → Opens extended (next value) more middle tail condition) :
    Opens extended (first >>= next) (groups ++ more) text tail condition := by
  intro names consecutive
  apply Reads.bind (begins names consecutive.left)
  intro value holds
  rw [← opened_append]
  apply follows value holds
  rw [size_opened]
  exact consecutive.right

theorem Opens.after {first : Reading β} {next : β → Reading α} {known : β → Prop}
    (begins : Opens extended first [] text middle known)
    (follows : ∀ value, known value → Opens extended (next value) more middle tail condition) :
    Opens extended (first >>= next) more text tail condition :=
  begins.bind follows

theorem Opens.before {first : Reading β} {next : β → Reading α} {known : β → Prop}
    (begins : Opens extended first groups text middle known)
    (follows : ∀ value, known value → Opens extended (next value) [] middle tail condition) :
    Opens extended (first >>= next) groups text tail condition := by
  have whole := begins.bind follows
  rwa [List.append_nil] at whole

theorem Opens.get {next : Cursor → Reading α}
    (follows : ∀ cursor, cursor.rest = text → cursor.flags = coreFlags extended →
      Opens extended (next cursor) groups text tail condition) :
    Opens extended (MonadState.get >>= next) groups text tail condition :=
  fun names consecutive => .get fun _ => follows _ rfl rfl names consecutive

theorem Opens.skip {count : Nat} (drops : text.drop count = tail) :
    Opens extended (Reading.skip count) [] text tail fun _ => True :=
  .none fun _ => .skip drops

end Opens

end Reading

end Backtracking
