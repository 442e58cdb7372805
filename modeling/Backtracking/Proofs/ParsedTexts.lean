import Backtracking.Proofs.GroupNumbers
import Backtracking.Proofs.MovedPatterns
import Backtracking.Proofs.NestedPatterns

/-!
# Parsed texts

Every text is either refused, with an error at a place of the text or at its end, or read to its
end.  What is known of the pattern then is what all later stages rely on.
-/

namespace Backtracking

namespace ParsedPattern

/-- The names of all groups.  That of the whole match, which has none, stands in front. -/
def names (parsed : ParsedPattern) : List (Option String) := none :: parsed.groupNames.toList

/-- What is known of a pattern that was read from a text.

* `consumed`: the text was read to its end.
* `groups_eq`: the groups are numbered from one, in the order of their opening parentheses.
* `names_length`, `names_head`, `groupNumber?_eq_some_iff`: there is a name for each group, or none,
  and a group is found by the name that it has.
* `bounded`: the bounds of repetitions are in order and not too great.
* `several`: sequences and choices have several members.
* `nested`: parentheses are not nested too deep in the text. -/
structure ReadFrom (text : List Char) (flags : Flags) (parsed : ParsedPattern) : Prop where
  consumed : ∃ branches cursor,
    (Reader.readBranches Reader.nestingLimit Reader.nestingLimit).run
        { rest := text, flags := flags } = .ok (branches, cursor) ∧
      cursor.rest = [] ∧ cursor.position = text.length ∧
      parsed = ⟨Pattern.choice branches, cursor.groupNames⟩
  groups_eq : parsed.pattern.groups = List.range' 1 parsed.groupCount
  names_length : parsed.names.length = parsed.groupCount + 1
  names_head : parsed.names[0]? = some none
  groupNumber?_eq_some_iff : ∀ name index,
    parsed.groupNumber? name = some index ↔ parsed.names[index]? = some (some name)
  bounded : ∀ body least most mode, .repeated body least most mode ∈ parsed.pattern.parts →
    least ≤ 65535 ∧ ∀ bound, most = some bound → least ≤ bound ∧ bound ≤ 65535
  several : ∀ members, .concat members ∈ parsed.pattern.parts ∨
    .alternation members ∈ parsed.pattern.parts → 2 ≤ members.length
  nested : ∃ after, Nested 250 flags text [] after

variable {limit : Nat} {text : List Char} {flags : Flags} {parsed : ParsedPattern}

/-- The reader is within the text where it stops, and so are its errors. -/
theorem run_within (limit depth : Nat) (text : List Char) (flags : Flags) :
    match (Reader.readBranches limit depth).run { rest := text, flags := flags } with
    | .error error => ∃ offset ≤ text.length, error.offset? = some offset
    | .ok (_, cursor) => cursor.Within text 0 := by
  have here : Cursor.Within text 0 { rest := text, flags := flags } :=
    ⟨rfl, Nat.zero_le _, Nat.zero_le _⟩
  have moves : Reading.Moves text 0 _ _ _ _ 0 := Reader.readBranches_moves limit depth here
  unfold Reading.Moves at moves
  cases run : (Reader.readBranches limit depth).run { rest := text, flags := flags } with
  | error error =>
      rw [run] at moves
      exact moves.2
  | ok reached =>
      rw [run] at moves
      exact moves.2

theorem parseWithin_eq_error {error : CompileError}
    (fails : parseWithin limit text flags = .error error) :
    ∃ offset ≤ text.length, error.offset? = some offset := by
  have within := run_within limit limit text flags
  simp only [parseWithin] at fails
  cases run : (Reader.readBranches limit limit).run { rest := text, flags := flags } with
  | error other =>
      rw [run] at fails within
      cases fails
      exact within
  | ok reached =>
      obtain ⟨branches, cursor⟩ := reached
      rw [run] at fails within
      change (if cursor.rest.isEmpty then Except.ok _ else Except.error _) = _ at fails
      split at fails
      · cases fails
      · cases fails
        exact ⟨cursor.position, within.position_le, rfl⟩

theorem parseWithin_eq_ok (succeeds : parseWithin limit text flags = .ok parsed) :
    ∃ branches cursor,
      (Reader.readBranches limit limit).run { rest := text, flags := flags } =
          .ok (branches, cursor) ∧
        cursor.rest = [] ∧ cursor.position = text.length ∧
        parsed = ⟨Pattern.choice branches, cursor.groupNames⟩ := by
  have within := run_within limit limit text flags
  simp only [parseWithin] at succeeds
  cases run : (Reader.readBranches limit limit).run { rest := text, flags := flags } with
  | error error =>
      rw [run] at succeeds
      cases succeeds
  | ok reached =>
      obtain ⟨branches, cursor⟩ := reached
      rw [run] at succeeds within
      change (if cursor.rest.isEmpty then Except.ok _ else Except.error _) = _ at succeeds
      split at succeeds
      · next empty =>
          cases succeeds
          rw [List.isEmpty_iff] at empty
          refine ⟨branches, cursor, rfl, empty, ?_, rfl⟩
          have length := within.rest_length
          have inside := within.position_le
          rw [empty, List.length_nil] at length
          omega
      · cases succeeds

theorem names_succ (parsed : ParsedPattern) (index : Nat) :
    parsed.names[index + 1]? = parsed.groupNames[index]? := by
  simp [names]

/-- A group is found by its name, because it is the only one of that name. -/
theorem Numbered.groupNumber?_eq_some_iff (numbered : parsed.Numbered) (name : String)
    (index : Nat) :
    parsed.groupNumber? name = some index ↔ parsed.names[index]? = some (some name) := by
  unfold groupNumber?
  constructor
  · intro found
    obtain ⟨place, first, rfl⟩ := Option.map_eq_some_iff.mp found
    obtain ⟨inside, named, -⟩ := Array.findIdx?_eq_some_iff_getElem.mp first
    rw [names_succ, Array.getElem?_eq_getElem inside]
    exact congrArg some (by simpa using named)
  · intro known
    obtain _ | index := index
    · cases known
    rw [names_succ] at known
    cases first : parsed.groupNames.findIdx? (· == some name) with
    | none =>
        have absent := Array.findIdx?_eq_none_iff.mp first _ (Array.mem_of_getElem? known)
        simp at absent
    | some place =>
        obtain ⟨inside, named, -⟩ := Array.findIdx?_eq_some_iff_getElem.mp first
        have found : parsed.groupNames[place]? = some (some name) := by
          rw [Array.getElem?_eq_getElem inside]
          exact congrArg some (by simpa using named)
        rw [Option.map_some, numbered.distinct place index name found known]

/-- Every text is refused with an error at a place of the text or at its end, or read to its end, as
a pattern with all that later stages rely on. -/
theorem parse_guarantees (text : List Char) (flags : Flags) :
    match parse text flags with
    | .error error => ∃ offset ≤ text.length, error.offset? = some offset
    | .ok parsed => parsed.ReadFrom text flags := by
  cases result : parse text flags with
  | error error => exact parseWithin_eq_error result
  | ok parsed =>
      have numbered := parse_numbered result
      obtain ⟨branches, cursor, run, ends, place, equal⟩ := parseWithin_eq_ok result
      have nested : Nested 250 flags text cursor.rest cursor.flags :=
        Reader.readBranches_nests _ _ _ branches cursor run
      rw [ends] at nested
      exact {
        consumed := ⟨branches, cursor, run, ends, place, equal⟩
        groups_eq := numbered.groups_eq
        names_length := by simp [names, groupCount]
        names_head := rfl
        groupNumber?_eq_some_iff := numbered.groupNumber?_eq_some_iff
        bounded := fun body least most mode member => numbered.legal _ member
        several := fun members member =>
          member.elim (numbered.legal _) (numbered.legal _)
        nested := ⟨_, nested⟩ }

end ParsedPattern

end Backtracking
