import Backtracking.Proofs.PlainReading

/-!
# Numbers of groups

The groups of a pattern are numbered in the order of their opening parentheses, from one up to the
number of groups.  So no two groups have the same number.  All parts that are read are legal.
-/

namespace Backtracking

namespace Reader

open Reading Pattern

def NamesDistinct (names : Array (Option String)) : Prop :=
  ∀ (first second : Nat) (name : String), names[first]? = some (some name) →
    names[second]? = some (some name) → first = second

theorem NamesDistinct.push_none {names : Array (Option String)} (distinct : NamesDistinct names) :
    NamesDistinct (names.push none) := by
  intro first second name found foundToo
  simp only [Array.getElem?_push] at found foundToo
  split at found
  · cases found
  split at foundToo
  · cases foundToo
  exact distinct first second name found foundToo

theorem NamesDistinct.push_some {names : Array (Option String)} (distinct : NamesDistinct names)
    {name : String} (fresh : some name ∉ names) : NamesDistinct (names.push (some name)) := by
  have elsewhere {index : Nat} : names[index]? ≠ some (some name) := fun found =>
    fresh (Array.mem_of_getElem? found)
  intro first second other found foundToo
  simp only [Array.getElem?_push] at found foundToo
  split at found <;> split at foundToo
  · omega
  · cases found
    exact absurd foundToo elsewhere
  · cases foundToo
    exact absurd found elsewhere
  · exact distinct first second other found foundToo

/-- The patterns read between two places contain the groups opened between these places, numbered in
order, and all parts of them are legal.  The groups that are opened get names of their own. -/
structure Numbers (before after : Cursor) (patterns : List Pattern) : Prop where
  count_le : before.groupCount ≤ after.groupCount
  groups_eq : groupsOfAll patterns =
    List.range' (before.groupCount + 1) (after.groupCount - before.groupCount)
  legal : ∀ part ∈ partsOfAll patterns, part.Legal
  distinct : NamesDistinct before.groupNames → NamesDistinct after.groupNames

theorem partsOfAll_append (first second : List Pattern) :
    partsOfAll (first ++ second) = partsOfAll first ++ partsOfAll second := by
  simp [partsOfAll_eq_flatMap]

theorem groupsOfAll_append (first second : List Pattern) :
    groupsOfAll (first ++ second) = groupsOfAll first ++ groupsOfAll second := by
  simp [groupsOfAll, partsOfAll_append]

namespace Numbers

variable {before middle after : Cursor} {first second patterns : List Pattern} {pattern : Pattern}

theorem nil (same : after.groupNames = before.groupNames) : Numbers before after [] := by
  have count : after.groupCount = before.groupCount := congrArg Array.size same
  exact ⟨Nat.le_of_eq count.symm, by simp [count], by simp [partsOfAll], by rw [same]; exact id⟩

theorem append (begins : Numbers before middle first) (follows : Numbers middle after second) :
    Numbers before after (first ++ second) := by
  refine ⟨Nat.le_trans begins.count_le follows.count_le, ?_, ?_, follows.distinct ∘ begins.distinct⟩
  · have firstLe := begins.count_le
    have secondLe := follows.count_le
    rw [groupsOfAll_append, begins.groups_eq, follows.groups_eq,
      show middle.groupCount + 1 =
        before.groupCount + 1 + (middle.groupCount - before.groupCount) by omega,
      List.range'_append_1]
    congr 1
    omega
  · rw [partsOfAll_append]
    intro part member
    rcases List.mem_append.mp member with earlier | later
    · exact begins.legal part earlier
    · exact follows.legal part later

theorem plain (known : pattern.Plain) (same : after.groupNames = before.groupNames) :
    Numbers before after [pattern] := by
  have count : after.groupCount = before.groupCount := congrArg Array.size same
  refine ⟨Nat.le_of_eq count.symm, by simp [count, known.groups_eq], ?_, by rw [same]; exact id⟩
  simpa [partsOfAll, Throughout] using known.legal

theorem moved (numbers : Numbers before middle patterns)
    (same : after.groupNames = middle.groupNames) : Numbers before after patterns := by
  simpa using numbers.append (nil same)

theorem moving (same : middle.groupNames = before.groupNames)
    (numbers : Numbers middle after patterns) : Numbers before after patterns :=
  (nil same).append numbers

theorem around (numbers : Numbers before after patterns)
    (groups : pattern.groups = groupsOfAll patterns)
    (parts : ∀ part ∈ pattern.parts, part ∈ partsOfAll patterns ∨ part.Legal) :
    Numbers before after [pattern] := by
  refine ⟨numbers.count_le, ?_, ?_, numbers.distinct⟩
  · rw [groupsOfAll_cons, groupsOfAll_nil, List.append_nil, groups, numbers.groups_eq]
  · intro part member
    simp only [partsOfAll, List.append_nil] at member
    rcases parts part member with inside | legal
    · exact numbers.legal part inside
    · exact legal

theorem sequence (numbers : Numbers before after patterns) :
    Numbers before after [Pattern.sequence patterns] := by
  match patterns with
  | [] => exact numbers.around rfl (by simp [Pattern.sequence, parts, Legal])
  | [pattern] => exact numbers
  | first :: second :: rest =>
      refine numbers.around rfl fun part member => ?_
      rcases List.mem_cons.mp member with rfl | inside
      · exact .inr (by simp [Legal])
      · exact .inl inside

theorem choice (numbers : Numbers before after patterns) (nonempty : patterns ≠ []) :
    Numbers before after [Pattern.choice patterns] := by
  match patterns with
  | [] => exact absurd rfl nonempty
  | [pattern] => exact numbers
  | first :: second :: rest =>
      refine numbers.around rfl fun part member => ?_
      rcases List.mem_cons.mp member with rfl | inside
      · exact .inr (by simp [Legal])
      · exact .inl inside

end Numbers

/-- If a reading succeeds, its patterns contain the groups that it opens. -/
def Counts {α : Type} (reading : Reading α) (patterns : α → List Pattern) : Prop :=
  ∀ cursor, Ensures reading cursor fun value after => Numbers cursor after (patterns value)

section Counts

variable {α β : Type} {patterns : α → List Pattern}

theorem Counts.after {reading : Reading β} {next : β → Reading α} (begins : OpensNone reading)
    (follows : ∀ value, Counts (next value) patterns) : Counts (reading >>= next) patterns := by
  intro cursor
  refine Ensures.bind (begins cursor) ?_
  rintro value middle ⟨same, -⟩
  exact (follows value middle).weaken fun _ _ numbers => numbers.moving same

theorem Counts.before {reading : Reading α} {next : α → Reading β} {results : β → List Pattern}
    (counts : Counts reading patterns)
    (follows : ∀ value before middle, Numbers before middle (patterns value) →
      Ensures (next value) middle fun result after => Numbers before after (results result)) :
    Counts (reading >>= next) results := by
  intro cursor
  refine Ensures.bind (counts cursor) ?_
  intro value middle numbers
  exact follows value cursor middle numbers

theorem Numbers.andThen {reading : Reading β} {next : β → Reading α} {earlier : List Pattern}
    {before middle : Cursor} {condition : α → Cursor → Prop}
    (numbers : Numbers before middle earlier)
    (continues : OpensNone reading)
    (follows : ∀ value after, Numbers before after earlier → Ensures (next value) after condition) :
    Ensures (reading >>= next) middle condition := by
  refine (continues middle).bind ?_
  rintro value after ⟨same, -⟩
  exact follows value after (numbers.moved same)

theorem Counts.thrown (error : CompileError) : Counts (throw error : Reading α) patterns :=
  fun _ => .thrown error

theorem Counts.simple {reading : Reading Pattern} (keeps : Keeps reading Simple) :
    Counts reading fun pattern => [pattern] :=
  fun cursor => (keeps cursor).weaken fun _ _ known => .plain known.2.plain known.1

end Counts

/-! ## Groups -/

/-- The next number is taken, and no name for a second time. -/
structure OpensNext (before after : Cursor) : Prop where
  count_eq : after.groupCount = before.groupCount + 1
  distinct : NamesDistinct before.groupNames → NamesDistinct after.groupNames

theorem openGroup_ensures (name : Option String) (nameOffset : Nat) (cursor : Cursor) :
    Ensures (openGroup name nameOffset) cursor fun index after =>
      index = cursor.groupCount + 1 ∧ OpensNext cursor after := by
  have opens {names : Array (Option String)}
      (next : OpensNext cursor { cursor with groupNames := names }) :
      Ensures (do
          set { cursor with groupNames := names }
          return cursor.groupCount + 1 : Reading Nat) cursor fun index after =>
        index = cursor.groupCount + 1 ∧ OpensNext cursor after := by
    have written : Ensures (set { cursor with groupNames := names } : Reading Unit) cursor
        fun _ after => OpensNext cursor after := .replaced next
    exact written.bind fun _ _ next => .pure ⟨rfl, next⟩
  have begins : Ensures (get : Reading Cursor) cursor fun read after =>
      read = cursor ∧ after = cursor := .got ⟨rfl, rfl⟩
  refine begins.bind ?_
  rintro _ _ ⟨rfl, rfl⟩
  cases name with
  | none => exact opens ⟨Array.size_push _, fun distinct => distinct.push_none⟩
  | some name =>
      refine .guarded fun fresh => opens ⟨Array.size_push _, fun distinct => ?_⟩
      exact distinct.push_some (by simpa using fresh)

theorem Numbers.group {before middle after : Cursor} {body : Pattern}
    (opened : OpensNext before middle) (numbers : Numbers middle after [body]) :
    Numbers before after [.group (before.groupCount + 1) body] := by
  have further := numbers.count_le
  have groups := numbers.groups_eq
  have next := opened.count_eq
  rw [groupsOfAll_cons, groupsOfAll_nil, List.append_nil] at groups
  refine ⟨by omega, ?_, ?_, numbers.distinct ∘ opened.distinct⟩
  · rw [groupsOfAll_cons, groupsOfAll_nil, List.append_nil, groups_group, groups, next,
      show after.groupCount - before.groupCount = after.groupCount - (before.groupCount + 1) + 1 by
        omega, List.range'_succ]
  · intro part member
    rcases List.mem_cons.mp member with rfl | inside
    · exact trivial
    · exact numbers.legal part inside

theorem setFlags_opensNone (flags : Flags) :
    OpensNone (modify ({ · with flags := flags }) : Reading Unit) :=
  fun _ => .modified ⟨rfl, trivial⟩

theorem Counts.some {reading : Reading Pattern}
    (counts : Counts reading fun pattern => [pattern]) :
    Counts (do return Option.some (← reading)) Option.toList :=
  counts.before fun _ _ _ numbers => .pure numbers

def Inner.Counts (inner : Inner) : Prop :=
  ∀ reading, inner.branches? = some reading →
    Reader.Counts reading fun branches => [Pattern.choice branches]

section Inner

variable {inner : Inner} (nested : inner.Counts)
include nested

theorem readEnclosed_counts (start : Nat) :
    Counts (readEnclosed inner start) fun branches => [Pattern.choice branches] := by
  unfold readEnclosed
  split
  · exact .thrown _
  · next reading known =>
      refine .after get_opensNone fun cursor => ?_
      refine (nested reading known).before fun branches before middle numbers => ?_
      refine numbers.andThen (setFlags_opensNone cursor.flags) fun _ after numbers => ?_
      exact numbers.andThen (expect_opensNone _ _) fun _ after numbers => .pure numbers

theorem readBody_counts (start : Nat) :
    Counts (readBody inner start) fun pattern => [pattern] :=
  (readEnclosed_counts nested start).before fun _ _ _ numbers => .pure numbers

theorem readGroupBody_counts {α : Type} (finish : Pattern → α) {patterns : α → List Pattern}
    (finished : ∀ pattern, patterns (finish pattern) = [pattern]) (name : Option String)
    (nameOffset start : Nat) :
    Counts (do
        let index ← openGroup name nameOffset
        return finish (.group index (← readBody inner start))) patterns := by
  intro cursor
  refine (openGroup_ensures name nameOffset cursor).bind ?_
  rintro _ middle ⟨rfl, opened⟩
  refine (readBody_counts nested start middle).bind ?_
  intro body after numbers
  refine .pure ?_
  rw [finished]
  exact numbers.group opened

theorem readNamedGroup_counts (terminator : Char) (start : Nat) :
    Counts (readNamedGroup inner terminator start) fun pattern => [pattern] :=
  .after get_opensNone fun _ => .after (readGroupName_opensNone _) fun name =>
    readGroupBody_counts nested id (fun _ => rfl) (some name) _ start

theorem readLookAround_counts (direction : Direction) (negated : Bool) (start : Nat) :
    Counts (readLookAround inner direction negated start) fun pattern => [pattern] := by
  refine (readBody_counts nested start).before fun body before middle numbers => .pure ?_
  refine numbers.around (by simp) fun part member => ?_
  rcases List.mem_cons.mp member with rfl | inside
  · exact .inr trivial
  · exact .inl (by simpa [partsOfAll] using inside)

theorem readAtomic_counts (start : Nat) :
    Counts (do return some (.atomic (← readBody inner start))) Option.toList := by
  refine (readBody_counts nested start).before fun body before middle numbers => .pure ?_
  refine numbers.around (by simp) fun part member => ?_
  rcases List.mem_cons.mp member with rfl | inside
  · exact .inr trivial
  · exact .inl (by simpa [partsOfAll] using inside)

theorem readOptions_counts (start : Nat) :
    Counts (readOptions inner start) Option.toList := by
  refine .after get_opensNone fun cursor => ?_
  split
  · refine .after (skip_opensNone _) fun _ => .after (setFlags_opensNone _) fun _ => ?_
    exact fun _ => .pure (.nil rfl)
  · refine .after (skip_opensNone _) fun _ => .after (setFlags_opensNone _) fun _ => ?_
    refine (readBody_counts nested start).before fun body before middle numbers => ?_
    exact numbers.andThen (setFlags_opensNone _) fun _ after numbers => .pure numbers
  · exact .thrown _
  · exact .thrown _

theorem readConditional_counts (start : Nat) :
    Counts (readConditional inner start) fun pattern => [pattern] := by
  refine .after get_opensNone fun cursor before => ?_
  refine (readCondition_keeps before).bind ?_
  rintro target asked ⟨same, legal⟩
  refine (readEnclosed_counts nested start asked).bind fun branches after numbers => ?_
  replace numbers := numbers.moving same
  split
  · next yes =>
      have parts : (Pattern.choice [yes]).parts = yes.parts := rfl
      refine .pure (numbers.around (by simp [Pattern.choice]) fun part member => ?_)
      simp only [Pattern.parts, List.mem_cons, List.mem_append, List.not_mem_nil, or_false]
        at member
      rcases member with rfl | inside | rfl
      · exact .inr legal
      · exact .inl (by simpa [partsOfAll, parts] using inside)
      · exact .inr trivial
  · next yes no =>
      have groups : (Pattern.choice [yes, no]).groups = groupsOfAll [yes, no] := rfl
      have parts : (Pattern.choice [yes, no]).parts =
          .alternation [yes, no] :: partsOfAll [yes, no] := rfl
      refine .pure (numbers.around (by simp [groups]) fun part member => ?_)
      simp only [Pattern.parts, List.mem_cons, List.mem_append] at member
      rcases member with rfl | inside
      · exact .inr legal
      · exact .inl (by simp [partsOfAll, parts, inside])
  · exact .thrown _

theorem readGroup_counts (start : Nat) : Counts (readGroup inner start) Option.toList := by
  refine .after (accept_opensNone _) fun extended => ?_
  split
  · exact readGroupBody_counts nested some (fun _ => rfl) none start start
  refine .after get_opensNone fun cursor => .after get_opensNone fun cursor => ?_
  split
  · refine .after (discard_opensNone (takeWhile_opensNone _)) fun _ => ?_
    exact .after (expect_opensNone _ _) fun _ _ => .pure (.nil rfl)
  · exact .after (skip_opensNone _) fun _ => (readBody_counts nested start).some
  · exact .after (skip_opensNone _) fun _ => readAtomic_counts nested start
  · exact .after (skip_opensNone _) fun _ => (readLookAround_counts nested _ _ start).some
  · exact .after (skip_opensNone _) fun _ => (readLookAround_counts nested _ _ start).some
  · exact .after (skip_opensNone _) fun _ => (readLookAround_counts nested _ _ start).some
  · exact .after (skip_opensNone _) fun _ => (readLookAround_counts nested _ _ start).some
  · exact .after (skip_opensNone _) fun _ => (readNamedGroup_counts nested _ start).some
  · exact .after (skip_opensNone _) fun _ => (readNamedGroup_counts nested _ start).some
  · exact .after (skip_opensNone _) fun _ => (readNamedGroup_counts nested _ start).some
  · refine .after (skip_opensNone _) fun _ => .after (readGroupName_opensNone _) fun name => ?_
    exact (Counts.simple (backReference_keeps (by simp) start)).some
  · exact .after (skip_opensNone _) fun _ => (readConditional_counts nested start).some
  · split
    · exact readOptions_counts nested start
    · exact .thrown _
  · exact .thrown _

/-! ## Atoms, sequences and branches -/

theorem readAtom_counts (first : Char) : Counts (readAtom inner first) Option.toList := by
  refine .after get_opensNone fun cursor => .after get_opensNone fun cursor => ?_
  refine .after (skip_opensNone _) fun _ => ?_
  split
  · exact readGroup_counts nested _
  · refine .after (Bracket.read_opensNone _) fun members => fun _ => .pure ?_
    exact .plain (Simple.char _).plain rfl
  · intro cursor
    refine (readEscape_keeps _ cursor).weaken fun atom? after known => ?_
    cases atom? with
    | none => exact .nil known.1
    | some atom => exact .plain (known.2 atom rfl).plain known.1
  · exact fun _ => .pure (.plain (Simple.char _).plain rfl)
  · exact fun _ => .pure (.plain (Simple.assert _).plain rfl)
  · exact fun _ => .pure (.plain (Simple.assert _).plain rfl)
  · exact (Counts.simple (literal_keeps _)).some

omit nested in
theorem readQuantifier_ensures {atom : Pattern} {inParentheses : Bool} {before middle : Cursor}
    (numbers : Numbers before middle [atom]) :
    Ensures (readQuantifier atom inParentheses) middle fun pattern after =>
      Numbers before after [pattern] := by
  refine numbers.andThen skipTrivia_opensNone fun _ middle numbers => ?_
  refine numbers.andThen get_opensNone fun cursor middle numbers => ?_
  refine (readBounds?_keeps middle).bind ?_
  rintro bounds? after ⟨same, ordered⟩
  replace numbers := numbers.moved same
  split
  · exact .pure numbers
  · next least most =>
      have repeats : Ensures (do return .repeated atom least most (← readMode) : Reading Pattern)
          after fun pattern after => Numbers before after [pattern] := by
        refine numbers.andThen readMode_opensNone fun mode after numbers => .pure ?_
        refine numbers.around (by simp) fun part member => ?_
        rcases List.mem_cons.mp member with rfl | inside
        · exact .inr (ordered (least, most) rfl)
        · exact .inl (by simpa [partsOfAll] using inside)
      split
      · exact .thrown _
      · exact repeats

omit nested in
theorem readLiterals_counts (characters : List Char) :
    Counts (characters.mapM literal) id := by
  induction characters with
  | nil => exact fun _ => .pure (.nil rfl)
  | cons character characters ih =>
      rw [List.mapM_cons]
      refine (Counts.simple (literal_keeps character)).before fun first before middle numbers => ?_
      refine (ih middle).bind fun rest after follows => .pure ?_
      exact numbers.append follows

omit nested in
theorem readQuoted_counts : Counts readQuoted id := by
  refine .after (skip_opensNone _) fun _ => .after get_opensNone fun cursor => ?_
  dsimp only
  refine .after (skip_opensNone _) fun _ => ?_
  split
  · exact fun _ => .pure (.nil rfl)
  · refine (readLiterals_counts _).before fun literals before middle numbers => ?_
    refine (literal_keeps _ middle).bind ?_
    rintro atom after ⟨same, simple⟩
    refine (readQuantifier_ensures (.plain simple.plain same)).bind fun repeated after follows => ?_
    exact .pure (numbers.append follows)

theorem readPiece_counts (first : Char) : Counts (readPiece inner first) id := by
  refine .after get_opensNone fun cursor => ?_
  split
  · exact readQuoted_counts
  · refine (readAtom_counts nested first).before fun atom? before middle numbers => ?_
    split
    · exact .pure numbers
    · exact (readQuantifier_ensures numbers).bind fun pattern after numbers => .pure numbers

theorem readItems_ensures {fuel : Nat} {items : List Pattern} {before middle : Cursor}
    (numbers : Numbers before middle items.reverse) :
    Ensures (readItems inner fuel items) middle fun items after =>
      Numbers before after items.reverse := by
  induction fuel generalizing items middle with
  | zero => exact .pure numbers
  | succ fuel ih =>
      refine numbers.andThen skipTrivia_opensNone fun _ middle numbers => ?_
      refine numbers.andThen get_opensNone fun cursor middle numbers => ?_
      split
      · exact .pure numbers
      split
      · exact .pure numbers
      split
      · exact .thrown _
      refine (readPiece_counts nested _ middle).bind fun piece after follows => ih ?_
      rw [List.reverse_append, List.reverse_reverse]
      exact numbers.append follows

theorem readSequence_counts : Counts (readSequence inner) fun pattern => [pattern] := by
  refine .after get_opensNone fun cursor => ?_
  intro middle
  refine (readItems_ensures nested (.nil rfl)).bind fun items after numbers => ?_
  exact .pure numbers.sequence

theorem readMoreBranches_ensures {fuel : Nat} {branches : List Pattern} {before middle : Cursor}
    (numbers : Numbers before middle branches.reverse) (nonempty : branches ≠ []) :
    Ensures (readMoreBranches inner fuel branches) middle fun branches after =>
      Numbers before after branches.reverse ∧ branches ≠ [] := by
  induction fuel generalizing branches middle with
  | zero => exact .pure ⟨numbers, nonempty⟩
  | succ fuel ih =>
      refine numbers.andThen (accept_opensNone _) fun more middle numbers => ?_
      split
      · refine (readSequence_counts nested middle).bind fun branch after follows => ih ?_ (by simp)
        rw [List.reverse_cons]
        exact numbers.append follows
      · exact .pure ⟨numbers, nonempty⟩

theorem readBranchesWith_counts :
    Counts (readBranchesWith inner) fun branches => [Pattern.choice branches] := by
  refine (readSequence_counts nested).before fun first before middle numbers => ?_
  refine numbers.andThen get_opensNone fun cursor middle numbers => ?_
  refine (readMoreBranches_ensures nested numbers (by simp)).bind ?_
  rintro branches after ⟨numbers, nonempty⟩
  exact .pure (numbers.choice (by simpa using nonempty))

end Inner

theorem readBranches_counts (limit depth : Nat) :
    Counts (readBranches limit depth) fun branches => [Pattern.choice branches] := by
  induction depth with
  | zero => exact readBranchesWith_counts fun _ impossible => by cases impossible
  | succ depth ih =>
      refine readBranchesWith_counts fun reading known => ?_
      cases known
      exact ih

end Reader

/-- The groups of a parsed pattern are numbered from one, in the order of their opening parentheses,
no two of them have the same name, and all its parts are legal. -/
structure ParsedPattern.Numbered (parsed : ParsedPattern) : Prop where
  groups_eq : parsed.pattern.groups = List.range' 1 parsed.groupCount
  legal : parsed.pattern.Throughout Pattern.Legal
  distinct : Reader.NamesDistinct parsed.groupNames

theorem ParsedPattern.Numbered.ordered {parsed : ParsedPattern} (numbered : parsed.Numbered) :
    parsed.pattern.Throughout Pattern.Ordered :=
  fun part member => (numbered.legal part member).ordered

theorem ParsedPattern.parseWithin_numbered {limit : Nat} {text : List Char} {flags : Flags}
    {parsed : ParsedPattern} (read : parseWithin limit text flags = .ok parsed) :
    parsed.Numbered := by
  simp only [parseWithin] at read
  cases run : (Reader.readBranches limit limit).run { rest := text, flags := flags } with
  | error error =>
      rw [run] at read
      cases read
  | ok result =>
      obtain ⟨branches, cursor⟩ := result
      have numbers := Reader.readBranches_counts limit limit _ branches cursor run
      have groups := numbers.groups_eq
      rw [Pattern.groupsOfAll_cons, Pattern.groupsOfAll_nil, List.append_nil] at groups
      have legal := numbers.legal
      simp only [Pattern.partsOfAll, List.append_nil] at legal
      rw [run] at read
      change (if cursor.rest.isEmpty then Except.ok _ else Except.error _) = _ at read
      split at read
      · cases read
        exact ⟨groups, legal, numbers.distinct (by simp [Reader.NamesDistinct])⟩
      · cases read

theorem ParsedPattern.parse_numbered {text : List Char} {flags : Flags} {parsed : ParsedPattern}
    (read : parse text flags = .ok parsed) : parsed.Numbered :=
  parseWithin_numbered read

end Backtracking
