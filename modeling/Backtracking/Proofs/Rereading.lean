import Backtracking.Proofs.SpeltParts

/-!
# Reading what is spelt

Items, sequences and branches are read as they are spelt, and so are patterns.  The induction is on
the depth to which parentheses are nested; at each level the items of a sequence and the branches
are gone through.
-/

namespace Backtracking

open Reading Pattern Spelling

namespace Reader

/-- The items of a sequence end in front of a bar, a closing parenthesis, or nothing. -/
theorem readItems_ends {flags : Flags} {names : Array (Option String)} {inner : Inner}
    {gap tail : List Char} (ignored : Gap flags.extended gap) (ends : Ends tail) (fuel : Nat)
    (before : List Pattern) :
    Reads flags (readItems inner (fuel + 1) before) (gap ++ tail) tail names names
      (· = before) := by
  apply (skipTrivia_reads ignored ends.settled.triviaLength_eq).bind
  rintro _ -
  apply Reads.get
  intro position
  cases tail with
  | nil => exact .pure rfl
  | cons first rest =>
      have stops : (decide (first = '|') || decide (first = ')')) = true := by
        simpa using ends first rfl
      simp only [stops, if_true]
      exact .pure rfl

section Branches

variable {extended : Bool} {inner : Inner} {Enclosed : List Pattern → List Char → Prop}
  (reads : ReadsEnclosed extended inner Enclosed) {branches : List Pattern} {pattern : Pattern}
  {text tail : List Char}

/-! ## Atoms and items -/

include reads

theorem readAtom_opens {first : Char} {rest : List Char}
    (spells : Atom Enclosed pattern (first :: rest)) :
    Opens extended (readAtom inner first) pattern.groups (first :: rest ++ tail) tail
      fun read => read.map withoutOffsets = some pattern.withoutOffsets := by
  have exactly {reading : Reading (Option Pattern)} {text : List Char} {atom : Pattern}
      (opens : Opens extended reading [] text tail (· = some atom)) :
      Opens extended reading [] text tail
        fun read => read.map withoutOffsets = some atom.withoutOffsets :=
    opens.weaken (by simp +contextual)
  have drops : (first :: rest ++ tail).drop 1 = rest ++ tail := rfl
  apply Opens.get
  rintro ⟨_, start, _, names⟩ rfl rfl
  apply Opens.get
  rintro ⟨_, position, _, names⟩ rfl rfl
  apply Opens.after (.skip drops)
  rintro _ -
  cases spells with
  | ordinary ordinary =>
      dsimp only
      split
      case h_7 =>
        apply Opens.after (.none fun _ => literal_reads first)
        rintro _ rfl
        exact .pure rfl
      all_goals cases ordinary
  | escaped special => exact exactly (.none fun _ => readEscape_special special start)
  | dot => exact .pure rfl
  | @assertion condition _ spelt =>
      cases condition with
      | startOfInput | endOfInputOrNewline =>
          cases spelt
          exact .pure rfl
      | searchOrigin | endOfInput | previousMatchEnd =>
          cases spelt
          exact exactly (readEscape_assertion rfl start)
      | startOfLine | endOfLine => cases spelt
      | wordBoundary unicode | notWordBoundary unicode =>
          cases unicode <;> cases spelt
          exact exactly (readEscape_assertion rfl start)
  | group index encloses =>
      simp only [List.append_assoc]
      exact readGroup_capture reads encloses index start
  | enclosed opens encloses =>
      simp only [List.cons_append, List.append_assoc]
      exact readGroup_opening reads encloses opens start
  | @backReference number referable offset =>
      have none : (Pattern.backReference (.number number) false offset).groups = [] := rfl
      simp only [none, List.cons_append, List.append_assoc]
      exact readEscape_reference referable start offset
  | oneBranch referable offset encloses =>
      simp only [List.cons_append, List.append_assoc]
      exact readGroup_conditional reads encloses referable (.inl ⟨rfl, rfl⟩) start offset
  | twoBranches referable offset encloses =>
      simp only [List.cons_append, List.append_assoc]
      exact readGroup_conditional reads encloses referable (.inr rfl) start offset

theorem readPiece_atom {atom : Pattern} {first : Char} {rest more left : List Char}
    (spells : Atom Enclosed atom (first :: rest))
    (quantified : ∀ read, read.withoutOffsets = atom.withoutOffsets →
      Opens extended (readQuantifier read (first = '(')) [] more left
        fun result => result.withoutOffsets = pattern.withoutOffsets) :
    Opens extended (readPiece inner first) atom.groups (first :: rest ++ more) left
      fun read => read.map withoutOffsets = [pattern.withoutOffsets] := by
  have notQuoted : ∀ quoted, first :: rest ++ more ≠ '\\' :: 'Q' :: quoted := by
    obtain ⟨_, _, ⟨⟩, -, unquoted⟩ := spells.begins
    exact unquoted more
  apply Opens.get
  rintro ⟨text, position, _, names⟩ rfl rfl
  dsimp only
  split
  · next equal => exact absurd equal (notQuoted _)
  · apply (readAtom_opens reads spells).before
    intro read? agrees
    obtain ⟨read, rfl, same⟩ := Option.map_eq_some_iff.mp agrees
    apply (quantified read same).after
    intro result agrees
    exact .pure (congrArg ([·]) agrees)

theorem readPiece_opens {gap : List Char} (spells : Item extended Enclosed pattern text)
    (ignored : Gap extended gap) (settled : Settled tail) :
    ∃ first rest left, text = first :: rest ∧ startsItem first = true ∧ Gap extended left ∧
      Opens extended (readPiece inner first) pattern.groups (text ++ (gap ++ tail)) (left ++ tail)
        fun read => read.map withoutOffsets = [pattern.withoutOffsets] := by
  cases spells with
  | atom spells =>
      obtain ⟨first, rest, rfl, starts, -⟩ := spells.begins
      refine ⟨first, rest, [], rfl, starts, .inl rfl, readPiece_atom reads spells ?_⟩
      intro read same
      apply (Opens.none fun _ => readQuantifier_none read _ ignored settled).weaken
      rintro _ rfl
      exact same
  | @repeated body text inside bounds least most spells repeatable between legal numbers mode =>
      obtain ⟨first, rest, rfl, starts, -⟩ := spells.begins
      refine ⟨first, _, gap, rfl, starts, ignored, ?_⟩
      simp only [List.append_assoc, groups_repeated]
      apply readPiece_atom reads spells
      intro read same
      have inParentheses (assertion : Assertion) (equal : read = .assert assertion) :
          decide (first = '(') = true := by
        subst equal
        have asserts : body = .assert assertion := by
          cases body <;> simp_all [withoutOffsets]
        simpa using repeatable assertion asserts
      rw [← List.append_assoc bounds]
      apply (readQuantifier_repeated mode inParentheses between numbers legal
        (ignored.head_ne settled)).weaken
      rintro _ rfl
      rw [withoutOffsets, withoutOffsets, same]

theorem readItems_opens {items : List Pattern} (spells : Items extended Enclosed items text)
    {gap : List Char} (ignored : Gap extended gap) (ends : Ends tail) {fuel : Nat}
    (enough : items.length < fuel) (before : List Pattern) :
    Opens extended (readItems inner fuel before) (groupsOfAll items) (gap ++ (text ++ tail)) tail
      fun read => read.reverse.map withoutOffsets =
        before.reverse.map withoutOffsets ++ items.map withoutOffsets := by
  induction spells generalizing gap fuel before with
  | nil =>
      obtain _ | fuel := fuel
      · simp at enough
      apply (Opens.none fun _ => readItems_ends ignored ends fuel before).weaken
      rintro _ rfl
      simp
  | @cons item items text behind rest spells ignoredBehind follows ih =>
      obtain _ | fuel := fuel
      · simp at enough
      have settled := follows.settled ends
      obtain ⟨first, more, left, rfl, starts, ignoredLeft, piece⟩ :=
        readPiece_opens reads spells ignoredBehind settled
      have begins : Settled (first :: more ++ behind ++ rest ++ tail) := settled_cons starts _
      have goesOn := not_ends_of_startsItem starts
      apply Opens.after (.none fun _ => skipTrivia_reads ignored begins.triviaLength_eq)
      rintro _ -
      apply Opens.get
      rintro ⟨_, position, _, names⟩ rfl rfl
      have noQuantifier := begins.startsWithQuantifier_eq
      simp only [List.cons_append, List.append_assoc, goesOn, groupsOfAll_cons]
        at noQuantifier piece ⊢
      rw [noQuantifier]
      apply piece.bind
      intro read agrees
      have rest := ih ignoredLeft (Nat.lt_of_succ_lt_succ enough) (read.reverse ++ before)
      simpa [agrees] using rest

/-! ## Sequences and branches -/

theorem readSequence_opens (spells : Sequence extended Enclosed pattern text) (ends : Ends tail) :
    Opens extended (readSequence inner) pattern.groups (text ++ tail) tail
      fun read => read.withoutOffsets = pattern.withoutOffsets := by
  obtain ⟨ignored, spells⟩ := spells
  apply Opens.get
  rintro ⟨_, position, _, names⟩ rfl rfl
  have enough := spells.length_le
  rw [groups_sequence, List.append_assoc]
  apply (readItems_opens reads spells ignored ends (by simp; omega) []).before
  intro read agrees
  apply Opens.pure
  simp only [List.reverse_nil, List.map_nil, List.nil_append] at agrees
  rw [withoutOffsets_sequence, withoutOffsets_sequence, agrees]

omit reads in
theorem readMoreBranches_stops {flags : Flags} {names : Array (Option String)}
    (closes : tail.head? ≠ some '|') (fuel : Nat) (before : List Pattern) :
    Reads flags (readMoreBranches inner fuel before) tail tail names names (· = before) := by
  cases fuel with
  | zero => exact .pure rfl
  | succ fuel =>
      apply (Reads.refused closes).bind
      rintro _ rfl
      exact .pure rfl

theorem readMoreBranches_opens (spells : Branches extended Enclosed branches text)
    (closes : ∀ character ∈ tail.head?, character = ')') {fuel : Nat}
    (enough : text.length < fuel) (before : List Pattern) :
    Opens extended (readMoreBranches inner fuel before) (groupsOfAll branches)
      ('|' :: (text ++ tail)) tail fun read => read.reverse.map withoutOffsets =
        before.reverse.map withoutOffsets ++ branches.map withoutOffsets := by
  have ends : Ends tail := fun character first => .inr (closes character first)
  have noBar : tail.head? ≠ some '|' := fun first => by cases closes _ first
  induction spells generalizing fuel before with
  | one spells =>
      obtain _ | fuel := fuel
      · simp at enough
      apply Opens.after (.none fun _ => .accepted)
      rintro _ rfl
      rw [groupsOfAll_cons]
      apply (readSequence_opens reads spells ends).bind
      intro read agrees
      apply (Opens.none fun _ => readMoreBranches_stops noBar fuel _).weaken
      rintro _ rfl
      simp [agrees]
  | @more branch branches text rest spells follows ih =>
      obtain _ | fuel := fuel
      · simp at enough
      apply Opens.after (.none fun _ => .accepted)
      rintro _ rfl
      rw [groupsOfAll_cons, List.append_assoc]
      apply (readSequence_opens reads spells (by simp [Ends])).bind
      intro read agrees
      have further : rest.length < fuel := by
        simp at enough
        omega
      have rest := ih further (read :: before)
      simpa [agrees] using rest

theorem readBranchesWith_opens (spells : Branches extended Enclosed branches text)
    (closes : ∀ character ∈ tail.head?, character = ')') :
    Opens extended (readBranchesWith inner) (groupsOfAll branches) (text ++ tail) tail
      fun read => read.map withoutOffsets = branches.map withoutOffsets := by
  have ends : Ends tail := fun character first => .inr (closes character first)
  have noBar : tail.head? ≠ some '|' := fun first => by cases closes _ first
  cases spells with
  | one spells =>
      rw [groupsOfAll_cons]
      apply (readSequence_opens reads spells ends).bind
      intro first agrees
      apply Opens.get
      rintro ⟨remaining, position, _, names⟩ rfl rfl
      apply Opens.after (.none fun _ => readMoreBranches_stops noBar _ _)
      rintro _ rfl
      exact .pure (by simp [agrees])
  | @more branch branches text rest spells follows =>
      rw [groupsOfAll_cons, List.append_assoc]
      apply (readSequence_opens reads spells (by simp [Ends])).bind
      intro first agrees
      apply Opens.get
      rintro ⟨_, position, _, names⟩ rfl rfl
      apply (readMoreBranches_opens reads follows closes (by simp; omega) [first]).before
      intro read later
      exact .pure (by simp [later, agrees])

end Branches

/-- Branches are read as they are spelt, if parentheses are not nested too deeply in them. -/
theorem readBranches_opens (extended : Bool) (limit depth : Nat) {branches : List Pattern}
    {text tail : List Char} (spells : Branches extended (Enclosed extended depth) branches text)
    (closes : ∀ character ∈ tail.head?, character = ')') :
    Opens extended (readBranches limit depth) (groupsOfAll branches) (text ++ tail) tail
      fun read => read.map withoutOffsets = branches.map withoutOffsets := by
  induction depth generalizing branches text tail with
  | zero =>
      have reads : ReadsEnclosed extended ⟨limit, none⟩ (Enclosed extended 0) :=
        ⟨False.elim, False.elim⟩
      exact readBranchesWith_opens reads spells closes
  | succ depth ih =>
      have reads : ReadsEnclosed extended ⟨limit, some (readBranches limit depth)⟩
          (Enclosed extended (depth + 1)) :=
        ⟨Branches.head_ne, fun encloses => ⟨_, rfl, fun _ => ih encloses (by simp)⟩⟩
      exact readBranchesWith_opens reads spells closes

end Reader

/-- A pattern is read as it is spelt, if parentheses are nested at most `depth` deep in it and its
groups are numbered in the order of their opening parentheses. -/
theorem ParsedPattern.parseWithin_spelling {extended : Bool} {depth : Nat} {pattern : Pattern}
    {text : List Char} (spells : pattern.SpeltWithin extended depth text)
    (numbered : Consecutive 0 pattern.groups) :
    ∃ parsed, parseWithin depth text (coreFlags extended) = .ok parsed ∧
      parsed.pattern.withoutOffsets = pattern.withoutOffsets ∧
      parsed.groupNames = Array.replicate pattern.groups.length none := by
  obtain ⟨branches, rfl, spells⟩ := spells
  rw [groups_choice] at numbered ⊢
  have closes : ∀ character ∈ ([] : List Char).head?, character = ')' := by simp
  obtain ⟨read, position, runs, agrees⟩ :=
    Reader.readBranches_opens extended depth depth spells closes #[] numbered 0
  refine ⟨⟨choice read, opened #[] (groupsOfAll branches)⟩, ?_, ?_, by simp [opened]⟩
  · rw [List.append_nil] at runs
    rw [parseWithin, runs]
    rfl
  · show (choice read).withoutOffsets = (choice branches).withoutOffsets
    rw [withoutOffsets_choice, withoutOffsets_choice, agrees]

/-- A text does not spell two patterns whose groups are numbered in order. -/
theorem Pattern.SpeltWithin.unique {extended : Bool} {depth : Nat} {first second : Pattern}
    {text : List Char} (firstSpells : first.SpeltWithin extended depth text)
    (secondSpells : second.SpeltWithin extended depth text)
    (firstNumbered : Consecutive 0 first.groups) (secondNumbered : Consecutive 0 second.groups) :
    first.withoutOffsets = second.withoutOffsets := by
  obtain ⟨parsed, runs, firstSame, -⟩ :=
    ParsedPattern.parseWithin_spelling firstSpells firstNumbered
  obtain ⟨again, runsAgain, secondSame, -⟩ :=
    ParsedPattern.parseWithin_spelling secondSpells secondNumbered
  obtain rfl := Except.ok.inj (runs.symm.trans runsAgain)
  exact firstSame.symm.trans secondSame

end Backtracking
