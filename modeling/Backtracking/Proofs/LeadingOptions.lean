import Backtracking.Proofs.MovedPatterns
import Backtracking.Proofs.MovedPrograms
import Backtracking.Regexp

/-!
# Options at the start of a pattern

Options between parentheses at the start of a pattern are the same as flags that it is compiled
with.  What follows them is read as if it stood at the beginning, under these flags.
-/

namespace Backtracking

/-- The flags with one option switched on or off. -/
def Flags.switch (on : Bool) (flags : Flags) (letter : Char) : Flags :=
  match letter with
  | 'i' => { flags with ignoreCase := on }
  | 'm' => { flags with multiline := on }
  | 's' => { flags with dotAll := on }
  | 'x' => { flags with extended := on }
  | 'U' => { flags with ungreedy := on }
  | _ => flags

def optionLetters : List Char := ['i', 'm', 's', 'x', 'U']

/-- What may stand between `(?` and `)` to set options: their letters, and at most one hyphen. -/
structure InlineOptions where
  text : List Char
  nonempty : text ≠ []
  letters : ∀ character ∈ text, character = '-' ∨ character ∈ optionLetters
  hyphens : text.count '-' ≤ 1

namespace InlineOptions

instance : Inhabited InlineOptions :=
  ⟨['i', '-', 's'], by simp, by simp [optionLetters], by decide⟩

/-- The options before a hyphen are switched on, and those behind it are switched off. -/
def apply (options : InlineOptions) (flags : Flags) : Flags :=
  let on := options.text.takeWhile (· != '-')
  let off := options.text.drop (on.length + 1)
  off.foldl (.switch false) (on.foldl (.switch true) flags)

def written (options : InlineOptions) : List Char := '(' :: '?' :: (options.text ++ [')'])

theorem written_append (options : InlineOptions) (rest : List Char) :
    options.written ++ rest = '(' :: '?' :: (options.text ++ ')' :: rest) := by
  simp [written]

theorem length_written (options : InlineOptions) :
    options.written.length = options.text.length + 3 := by
  simp [written]

end InlineOptions

namespace Reader

open Reading

theorem scanOptions_letters (on : Bool) (flags : Flags) (read : Nat) {letters : List Char}
    (known : ∀ letter ∈ letters, letter ∈ optionLetters) (rest : List Char) :
    scanOptions on flags read (letters ++ rest) =
      scanOptions on (letters.foldl (.switch on) flags) (read + letters.length) rest := by
  induction letters generalizing flags read with
  | nil => rfl
  | cons letter letters ih =>
      have step : scanOptions on flags read (letter :: letters ++ rest) =
          scanOptions on (flags.switch on letter) (read + 1) (letters ++ rest) := by
        have option := known letter (by simp)
        simp only [optionLetters, List.mem_cons, List.not_mem_nil, or_false] at option
        rcases option with rfl | rfl | rfl | rfl | rfl <;> rfl
      rw [step, ih _ _ fun other member => known other (by simp [member]), List.foldl_cons,
        List.length_cons, Nat.add_assoc, Nat.add_comm 1]

/-- What a test takes off the front of a text ends before a character that fails it. -/
theorem head_of_takeWhile_eq {test : Char → Bool} {front : List Char} {next : Char}
    {rest : List Char} (taken : (front ++ next :: rest).takeWhile test = front) :
    test next = false := by
  have known : ∀ character ∈ front, test character = true := by
    intro character member
    rw [← taken] at member
    exact Scan.of_mem_takeWhile member
  rw [List.takeWhile_append_of_pos known, List.append_right_eq_self] at taken
  cases passes : test next with
  | false => rfl
  | true => simp [passes] at taken

theorem scanOptions_inline (options : InlineOptions) (flags : Flags) (rest : List Char) :
    scanOptions true flags 0 (options.text ++ ')' :: rest) =
      .setting (options.apply flags) (options.text.length + 1) := by
  obtain ⟨text, -, letters, hyphens⟩ := options
  unfold InlineOptions.apply
  dsimp only
  have whole := Scan.takeWhile_append_drop (· != '-') text
  have before : ∀ letter ∈ text.takeWhile (· != '-'), letter ∈ optionLetters := by
    intro letter member
    have other : letter ≠ '-' := by simpa using Scan.of_mem_takeWhile member
    exact (letters letter ((List.takeWhile_prefix _).subset member)).resolve_left other
  generalize taken : text.takeWhile (· != '-') = on at whole before
  cases left : text.drop on.length with
  | nil =>
      rw [left, List.append_nil] at whole
      subst whole
      rw [scanOptions_letters true flags 0 before, List.drop_eq_nil_of_le (by simp), Nat.zero_add]
      rfl
  | cons hyphen off =>
      rw [left] at whole
      subst whole
      obtain rfl : hyphen = '-' := by simpa using head_of_takeWhile_eq taken
      have behind : ∀ letter ∈ off, letter ∈ optionLetters := by
        intro letter member
        have other : letter ≠ '-' := by
          rintro rfl
          have positive := List.count_pos_iff.mpr member
          simp only [List.count_append, List.count_cons_self] at hyphens
          omega
        exact (letters letter (by simp [member])).resolve_left other
      have turned (read : Nat) : scanOptions true (on.foldl (.switch true) flags) read
          ('-' :: (off ++ ')' :: rest)) =
            scanOptions false (on.foldl (.switch true) flags) (read + 1) (off ++ ')' :: rest) := rfl
      rw [List.append_assoc, List.cons_append, scanOptions_letters true flags 0 before, turned,
        scanOptions_letters false _ _ behind]
      simp [scanOptions, Nat.add_comm, Nat.add_left_comm]

example : scanOptions true { dotAll := true } 0 ['i', '-', 's', ')', 'a'] =
    .setting { ignoreCase := true } 4 := rfl

theorem readGroup_inline (inner : Inner) (options : InlineOptions) (rest : List Char)
    (flags : Flags) (start position : Nat) :
    (readGroup inner start).run
        { rest := '?' :: (options.text ++ rest), position := position, flags := flags } =
      (readOptions inner start).run
        { rest := options.text ++ rest, position := position + 1, flags := flags } := by
  obtain ⟨text, nonempty, letters, -⟩ := options
  obtain _ | ⟨letter, more⟩ := text
  · exact absurd rfl nonempty
  have known := letters letter (by simp)
  simp only [optionLetters, List.mem_cons, List.not_mem_nil, or_false] at known
  rcases known with rfl | rfl | rfl | rfl | rfl | rfl <;> rfl

theorem readOptions_inline (inner : Inner) (options : InlineOptions) (rest : List Char)
    (flags : Flags) (start position : Nat) :
    (readOptions inner start).run
        { rest := options.text ++ ')' :: rest, position := position, flags := flags } =
      .ok (none,
        { rest := rest, position := position + (options.text.length + 1),
          flags := options.apply flags }) := by
  have dropped : (options.text ++ ')' :: rest).drop (options.text.length + 1) = rest := by
    rw [← List.drop_drop, List.drop_left]
    rfl
  simp only [readOptions, StateT.run_bind, StateT.run_get, pure_bind, scanOptions_inline]
  show Except.ok _ = _
  simp only [Cursor.advance, dropped]

/-- Options at the start of a pattern stand for nothing, and put their flags in force. -/
theorem readPiece_inline (inner : Inner) (options : InlineOptions) (rest : List Char)
    (flags : Flags) :
    (readPiece inner '(').run { rest := options.written ++ rest, flags := flags } =
      .ok ([], Cursor.movedBy options.written.length
        { rest := rest, flags := options.apply flags }) := by
  have atom : (readAtom inner '(').run
      { rest := '(' :: '?' :: (options.text ++ ')' :: rest), flags := flags } =
        (readGroup inner 0).run
          { rest := '?' :: (options.text ++ ')' :: rest), position := 1, flags := flags } := rfl
  have reads : (readAtom inner '(').run { rest := options.written ++ rest, flags := flags } =
      .ok (none, Cursor.movedBy options.written.length
        { rest := rest, flags := options.apply flags }) := by
    rw [options.written_append, atom, readGroup_inline, readOptions_inline, options.length_written,
      Cursor.movedBy]
    congr 3
    dsimp only
    omega
  have continues (next : Option Pattern → Reading (List Pattern)) :
      (readAtom inner '(' >>= next).run { rest := options.written ++ rest, flags := flags } =
        (next none).run (Cursor.movedBy options.written.length
          { rest := rest, flags := options.apply flags }) := by
    rw [StateT.run_bind, reads]
    rfl
  rw [options.written_append] at continues ⊢
  simp only [readPiece, StateT.run_bind, StateT.run_get, pure_bind]
  split
  · next quoted => simp at quoted
  · exact continues _

/-- The items behind options at the start are the items of what follows them. -/
theorem readItems_inline (inner : Inner) (options : InlineOptions) (rest : List Char)
    (flags : Flags) (fuel : Nat) :
    (readItems inner (fuel + 1) []).run { rest := options.written ++ rest, flags := flags } =
      (readItems inner fuel []).run (Cursor.movedBy options.written.length
        { rest := rest, flags := options.apply flags }) := by
  have passes : skipTrivia.run { rest := options.written ++ rest, flags := flags } =
      .ok ((), { rest := options.written ++ rest, flags := flags }) := by
    show (if flags.extended then skip 0 else pure () : Reading Unit).run _ = _
    split <;> rfl
  rw [readItems, StateT.run_bind, passes]
  show (readPiece inner '(' >>= fun piece => readItems inner fuel (piece.reverse ++ [])).run
    { rest := options.written ++ rest, flags := flags } = _
  rw [StateT.run_bind, readPiece_inline]
  rfl

theorem readBranchesWith_inline {inner : Inner} (nested : inner.Moves) (options : InlineOptions)
    (rest : List Char) (flags : Flags) :
    Displaced rest options.written.length 0 (List.map (Pattern.movedBy options.written.length))
      ((readBranchesWith inner).run { rest := rest, flags := options.apply flags })
      ((readBranchesWith inner).run { rest := options.written ++ rest, flags := flags }) := by
  have here : Cursor.Within rest 0 { rest := rest, flags := options.apply flags } :=
    ⟨rfl, Nat.zero_le _, Nat.zero_le _⟩
  have shorter : rest.length < (options.written ++ rest).length := by
    rw [List.length_append, options.length_written]
    omega
  refine readBranchesWith_displaced nested (readSequence_displaced ?_)
  rw [readItems_inline]
  exact readItems_moves nested here (Nat.lt_succ_self _) shorter []

/-- A pattern behind options is the same pattern further on, under the flags that they set. -/
theorem readBranches_inline (limit depth : Nat) (options : InlineOptions) (rest : List Char)
    (flags : Flags) :
    Displaced rest options.written.length 0 (List.map (Pattern.movedBy options.written.length))
      ((readBranches limit depth).run { rest := rest, flags := options.apply flags })
      ((readBranches limit depth).run { rest := options.written ++ rest, flags := flags }) := by
  cases depth with
  | zero =>
      exact readBranchesWith_inline (fun _ impossible => by cases impossible) options rest flags
  | succ depth =>
      refine readBranchesWith_inline ?_ options rest flags
      rintro reading ⟨⟩ text distance least before here
      exact readBranches_moves limit depth here

end Reader

/-- What follows options at the start of a pattern is parsed as if it stood there alone, under the
flags that they set. -/
theorem ParsedPattern.parse_inline (options : InlineOptions) (rest : List Char) (flags : Flags) :
    parse (options.written ++ rest) flags =
      ((parse rest (options.apply flags)).map (movedBy options.written.length)).mapError
        (CompileError.movedBy options.written.length) := by
  have displaced := Reader.readBranches_inline Reader.nestingLimit Reader.nestingLimit options rest
    flags
  unfold parse parseWithin
  rw [displaced.eq_map]
  cases (Reader.readBranches Reader.nestingLimit Reader.nestingLimit).run
      { rest := rest, flags := options.apply flags } with
  | error error => rfl
  | ok reached =>
      obtain ⟨branches, ⟨left, position, after, names⟩⟩ := reached
      cases left with
      | nil =>
          show Except.ok (ParsedPattern.mk _ names) = Except.ok (ParsedPattern.mk _ names)
          rw [Reader.movedBy_choice]
      | cons next more => rfl

namespace Regexp

/-- Options at the start of a pattern are the same as flags: what follows them is compiled to the
same program, with the same hints and names, as under these flags, or it is refused for the same
reason, so many characters further on.  Nothing depends on where the text of a pattern begins. -/
theorem compile_leadingOptions (options : InlineOptions) (rest : List Char) (flags : Flags) :
    compile (options.written ++ rest) flags =
        ((compile rest (options.apply flags)).map fun regexp =>
          { regexp with pattern := options.written ++ rest, flags := flags }).mapError
            (CompileError.movedBy options.written.length) ∧
      ∀ limit depth position groupNames,
        (Reader.readBranches limit depth).run ⟨rest, position, flags, groupNames⟩ =
          (((Reader.readBranches limit depth).run ⟨rest, 0, flags, groupNames⟩).map
            fun (branches, cursor) =>
              (branches.map (Pattern.movedBy position), cursor.movedBy position)).mapError
                (CompileError.movedBy position) := by
  refine ⟨?_, fun limit depth position groupNames => ?_⟩
  · unfold compile
    rw [ParsedPattern.parse_inline]
    cases ParsedPattern.parse rest (options.apply flags) with
    | error error => rfl
    | ok parsed =>
        show (Program.ofPattern (parsed.movedBy _) >>= fun program => Except.ok _) =
          ((Program.ofPattern parsed >>= fun program => Except.ok _).map _).mapError _
        rw [Program.ofPattern_movedBy]
        cases Program.ofPattern parsed with
        | error error => rfl
        | ok program =>
            show Except.ok (Regexp.mk _ _ program (parsed.pattern.movedBy _).hints _ _) = _
            rw [Pattern.hints_movedBy]
            rfl
  · have here : Cursor.Within rest 0 ⟨rest, 0, flags, groupNames⟩ :=
      ⟨rfl, Nat.zero_le _, Nat.zero_le _⟩
    have moves : Reading.Moves rest position _ _ _ _ 0 := Reader.readBranches_moves limit depth here
    have displaced := moves.eq_map
    simp only [Cursor.movedBy, Nat.zero_add] at displaced
    exact displaced

end Regexp

end Backtracking
