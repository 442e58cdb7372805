import Backtracking.Pattern.Reader

/-!
# What scanning finds

The scanning functions look at the text ahead of a reader.  What they find stands at the front of
that text, and is not longer than it.  What is read next may depend on the character there.
-/

namespace Backtracking

namespace Scan

theorem triviaLength_le (inComment : Bool) (text : List Char) :
    triviaLength inComment text ≤ text.length := by
  induction text generalizing inComment with
  | nil => exact Nat.le_refl _
  | cons character rest ih =>
      have within (state : Bool) : triviaLength state rest + 1 ≤ (character :: rest).length :=
        Nat.succ_le_succ (ih state)
      rw [triviaLength]
      split
      · exact within _
      split
      · exact within _
      split
      · exact within _
      · exact Nat.zero_le _

theorem quoted_length_le (text : List Char) : (quoted text).2 ≤ text.length := by
  fun_induction quoted text with
  | case1 => exact Nat.le_refl _
  | case2 => simp
  | case3 character rest other text length equal ih =>
      rw [equal] at ih
      exact Nat.succ_le_succ ih

theorem takeWhile_append_drop (test : Char → Bool) (text : List Char) :
    text.takeWhile test ++ text.drop (text.takeWhile test).length = text := by
  obtain ⟨rest, split⟩ := List.takeWhile_prefix (l := text) test
  have dropped := congrArg (List.drop (text.takeWhile test).length) split
  rw [List.drop_left] at dropped
  rw [← dropped, split]

theorem of_mem_takeWhile {test : Char → Bool} {text : List Char} {character : Char}
    (member : character ∈ text.takeWhile test) : test character = true :=
  List.all_eq_true.mp List.all_takeWhile character member

/-- What a quantifier in braces is written with. -/
def isBoundsChar (character : Char) : Bool :=
  character.isDigit || ['{', ',', '}'].contains character

theorem bounds?_eq_some {text : List Char} {bounds : Bounds} (found : bounds? text = some bounds) :
    ∃ taken rest, text = taken ++ rest ∧ taken.length = bounds.length ∧
      ∀ character ∈ taken, isBoundsChar character = true := by
  have digits {front : List Char} : ∀ character ∈ front.takeWhile Char.isDigit,
      isBoundsChar character = true :=
    fun character member => by simp [isBoundsChar, of_mem_takeWhile member]
  have brackets : ∀ character ∈ ['{', ',', '}'], isBoundsChar character = true := by
    simp [isBoundsChar]
  simp only [List.mem_cons, List.not_mem_nil, or_false, forall_eq_or_imp, forall_eq] at brackets
  unfold bounds? at found
  split at found
  case h_2 => cases found
  next rest =>
  dsimp only at found
  split at found
  case isTrue => cases found
  have low := takeWhile_append_drop Char.isDigit rest
  split at found
  · next more begins =>
    cases found
    rw [begins] at low
    refine ⟨'{' :: (rest.takeWhile Char.isDigit ++ ['}']), more, by simp [low], by simp, ?_⟩
    simpa [or_imp, forall_and, brackets] using digits
  · next more begins =>
    rw [begins] at low
    have high := takeWhile_append_drop Char.isDigit more
    split at found
    · next last ends =>
      cases found
      rw [ends] at high
      refine ⟨'{' :: (rest.takeWhile Char.isDigit ++
        ',' :: (more.takeWhile Char.isDigit ++ ['}'])), last, by simp [high, low],
        by simp; omega, ?_⟩
      simp only [List.mem_cons, List.mem_append, List.not_mem_nil, or_false]
      rintro character (rfl | member | rfl | member | rfl)
      · exact brackets.1
      · exact digits character member
      · exact brackets.2.1
      · exact digits character member
      · exact brackets.2.2
    · cases found
  · cases found

theorem bounds?_length_pos {text : List Char} {bounds : Bounds}
    (found : bounds? text = some bounds) : 0 < bounds.length := by
  unfold bounds? at found
  split at found
  case h_2 => cases found
  dsimp only at found
  split at found
  case isTrue => cases found
  split at found
  · cases found
    exact Nat.succ_pos _
  · split at found
    · cases found
      exact Nat.succ_pos _
    · cases found
  · cases found

theorem length_quoted_le (text : List Char) : (quoted text).1.length ≤ (quoted text).2 := by
  fun_induction quoted text with
  | case1 | case2 => simp
  | case3 character rest other text length equal ih =>
      rw [equal] at ih
      exact Nat.succ_le_succ ih

theorem posixName?_length_le {text : List Char} {name : String} {negated : Bool} {length : Nat}
    (found : posixName? text = some (name, negated, length)) : length ≤ text.length := by
  unfold posixName? at found
  split at found
  case h_2 => cases found
  next rest =>
  dsimp only at found
  split at found
  case h_2 => cases found
  next last ends =>
  cases found
  have bound := congrArg List.length ends
  simp only [List.length_drop, List.length_cons] at bound
  split at bound <;> next sign => simp only [sign, List.length_cons]; grind

end Scan

namespace Reading

variable {α : Type}

theorem accept_bind {expected : Char} (next : Bool → Reading α) :
    Reading.accept expected >>= next = Reading.peek? >>= fun character? =>
      if character? = some expected then Reading.skip 1 >>= fun _ => next true else next false := by
  simp only [Reading.accept, bind_assoc]
  refine bind_congr fun character? => ?_
  split <;> simp

end Reading

namespace Reader

/-- How many characters were read when a list of option letters ends. -/
def OptionEnd.length : OptionEnd → Nat
  | .setting _ length | .scope _ length | .unknown length => length
  | .unfinished => 0

theorem scanOptions_length_le (on : Bool) (flags : Flags) (read : Nat) (text : List Char) :
    (scanOptions on flags read text).length ≤ read + text.length := by
  induction text generalizing on flags read with
  | nil => exact Nat.zero_le _
  | cons letter rest ih =>
      have further (on : Bool) (flags : Flags) :
          (scanOptions on flags (read + 1) rest).length ≤ read + (letter :: rest).length := by
        rw [List.length_cons, ← Nat.add_assoc, Nat.add_right_comm]
        exact ih on flags (read + 1)
      unfold scanOptions
      split <;> try exact further _ _
      · exact Nat.add_le_add_left (Nat.succ_pos _) read
      · exact Nat.add_le_add_left (Nat.succ_pos _) read
      · split
        · exact further _ _
        · exact Nat.le_add_right _ _
      · exact Nat.le_add_right _ _

end Reader

end Backtracking
