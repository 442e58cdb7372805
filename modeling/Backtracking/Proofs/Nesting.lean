import Backtracking.Proofs.ScannedTexts

/-!
# Nesting in the text of a pattern

How deep parentheses are nested is a matter of the text alone.  Parentheses that are escaped,
quoted, within brackets or within comments do not count, and neither do those of options, comments,
references and conditions.
-/

namespace Backtracking

namespace Scan

/-- Whether a character is no part of what encloses, escapes or comments something. -/
def isNeutral (character : Char) : Bool :=
  !(['(', ')', '[', ']', '\\', '#'].contains character)

/-- What passes a test that refuses the other characters is neutral. -/
theorem isNeutral_of {test : Char → Bool}
    (refuses : ['(', ')', '[', ']', '\\', '#'].all (fun other => !(test other)) = true)
    {character : Char} (passes : test character = true) : isNeutral character = true := by
  cases special : ['(', ')', '[', ']', '\\', '#'].contains character with
  | false => rw [isNeutral, special, Bool.not_false]
  | true =>
      have refused := List.all_eq_true.mp refuses character (List.contains_iff_mem.mp special)
      rw [passes] at refused
      cases refused

theorem isNeutral_of_isDigit {character : Char} (digit : character.isDigit = true) :
    isNeutral character = true :=
  isNeutral_of (by decide) digit

theorem isNeutral_of_isNameChar {character : Char} (part : isNameChar character = true) :
    isNeutral character = true :=
  isNeutral_of (by decide) part

theorem isNeutral_of_isBoundsChar {character : Char} (part : isBoundsChar character = true) :
    isNeutral character = true :=
  isNeutral_of (by decide) part

theorem head?_drop_triviaLength (inComment : Bool) (text : List Char) :
    (text.drop (triviaLength inComment text)).head? ≠ some '#' := by
  induction text generalizing inComment with
  | nil => simp
  | cons character rest ih =>
      rw [triviaLength]
      split
      · exact ih _
      split
      · exact ih _
      split
      · exact ih _
      · next other => simpa using other

/-- What stands between brackets, without a caret that negates it. -/
def afterCaret : List Char → List Char
  | '^' :: text => text
  | text => text

/-- A letter behind a backslash, together with the character that `\c` takes along.  Quoted text is
not meant. -/
def IsEscape (front : List Char) : Prop :=
  (∃ letter, letter ≠ 'Q' ∧ letter ≠ 'c' ∧ front = [letter]) ∨ ∃ character, front = ['c', character]

end Scan

/-- A text goes on to the closing bracket of a class, which a bracket in the first place is not. -/
inductive ClassTail : (isFirst : Bool) → (text rest : List Char) → Prop
  | close {rest : List Char} : ClassTail false (']' :: rest) rest
  | ordinary {isFirst : Bool} {character : Char} {text rest : List Char}
      (plain : character ∉ ['[', '\\']) (inside : character = ']' → isFirst = true)
      (follows : ClassTail false text rest) : ClassTail isFirst (character :: text) rest
  | bracket {isFirst : Bool} {text rest : List Char} (unnamed : Scan.posixName? text = none)
      (follows : ClassTail false text rest) : ClassTail isFirst ('[' :: text) rest
  | named {isFirst negated : Bool} {name : String} {length : Nat} {text rest : List Char}
      (known : Scan.posixName? text = some (name, negated, length))
      (follows : ClassTail false (text.drop length) rest) : ClassTail isFirst ('[' :: text) rest
  | escape {isFirst : Bool} {front text rest : List Char} (escapes : Scan.IsEscape front)
      (follows : ClassTail false text rest) : ClassTail isFirst ('\\' :: (front ++ text)) rest
  | quoted {isFirst : Bool} {text rest : List Char}
      (follows : ClassTail false (text.drop (Scan.quoted text).2) rest) :
      ClassTail isFirst ('\\' :: 'Q' :: text) rest

/-- Whether what follows a parenthesis says that it encloses a pattern, apart from what options and
conditions say. -/
def opensGroup : List Char → Bool
  | '?' :: '>' :: _ | '?' :: '=' :: _ | '?' :: '!' :: _ | '?' :: '<' :: _ | '?' :: '\'' :: _
  | '?' :: 'P' :: '<' :: _ => true
  | '?' :: _ => false
  | _ => true

/-- In a text up to a rest of it, parentheses are closed when they were opened, and nested at most
so deep.  The flags in force tell whether there are comments, and options may change them. -/
inductive Nested :
    (depth : Nat) → (flags : Flags) → (text rest : List Char) → (after : Flags) → Prop
  | done {depth : Nat} {flags : Flags} {rest : List Char} : Nested depth flags rest rest flags
  | ordinary {depth : Nat} {flags after : Flags} {character : Char} {text rest : List Char}
      (plain : character ∉ ['(', ')', '[', '\\'])
      (noComment : flags.extended = true → character ≠ '#')
      (follows : Nested depth flags text rest after) :
      Nested depth flags (character :: text) rest after
  | comment {depth : Nat} {flags after : Flags} {text rest : List Char}
      (extended : flags.extended = true)
      (follows : Nested depth flags (text.dropWhile (· != '\n')) rest after) :
      Nested depth flags ('#' :: text) rest after
  | escape {depth : Nat} {flags after : Flags} {front text rest : List Char}
      (escapes : Scan.IsEscape front) (follows : Nested depth flags text rest after) :
      Nested depth flags ('\\' :: (front ++ text)) rest after
  | quoted {depth : Nat} {flags after : Flags} {text rest : List Char}
      (follows : Nested depth flags (text.drop (Scan.quoted text).2) rest after) :
      Nested depth flags ('\\' :: 'Q' :: text) rest after
  | bracketed {depth : Nat} {flags after : Flags} {text behind rest : List Char}
      (members : ClassTail true (Scan.afterCaret text) behind)
      (follows : Nested depth flags behind rest after) :
      Nested depth flags ('[' :: text) rest after
  | note {depth : Nat} {flags after : Flags} {words text rest : List Char} (inside : ')' ∉ words)
      (follows : Nested depth flags text rest after) :
      Nested depth flags ('(' :: '?' :: '#' :: (words ++ ')' :: text)) rest after
  | reference {depth : Nat} {flags after : Flags} {name text rest : List Char} (inside : ')' ∉ name)
      (follows : Nested depth flags text rest after) :
      Nested depth flags ('(' :: '?' :: 'P' :: '=' :: (name ++ ')' :: text)) rest after
  | setting {depth length : Nat} {flags options after : Flags} {text rest : List Char}
      (sets : Reader.scanOptions true flags 0 text = .setting options length)
      (follows : Nested depth options (text.drop length) rest after) :
      Nested depth flags ('(' :: '?' :: text) rest after
  | scope {depth length : Nat} {flags options last after : Flags} {text behind rest : List Char}
      (sets : Reader.scanOptions true flags 0 text = .scope options length)
      (body : Nested depth options (text.drop length) (')' :: behind) last)
      (follows : Nested (depth + 1) flags behind rest after) :
      Nested (depth + 1) flags ('(' :: '?' :: text) rest after
  | conditional {depth : Nat} {flags last after : Flags} {condition text behind rest : List Char}
      (inside : ')' ∉ condition) (body : Nested depth flags text (')' :: behind) last)
      (follows : Nested (depth + 1) flags behind rest after) :
      Nested (depth + 1) flags ('(' :: '?' :: '(' :: (condition ++ ')' :: text)) rest after
  | group {depth : Nat} {flags last after : Flags} {text behind rest : List Char}
      (opens : opensGroup text = true) (body : Nested depth flags text (')' :: behind) last)
      (follows : Nested (depth + 1) flags behind rest after) :
      Nested (depth + 1) flags ('(' :: text) rest after

namespace ClassTail

theorem neutral {taken text rest : List Char}
    (neutral : ∀ character ∈ taken, Scan.isNeutral character = true)
    (follows : ClassTail false text rest) : ClassTail false (taken ++ text) rest := by
  induction taken with
  | nil => exact follows
  | cons character taken ih =>
      have known : Scan.isNeutral character = true := neutral character (by simp)
      simp only [Scan.isNeutral, List.contains_cons, List.contains_nil, Bool.or_false,
        Bool.not_eq_true', Bool.or_eq_false_iff, beq_eq_false_iff_ne] at known
      exact .ordinary (by simp [known]) (fun closes => absurd closes known.2.2.2.1)
        (ih fun other member => neutral other (by simp [member]))

end ClassTail

namespace Nested

variable {depth : Nat} {flags middle after : Flags} {text between rest : List Char}

theorem trans (begins : Nested depth flags text between middle)
    (follows : Nested depth middle between rest after) : Nested depth flags text rest after := by
  induction begins with
  | done => exact follows
  | ordinary plain noComment _ ih => exact .ordinary plain noComment (ih follows)
  | comment extended _ ih => exact .comment extended (ih follows)
  | escape escapes _ ih => exact .escape escapes (ih follows)
  | quoted _ ih => exact .quoted (ih follows)
  | bracketed members _ ih => exact .bracketed members (ih follows)
  | note inside _ ih => exact .note inside (ih follows)
  | reference inside _ ih => exact .reference inside (ih follows)
  | setting sets _ ih => exact .setting sets (ih follows)
  | scope sets body _ _ ih => exact .scope sets body (ih follows)
  | conditional inside body _ _ ih => exact .conditional inside body (ih follows)
  | group opens body _ _ ih => exact .group opens body (ih follows)

theorem neutral {taken : List Char}
    (neutral : ∀ character ∈ taken, Scan.isNeutral character = true)
    (follows : Nested depth flags text rest after) :
    Nested depth flags (taken ++ text) rest after := by
  induction taken with
  | nil => exact follows
  | cons character taken ih =>
      have known : Scan.isNeutral character = true := neutral character (by simp)
      simp only [Scan.isNeutral, List.contains_cons, List.contains_nil, Bool.or_false,
        Bool.not_eq_true', Bool.or_eq_false_iff, beq_eq_false_iff_ne] at known
      exact .ordinary (by simp [known]) (fun _ => known.2.2.2.2.2)
        (ih fun other member => neutral other (by simp [member]))

/-- Blanks and comments are no matter for the nesting. -/
theorem trivia (extended : flags.extended = true) (text : List Char) :
    Nested depth flags text (text.drop (Scan.triviaLength false text)) flags ∧
      Nested depth flags (text.dropWhile (· != '\n')) (text.drop (Scan.triviaLength true text))
        flags := by
  induction text with
  | nil => exact ⟨.done, .done⟩
  | cons character text ih =>
      obtain ⟨outside, within⟩ := ih
      constructor
      · rw [Scan.triviaLength]
        simp only [Bool.false_eq_true, if_false]
        split
        · next blank =>
            have plain : ∀ blank ∈ [' ', '\t', '\n', '\r', '\x0B', '\x0C'],
                blank ∉ ['(', ')', '[', '\\'] ∧ blank ≠ '#' := by simp
            obtain ⟨plain, other⟩ := plain character (List.contains_iff_mem.mp blank)
            exact .ordinary plain (fun _ => other) outside
        split
        · next begins =>
            subst begins
            exact .comment extended within
        · exact .done
      · rw [Scan.triviaLength, if_pos rfl]
        by_cases ends : character = '\n'
        · subst ends
          exact .ordinary (by decide) (fun _ => by decide) outside
        · have goesOn : (character != '\n') = true := by simpa using ends
          simp only [List.dropWhile_cons, goesOn, if_true]
          exact within

end Nested

end Backtracking
