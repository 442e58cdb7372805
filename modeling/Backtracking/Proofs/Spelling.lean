import Backtracking.Pattern.Reader
import Mathlib.Data.Nat.Digits.Defs

/-!
# The spelling of patterns

A grammar of the core of the syntax, which says how patterns are written without saying how they are
read.  A character that could mean something else has a backslash in front of it, numbers stand
between braces, and parentheses enclose what would not be read as one item otherwise.

An extended pattern may hold blanks and comments besides: in front of the items of a sequence and
behind them, and between an item and its quantifier.
-/

namespace Backtracking

namespace Spelling

/-! ## Parts without items -/

/-- Blanks and comments.  A comment ends with its line. -/
inductive Trivia : List Char → Prop where
  | nil : Trivia []
  | blank {character : Char} {rest : List Char} (isBlank : Scan.isBlank character = true)
      (trivia : Trivia rest) : Trivia (character :: rest)
  | comment {line rest : List Char} (inLine : '\n' ∉ line) (trivia : Trivia rest) :
      Trivia ('#' :: (line ++ '\n' :: rest))

/-- What may stand between items: nothing, unless the pattern is extended. -/
def Gap (extended : Bool) (text : List Char) : Prop := text = [] ∨ extended = true ∧ Trivia text

def digits (number : Nat) : List Char := Nat.toDigits 10 number

/-- The numbers of a repetition: `{n}`, `{n,}` or `{n,m}`. -/
inductive Bounds : (least : Nat) → (most : Option Nat) → List Char → Prop where
  | exactly (count : Nat) : Bounds count (some count) ('{' :: (digits count ++ ['}']))
  | atLeast (least : Nat) : Bounds least none ('{' :: (digits least ++ [',', '}']))
  | between (least most : Nat) :
      Bounds least (some most) ('{' :: (digits least ++ ',' :: (digits most ++ ['}'])))

/-- The bounds of a repetition are in order, and none is too large. -/
def Repeatable (least : Nat) (most : Option Nat) : Prop :=
  least ≤ Reader.greatestRepetition ∧
    ∀ bound, most = some bound → least ≤ bound ∧ bound ≤ Reader.greatestRepetition

/-- What follows the numbers of a repetition. -/
def suffix : RepeatMode → List Char
  | .greedy => []
  | .lazy => ['?']
  | .possessive => ['+']

/-- The number of a group that may be referred to, whether it exists or not. -/
def Referable (number : Nat) : Prop := 1 ≤ number ∧ number ≤ Scan.greatestNumber

/-- The spelling of an assertion, if there is one under the flags that are set by default. -/
def assertion? : Assertion → Option (List Char)
  | .startOfInput => some ['^']
  | .endOfInputOrNewline => some ['$']
  | .searchOrigin => some ['\\', 'A']
  | .endOfInput => some ['\\', 'z']
  | .previousMatchEnd => some ['\\', 'G']
  | .wordBoundary false => some ['\\', 'b']
  | .notWordBoundary false => some ['\\', 'B']
  | .startOfLine | .endOfLine | .wordBoundary true | .notWordBoundary true => none

/-- What distinguishes lookarounds. -/
def lookAroundSign : Direction → (negated : Bool) → List Char
  | .ahead, false => ['=']
  | .ahead, true => ['!']
  | .behind, false => ['<', '=']
  | .behind, true => ['<', '!']

/-- What follows an opening parenthesis and a question mark, and what it makes of the pattern that
is enclosed. -/
inductive Opening : List Char → (Pattern → Pattern) → Prop where
  | plain : Opening [':'] id
  | atomic : Opening ['>'] .atomic
  | lookAround (direction : Direction) (negated : Bool) (offset : Nat) :
      Opening (lookAroundSign direction negated) (.lookAround direction negated · offset)

/-- A character that stands for itself: a letter or a digit, or one beyond ASCII. -/
def isOrdinary (character : Char) : Bool := character.isAlphanum || 128 ≤ character.toNat

/-! ## Items, sequences and branches -/

section Grammar

variable (extended : Bool) (Enclosed : List Pattern → List Char → Prop)

/-- The spelling of an atom, where the branches are known that parentheses may enclose. -/
inductive Atom : Pattern → List Char → Prop where
  | ordinary {character : Char} (ordinary : isOrdinary character = true) :
      Atom (.char (.char character)) [character]
  | escaped {character : Char} (special : isOrdinary character = false) :
      Atom (.char (.char character)) ['\\', character]
  | dot : Atom (.char .anyExceptNewline) ['.']
  | assertion {assertion : Assertion} {text : List Char}
      (spelt : assertion? assertion = some text) : Atom (.assert assertion) text
  | group (index : Nat) {branches : List Pattern} {text : List Char}
      (encloses : Enclosed branches text) :
      Atom (.group index (.choice branches)) ('(' :: (text ++ [')']))
  | enclosed {opening : List Char} {build : Pattern → Pattern} (opens : Opening opening build)
      {branches : List Pattern} {text : List Char} (encloses : Enclosed branches text) :
      Atom (build (.choice branches)) ('(' :: '?' :: (opening ++ text ++ [')']))
  | backReference {number : Nat} (referable : Referable number) (offset : Nat) :
      Atom (.backReference (.number number) false offset)
        ('\\' :: 'g' :: '{' :: (digits number ++ ['}']))
  | oneBranch {number : Nat} (referable : Referable number) (offset : Nat) {yes : Pattern}
      {text : List Char} (encloses : Enclosed [yes] text) :
      Atom (.conditional (.number number) yes .empty offset)
        ('(' :: '?' :: '(' :: (digits number ++ ')' :: (text ++ [')'])))
  | twoBranches {number : Nat} (referable : Referable number) (offset : Nat) {yes no : Pattern}
      {text : List Char} (encloses : Enclosed [yes, no] text) :
      Atom (.conditional (.number number) yes no offset)
        ('(' :: '?' :: '(' :: (digits number ++ ')' :: (text ++ [')'])))

/-- The spelling of an item: an atom, or an atom with a quantifier.  An assertion is repeated within
parentheses only. -/
inductive Item : Pattern → List Char → Prop where
  | atom {pattern : Pattern} {text : List Char} (spells : Atom Enclosed pattern text) :
      Item pattern text
  | repeated {body : Pattern} {text gap bounds : List Char} {least : Nat} {most : Option Nat}
      (spells : Atom Enclosed body text)
      (repeatable : ∀ assertion, body = .assert assertion → text.head? = some '(')
      (ignored : Gap extended gap) (legal : Repeatable least most)
      (numbers : Bounds least most bounds) (mode : RepeatMode) :
      Item (.repeated body least most mode) (text ++ gap ++ (bounds ++ suffix mode))

/-- The spelling of items, each with what may be behind it. -/
inductive Items : List Pattern → List Char → Prop where
  | nil : Items [] []
  | cons {item : Pattern} {items : List Pattern} {text gap rest : List Char}
      (spells : Item extended Enclosed item text) (ignored : Gap extended gap)
      (follows : Items items rest) : Items (item :: items) (text ++ gap ++ rest)

inductive Sequence : Pattern → List Char → Prop where
  | mk {items : List Pattern} {gap text : List Char} (ignored : Gap extended gap)
      (spells : Items extended Enclosed items text) : Sequence (.sequence items) (gap ++ text)

/-- The spelling of branches, with bars between them. -/
inductive Branches : List Pattern → List Char → Prop where
  | one {branch : Pattern} {text : List Char} (spells : Sequence extended Enclosed branch text) :
      Branches [branch] text
  | more {branch : Pattern} {branches : List Pattern} {text rest : List Char}
      (spells : Sequence extended Enclosed branch text) (follows : Branches branches rest) :
      Branches (branch :: branches) (text ++ '|' :: rest)

end Grammar

/-- The spelling of branches that parentheses may enclose if so many levels of them are left. -/
def Enclosed (extended : Bool) : (depth : Nat) → List Pattern → List Char → Prop
  | 0 => fun _ _ => False
  | depth + 1 => Branches extended (Enclosed extended depth)

/-! ## What the scanners find -/

theorem isDigit_of_mem_digits {number : Nat} {character : Char}
    (member : character ∈ digits number) : character.isDigit = true :=
  Nat.isDigit_of_mem_toDigits (by decide) (by decide) member

theorem digits_ne_nil (number : Nat) : digits number ≠ [] := Nat.toDigits_ne_nil

theorem digits_eq_cons (number : Nat) :
    ∃ digit more, digits number = digit :: more ∧ digit.isDigit = true := by
  obtain ⟨digit, more, equal⟩ := List.exists_cons_of_ne_nil (digits_ne_nil number)
  have member : digit ∈ digits number := by simp [equal]
  exact ⟨digit, more, equal, isDigit_of_mem_digits member⟩

theorem not_isAlpha_of_isDigit {character : Char} (isDigit : character.isDigit = true) :
    character.isAlpha = false := by
  have high : character.toNat ≤ 57 := (Char.isDigit_iff_toNat.mp isDigit).2
  show (decide (65 ≤ character.val ∧ character.val ≤ 90) ||
    (decide (97 ≤ character.val) && decide (character.val ≤ 122))) = false
  simp [UInt32.le_iff_toNat_le]
  omega

/-- The digits of a number spell it, unless it is too great to be told apart. -/
theorem number_digits {number : Nat} (small : number ≤ Scan.greatestNumber) :
    Scan.number (digits number) = number := by
  have value : Digits.number 10 (digits number) = number := by
    have folded : ∀ (start : Nat) (read : List Char),
        (∀ character ∈ read, character.isDigit = true) →
        read.foldl (fun number digit => 10 * number + Digits.value digit) start =
          Nat.ofDigitChars 10 read start := by
      intro start read numeric
      induction read generalizing start with
      | nil => rfl
      | cons character read ih =>
          have first : Digits.value character = character.toNat - '0'.toNat := by
            simp [Digits.value, numeric character (by simp)]
          rw [List.foldl_cons, Nat.ofDigitChars_cons, first]
          exact ih _ fun other member => numeric other (by simp [member])
    rw [Digits.number, folded 0 _ fun _ => isDigit_of_mem_digits, digits]
    exact Nat.ofDigitChars_ten_toDigits
  rw [Scan.number, value]
  exact Nat.min_eq_right small

theorem takeWhile_digits (number : Nat) {stop : Char} (other : stop.isDigit = false)
    (rest : List Char) :
    (digits number ++ stop :: rest).takeWhile Char.isDigit = digits number := by
  rw [List.takeWhile_append_of_pos fun _ => isDigit_of_mem_digits]
  simp [other]

theorem bounds?_of_bounds {least : Nat} {most : Option Nat} {text : List Char}
    (numbers : Bounds least most text) (legal : Repeatable least most) (rest : List Char) :
    Scan.bounds? (text ++ rest) = some ⟨least, most, text.length⟩ := by
  have small {count : Nat} (le : count ≤ Reader.greatestRepetition) :
      count ≤ Scan.greatestNumber := Nat.le_trans le (by decide)
  have low := number_digits (small legal.1)
  have brace : Char.isDigit '}' = false := rfl
  have comma : Char.isDigit ',' = false := rfl
  cases numbers with
  | exactly =>
      simp [Scan.bounds?, takeWhile_digits _ brace, digits_ne_nil, low]
  | atLeast =>
      simp [Scan.bounds?, takeWhile_digits _ comma, digits_ne_nil, low, List.takeWhile, brace]
  | between most =>
      have high := number_digits (small (legal.2 most rfl).2)
      simp [Scan.bounds?, takeWhile_digits _ comma, takeWhile_digits _ brace, digits_ne_nil, low,
        high]
      omega

/-- Whether an item may begin with a character. -/
def startsItem (character : Char) : Bool :=
  !(['*', '+', '?', '{', '|', ')', '#'].contains character || Scan.isBlank character)

/-- Nothing at the front of a text is ignored, and no quantifier stands there. -/
def Settled (text : List Char) : Prop :=
  ∀ character ∈ text.head?,
    ['*', '+', '?', '{', '#'].contains character = false ∧ Scan.isBlank character = false

/-- A text begins with a bar or a closing parenthesis, or there is nothing left. -/
def Ends (text : List Char) : Prop := ∀ character ∈ text.head?, character = '|' ∨ character = ')'

theorem ends_nil : Ends [] := by simp [Ends]

theorem Ends.settled {text : List Char} (ends : Ends text) : Settled text := by
  intro character first
  obtain rfl | rfl := ends character first <;> decide

theorem not_ends_of_startsItem {character : Char} (starts : startsItem character = true) :
    (decide (character = '|') || decide (character = ')')) = false := by
  simp [startsItem] at starts
  simp [starts]

theorem settled_cons {character : Char} (starts : startsItem character = true)
    (rest : List Char) : Settled (character :: rest) := by
  intro first equal
  obtain rfl := Option.some.inj equal
  simp [startsItem] at starts
  simp [starts]

theorem Settled.bounds?_eq {text : List Char} (settled : Settled text) :
    Scan.bounds? text = none := by
  cases text with
  | nil => rfl
  | cons character rest =>
      have other : character ≠ '{' := by
        have known := (settled character rfl).1
        simp at known
        exact known.2.2.2.1
      rw [Scan.bounds?]
      simpa using other

theorem Settled.startsWithQuantifier_eq {text : List Char} (settled : Settled text) :
    Reader.startsWithQuantifier text = false := by
  cases text with
  | nil => rfl
  | cons character rest =>
      have known := (settled character rfl).1
      simp at known
      simp [Reader.startsWithQuantifier, settled.bounds?_eq, known]

theorem Settled.triviaLength_eq {text : List Char} (settled : Settled text) :
    Scan.triviaLength false text = 0 := by
  cases text with
  | nil => rfl
  | cons character rest =>
      obtain ⟨known, notBlank⟩ := settled character rfl
      simp at known
      simp [Scan.triviaLength, notBlank, known]

theorem Trivia.length_eq {gap tail : List Char} (trivia : Trivia gap)
    (stops : Scan.triviaLength false tail = 0) :
    Scan.triviaLength false (gap ++ tail) = gap.length := by
  induction trivia with
  | nil => exact stops
  | blank isBlank _ ih => simp [Scan.triviaLength, isBlank, ih]
  | @comment line rest inLine _ ih =>
      have within : Scan.triviaLength true (line ++ '\n' :: rest ++ tail) =
          (line ++ '\n' :: rest).length := by
        induction line with
        | nil => simp [Scan.triviaLength, ih]
        | cons character line lineIH =>
            have other : (character != '\n') = true :=
              bne_iff_ne.mpr fun same => inLine (by simp [same])
            have later := lineIH fun member => inLine (by simp [member])
            rw [List.cons_append, List.cons_append, Scan.triviaLength, if_pos rfl, other, later,
              List.length_cons]
      have hash : Scan.isBlank '#' = false := rfl
      simp [Scan.triviaLength, hash] at within ⊢
      exact within

/-! ## How spellings begin -/

theorem startsItem_of_isOrdinary {character : Char} (ordinary : isOrdinary character = true) :
    startsItem character = true := by
  by_contra other
  have special : character ∈ ['*', '+', '?', '{', '|', ')', '#', ' ', '\t', '\n', '\r', '\x0B',
      '\x0C'] := by
    simp [startsItem, Scan.isBlank] at other ⊢
    grind
  have none : ['*', '+', '?', '{', '|', ')', '#', ' ', '\t', '\n', '\r', '\x0B', '\x0C'].all
      (!isOrdinary ·) = true := rfl
  have refused := List.all_eq_true.mp none character special
  simp [ordinary] at refused

section Beginnings

variable {extended : Bool} {Enclosed : List Pattern → List Char → Prop}

/-- An atom begins with a character that may begin an item, and does not begin quoted text. -/
theorem Atom.begins {pattern : Pattern} {text : List Char} (spells : Atom Enclosed pattern text) :
    ∃ first rest, text = first :: rest ∧ startsItem first = true ∧
      ∀ tail more, first :: rest ++ tail ≠ '\\' :: 'Q' :: more := by
  cases spells with
  | @ordinary character ordinary =>
      refine ⟨_, _, rfl, startsItem_of_isOrdinary ordinary, ?_⟩
      rintro tail more equal
      obtain rfl := (List.cons.inj equal).1
      cases ordinary
  | @escaped character special =>
      refine ⟨_, _, rfl, rfl, ?_⟩
      rintro tail more equal
      obtain rfl := (List.cons.inj (List.cons.inj equal).2).1
      cases special
  | @assertion condition _ spelt =>
      cases condition with
      | startOfInput | endOfInputOrNewline | searchOrigin | endOfInput | previousMatchEnd =>
          obtain rfl := Option.some.inj spelt
          exact ⟨_, _, rfl, rfl, by simp⟩
      | startOfLine | endOfLine => cases spelt
      | wordBoundary unicode | notWordBoundary unicode =>
          cases unicode <;> cases spelt
          exact ⟨_, _, rfl, rfl, by simp⟩
  | dot | group | enclosed | backReference | oneBranch | twoBranches =>
      exact ⟨_, _, rfl, rfl, by simp⟩

theorem Item.begins {pattern : Pattern} {text : List Char}
    (spells : Item extended Enclosed pattern text) :
    ∃ first rest, text = first :: rest ∧ startsItem first = true := by
  cases spells with
  | atom spells =>
      obtain ⟨first, rest, rfl, starts, -⟩ := spells.begins
      exact ⟨first, rest, rfl, starts⟩
  | repeated spells =>
      obtain ⟨first, rest, rfl, starts, -⟩ := spells.begins
      exact ⟨first, _, rfl, starts⟩

theorem Items.settled {items : List Pattern} {text tail : List Char}
    (spells : Items extended Enclosed items text) (ends : Ends tail) : Settled (text ++ tail) := by
  cases spells with
  | nil => exact ends.settled
  | cons spells =>
      obtain ⟨first, rest, rfl, starts⟩ := spells.begins
      exact settled_cons starts _

/-- There are no more items than characters. -/
theorem Items.length_le {items : List Pattern} {text : List Char}
    (spells : Items extended Enclosed items text) : items.length ≤ text.length := by
  induction spells with
  | nil => simp
  | cons spells _ _ ih =>
      obtain ⟨first, rest, rfl, -⟩ := spells.begins
      simp
      omega

/-- A gap does not continue a quantifier, or tell the kind of a group. -/
theorem Gap.head_ne {gap tail : List Char} (ignored : Gap extended gap) (settled : Settled tail) :
    ∀ character ∈ (gap ++ tail).head?, character ≠ '+' ∧ character ≠ '?' := by
  intro character first
  have special {text : List Char} (equal : (text ++ tail).head? = some character)
      (trivia : Trivia text) : character ≠ '+' ∧ character ≠ '?' := by
    cases trivia with
    | nil =>
        have known := (settled character equal).1
        simp at known
        simp [known]
    | blank isBlank =>
        obtain rfl := Option.some.inj equal
        constructor <;> rintro rfl <;> cases isBlank
    | comment =>
        obtain rfl := Option.some.inj equal
        decide
  rcases ignored with rfl | ⟨-, trivia⟩
  · exact special first .nil
  · exact special first trivia

/-- What is enclosed does not begin like a kind of group. -/
theorem Branches.head_ne {branches : List Pattern} {text : List Char}
    (spells : Branches extended Enclosed branches text) : text.head? ≠ some '?' := by
  have sequence {branch : Pattern} {text tail : List Char}
      (spells : Sequence extended Enclosed branch text) (ends : Ends tail) :
      (text ++ tail).head? ≠ some '?' := by
    obtain ⟨ignored, spells⟩ := spells
    rw [List.append_assoc]
    exact fun first => (ignored.head_ne (spells.settled ends) _ first).2 rfl
  cases spells with
  | one spells =>
      have known := sequence spells ends_nil
      rwa [List.append_nil] at known
  | more spells => exact sequence spells (by simp [Ends])

end Beginnings

end Spelling

/-- A text spells a pattern, in which parentheses are nested at most `depth` deep. -/
def Pattern.SpeltWithin (extended : Bool) (depth : Nat) (pattern : Pattern) (text : List Char) :
    Prop :=
  ∃ branches, pattern = .choice branches ∧
    Spelling.Branches extended (Spelling.Enclosed extended depth) branches text

end Backtracking
