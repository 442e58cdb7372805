import Backtracking.Pattern.Bracket
import Backtracking.Proofs.TakenTexts

/-!
# The items of bracketed classes

A grammar of what stands between brackets: which characters an item denotes, how it is written, and
where it may stand.  Characters that could mean something else are written by their code points.
-/

namespace Backtracking

/-- An item of a bracketed class.  A closing bracket and a hyphen are written as they are. -/
inductive ClassItem where
  | character (member : Char)
  | range (first last : Char)
  | named (ranges : List CharRange) (negated : Bool)
  | quoted (text : List Char)
  | bracket
  | hyphen

namespace ClassItem

def denotes (item : ClassItem) (character : Char) : Bool :=
  match item with
  | .character member => character == member
  | .range first last => first ≤ character && character ≤ last
  | .named ranges negated => CharRange.covers ranges character != negated
  | .quoted text => text.contains character
  | .bracket => character == ']'
  | .hyphen => character == '-'

/-- The character that an item stands for, if it is a single one that a hyphen might follow. -/
def single? : ClassItem → Option Char
  | .character member => some member
  | .bracket => some ']'
  | .hyphen => some '-'
  | _ => none

/-- Whether an item is a set, which cannot be the end of a range. -/
def isSet : ClassItem → Bool
  | .named _ _ | .quoted _ => true
  | _ => false

/-! ## Spelling -/

/-- The sign that negates what comes behind it. -/
def caret (negated : Bool) : List Char := if negated then ['^'] else []

/-- Digits spell a character by its code point. -/
structure Code (digits : List Char) (character : Char) : Prop where
  nonempty : digits ≠ []
  hex : ∀ digit ∈ digits, Digits.isHex digit = true
  number_eq : Digits.number 16 digits = character.toNat

def braced (digits : List Char) : List Char := '\\' :: 'x' :: '{' :: (digits ++ ['}'])

theorem braced_append (digits tail : List Char) :
    braced digits ++ tail = '\\' :: 'x' :: '{' :: (digits ++ '}' :: tail) := by
  simp [braced]

/-- The spelling of an item under the flag for Unicode. -/
inductive Spelt (unicode : Bool) : ClassItem → List Char → Prop where
  | character {digits : List Char} {member : Char} (code : Code digits member) :
      Spelt unicode (.character member) (braced digits)
  | range {lowDigits highDigits : List Char} {first last : Char} (low : Code lowDigits first)
      (high : Code highDigits last) (ordered : first ≤ last) :
      Spelt unicode (.range first last) (braced lowDigits ++ '-' :: braced highDigits)
  | shorthand {letter : Char} (known : NamedClass.isShorthand letter = true) :
      Spelt unicode
        (.named (NamedClass.shorthand letter unicode) (NamedClass.isNegatedShorthand letter))
        ['\\', letter]
  | property {letter : Char} (known : letter = 'p' ∨ letter = 'P') {name : List Char}
      {ranges : List CharRange} (named : PropertyName.ranges? name = some ranges)
      (negated : Bool) :
      Spelt unicode (.named ranges (decide (letter = 'P') != negated))
        ('\\' :: letter :: '{' :: (caret negated ++ (name ++ ['}'])))
  | posix {name : List Char} {ranges : List CharRange}
      (named : NamedClass.posix? (String.ofList name) unicode = some ranges) (negated : Bool) :
      Spelt unicode (.named ranges negated)
        ('[' :: ':' :: (caret negated ++ (name ++ [':', ']'])))
  | quoted {text : List Char} (unended : ¬ ['\\', 'E'] <:+: text) :
      Spelt unicode (.quoted text) ('\\' :: 'Q' :: (text ++ ['\\', 'E']))
  | bracket : Spelt unicode .bracket [']']
  | hyphen : Spelt unicode .hyphen ['-']

inductive AllSpelt (unicode : Bool) : List ClassItem → List Char → Prop where
  | nil : AllSpelt unicode [] []
  | cons {item : ClassItem} {items : List ClassItem} {text rest : List Char}
      (spelt : item.Spelt unicode text) (follows : AllSpelt unicode items rest) :
      AllSpelt unicode (item :: items) (text ++ rest)

/-! ## Places -/

/-- Whether an item may stand between two others.  A closing bracket comes first.  A hyphen comes
first, last, behind an item that is no single character, or in front of a set. -/
def mayStand (before? after? : Option ClassItem) : ClassItem → Bool
  | .bracket => before?.isNone
  | .hyphen => !before?.any (·.single?.isSome) || after?.all isSet
  | _ => true

/-- Whether all items may stand where they do, behind one that comes before them. -/
def placed (before? : Option ClassItem) : List ClassItem → Bool
  | [] => true
  | item :: items => item.mayStand before? items.head? && placed (some item) items

/-! ## What the scanners find -/

theorem Code.ofNat_number {digits : List Char} {character : Char} (code : Code digits character) :
    (Digits.number 16 digits).isValidChar ∧ Char.ofNat (Digits.number 16 digits) = character := by
  rw [code.number_eq, Char.ofNat_toNat]
  exact ⟨character.valid, rfl⟩

theorem isAlpha_of_posix? {name : List Char} {unicode : Bool} {ranges : List CharRange}
    (named : NamedClass.posix? (String.ofList name) unicode = some ranges) {character : Char}
    (member : character ∈ name) : character.isAlpha = true := by
  have ascii {text : String} {ranges : List CharRange}
      (known : NamedClass.asciiPosix? text = some ranges) :
      text.toList.all Char.isAlpha = true := by
    unfold NamedClass.asciiPosix? at known
    split at known <;> first | rfl | cases known
  have wide {text : String} {ranges : List CharRange}
      (known : NamedClass.unicodePosix? text = some ranges) :
      text.toList.all Char.isAlpha = true := by
    unfold NamedClass.unicodePosix? at known
    split at known <;> first | rfl | cases known
  have letters : (String.ofList name).toList.all Char.isAlpha = true := by
    rw [NamedClass.posix?, Option.or_eq_some_iff] at named
    rcases named with known | ⟨-, known⟩
    · split at known
      · exact wide known
      · cases known
    · exact ascii known
  rw [String.toList_ofList] at letters
  exact List.all_eq_true.mp letters character member

/-- The name of a class is found behind its opening bracket. -/
theorem posixName?_of_posix? {name : List Char} {unicode : Bool} {ranges : List CharRange}
    (named : NamedClass.posix? (String.ofList name) unicode = some ranges) (negated : Bool)
    (tail : List Char) :
    Scan.posixName? (':' :: (caret negated ++ (name ++ ':' :: ']' :: tail))) =
      some (String.ofList name, negated,
        (':' :: (caret negated ++ (name ++ [':', ']']))).length) := by
  have letters : ∀ character ∈ name, character.isAlpha = true := fun _ => isAlpha_of_posix? named
  have taken : (name ++ ':' :: ']' :: tail).takeWhile Char.isAlpha = name := by
    rw [List.takeWhile_append_of_pos letters]
    simp
  have noCaret : (name ++ ':' :: ']' :: tail).head? ≠ some '^' := by
    cases name with
    | nil => simp
    | cons first rest =>
        intro equal
        obtain rfl := Option.some.inj equal
        cases letters '^' (by simp)
  cases negated with
  | true => simp [Scan.posixName?, caret, taken]
  | false =>
      simp only [Scan.posixName?, caret, Bool.false_eq_true, if_false, List.nil_append, noCaret,
        decide_false, taken, List.drop_left]
      simp

/-- Quoted text is found up to the first place where it ends. -/
theorem quoted_of_unended {text : List Char} (unended : ¬ ['\\', 'E'] <:+: text)
    (tail : List Char) :
    Scan.quoted (text ++ '\\' :: 'E' :: tail) = (text, text.length + 2) := by
  induction text with
  | nil => rfl
  | cons character text ih =>
      have shorter := ih fun within => unended (List.infix_cons within)
      have here (rest : List Char) : character = '\\' →
          text ++ '\\' :: 'E' :: tail = 'E' :: rest → False := by
        rintro rfl equal
        cases text with
        | nil => cases equal
        | cons second text =>
            obtain rfl := (List.cons.inj equal).1
            exact unended ⟨[], text, rfl⟩
      rw [List.cons_append, Scan.quoted.eq_3 _ _ here, shorter]
      rfl

theorem Spelt.begins {unicode : Bool} {item : ClassItem} {text : List Char}
    (spelt : item.Spelt unicode text) :
    ∃ first rest, text = first :: rest ∧ first ≠ ':' ∧ first ≠ '^' ∧
      (first = ']' → item = .bracket) ∧ (first = '-' → item = .hyphen) := by
  cases spelt <;> exact ⟨_, _, rfl, by decide, by decide, by simp, by simp⟩

theorem AllSpelt.length_le {unicode : Bool} {items : List ClassItem} {text : List Char}
    (spelt : AllSpelt unicode items text) : items.length ≤ text.length := by
  induction spelt with
  | nil => exact Nat.le_refl _
  | cons spelt _ ih =>
      obtain ⟨first, rest, rfl, -⟩ := spelt.begins
      simp only [List.length_cons, List.length_append]
      omega

end ClassItem

end Backtracking
