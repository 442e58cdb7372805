import Backtracking.Proofs.Rereading

/-!
# Writing patterns

A pattern of the core of the syntax is written out, with parentheses around what would bind too
loosely in its place.  Its text consists of pieces with gaps between them, which an extended pattern
may fill with blanks and comments.  What is written spells the pattern, however the gaps are filled,
and so it is read back.
-/

namespace Backtracking

open Spelling

namespace Pattern

/-! ## The text of a pattern -/

/-- How tightly the text of a pattern holds together: branches, a sequence, an item, an atom that
takes a quantifier. -/
def tightness : Pattern → Nat
  | .alternation _ => 0
  | .empty | .concat _ => 1
  | .repeated .. | .assert _ => 2
  | _ => 3

/-- A pattern in a place for tighter ones is written between parentheses. -/
def operand (least : Nat) (pattern : Pattern) (text : List Char) : List Char :=
  if least ≤ pattern.tightness then text else '(' :: '?' :: ([':'] ++ text ++ [')'])

def matcherText : CharMatcher → List Char
  | .char character => if isOrdinary character then [character] else ['\\', character]
  | .anyExceptNewline => ['.']
  | .any | .charIgnoringCase _ | .set _ => []

/-- The numbers of a repetition, one if both are the same. -/
def boundsText (least : Nat) : Option Nat → List Char
  | none => '{' :: (digits least ++ [',', '}'])
  | some most =>
      if most = least then '{' :: (digits least ++ ['}'])
      else '{' :: (digits least ++ ',' :: (digits most ++ ['}']))

/-- What follows the first branch of a conditional: the second one, unless it is empty. -/
def otherwiseText : Pattern → List Char → List Char
  | .empty, _ => []
  | pattern, text => '|' :: operand 1 pattern text

def targetText : GroupRef → List Char
  | .number number => digits number
  | .name name => name.toList

mutual

def render : Pattern → List Char
  | .empty => []
  | .char matcher => matcherText matcher
  | .assert assertion => (assertion? assertion).getD []
  | .group _ body => '(' :: (render body ++ [')'])
  | .concat items => (renderOperands 2 items).flatten
  | .alternation branches => ['|'].intercalate (renderOperands 1 branches)
  | .repeated body least most mode =>
      operand 3 body (render body) ++ (boundsText least most ++ suffix mode)
  | .lookAround direction negated body _ =>
      '(' :: '?' :: (lookAroundSign direction negated ++ render body ++ [')'])
  | .atomic body => '(' :: '?' :: (['>'] ++ render body ++ [')'])
  | .backReference target _ _ => '\\' :: 'g' :: '{' :: (targetText target ++ ['}'])
  | .conditional target yes no _ =>
      '(' :: '?' :: '(' :: (targetText target ++
        ')' :: (operand 1 yes (render yes) ++ otherwiseText no (render no) ++ [')']))

def renderOperands (least : Nat) : List Pattern → List (List Char)
  | [] => []
  | pattern :: patterns =>
      operand least pattern (render pattern) :: renderOperands least patterns

end

/-! ## The pieces of a text -/

/-- A piece of a text: something that is written, or a gap, where an extended pattern may hold
blanks and comments. -/
inductive Piece where
  | written (text : List Char)
  | gap

/-- The text of some pieces, with nothing in the gaps. -/
def plain : List Piece → List Char
  | [] => []
  | .written text :: pieces => text ++ plain pieces
  | .gap :: pieces => plain pieces

/-- A text consists of some pieces, with gaps that are filled. -/
inductive Fills (extended : Bool) : List Piece → List Char → Prop where
  | nil : Fills extended [] []
  | written (text : List Char) {pieces : List Piece} {rest : List Char}
      (fills : Fills extended pieces rest) : Fills extended (.written text :: pieces) (text ++ rest)
  | gap {text : List Char} (ignored : Gap extended text) {pieces : List Piece} {rest : List Char}
      (fills : Fills extended pieces rest) : Fills extended (.gap :: pieces) (text ++ rest)

/-- The pieces of a single item in the place of a sequence. -/
def spaced (pieces : List Piece) : List Piece := .gap :: (pieces ++ [.gap])

def branchPieces (pattern : Pattern) (pieces : List Piece) : List Piece :=
  if 2 ≤ pattern.tightness then spaced pieces else pieces

/-- The pieces of a pattern between parentheses, of which the first one is part of an opening. -/
def enclosedPieces (opening : List Char) (pattern : Pattern) (pieces : List Piece) : List Piece :=
  .written opening :: (branchPieces pattern pieces ++ [.written [')']])

def operandPieces (least : Nat) (pattern : Pattern) (pieces : List Piece) : List Piece :=
  if least ≤ pattern.tightness then
    if least < 2 then branchPieces pattern pieces else pieces
  else
    let atom := enclosedPieces ['(', '?', ':'] pattern pieces
    if least < 2 then spaced atom else atom

/-- What follows the first branch of a conditional: the second one, unless it is empty. -/
def otherwisePieces : Pattern → List Piece → List Piece
  | .empty, _ => []
  | pattern, pieces => .written ['|'] :: operandPieces 1 pattern pieces

mutual

/-- The pieces of a pattern, with gaps in front of the items of sequences and behind them, and
between items and quantifiers. -/
def pieces : Pattern → List Piece
  | .empty => [.gap]
  | .char matcher => [.written (matcherText matcher)]
  | .assert assertion => [.written ((assertion? assertion).getD [])]
  | .group _ body => enclosedPieces ['('] body (pieces body)
  | .concat items => .gap :: (piecesOfOperands 2 items).flatMap (· ++ [.gap])
  | .alternation branches => [.written ['|']].intercalate (piecesOfOperands 1 branches)
  | .repeated body least most mode =>
      operandPieces 3 body (pieces body) ++ [.gap, .written (boundsText least most ++ suffix mode)]
  | .lookAround direction negated body _ =>
      enclosedPieces ('(' :: '?' :: lookAroundSign direction negated) body (pieces body)
  | .atomic body => enclosedPieces ['(', '?', '>'] body (pieces body)
  | .backReference target _ _ => [.written ('\\' :: 'g' :: '{' :: (targetText target ++ ['}']))]
  | .conditional target yes no _ =>
      .written ('(' :: '?' :: '(' :: (targetText target ++ [')'])) ::
        (operandPieces 1 yes (pieces yes) ++ otherwisePieces no (pieces no) ++ [.written [')']])

def piecesOfOperands (least : Nat) : List Pattern → List (List Piece)
  | [] => []
  | pattern :: patterns =>
      operandPieces least pattern (pieces pattern) :: piecesOfOperands least patterns

end

section Pieces

variable {extended : Bool} {least : Nat} {pattern : Pattern} {pieces more : List Piece}
  {text : List Char}

theorem plain_append (pieces more : List Piece) :
    plain (pieces ++ more) = plain pieces ++ plain more := by
  induction pieces with
  | nil => rfl
  | cons piece pieces ih => cases piece <;> simp [plain, ih]

theorem plain_spaced (pieces : List Piece) : plain (spaced pieces) = plain pieces := by
  simp [spaced, plain, plain_append]

theorem plain_branchPieces : plain (branchPieces pattern pieces) = plain pieces := by
  rw [branchPieces]
  split
  · exact plain_spaced pieces
  · rfl

theorem plain_enclosedPieces (opening : List Char) :
    plain (enclosedPieces opening pattern pieces) = opening ++ plain pieces ++ [')'] := by
  simp [enclosedPieces, plain, plain_append, plain_branchPieces]

theorem plain_operandPieces :
    plain (operandPieces least pattern pieces) = operand least pattern (plain pieces) := by
  rw [operandPieces, operand]
  dsimp only
  split <;> split
  · exact plain_branchPieces
  · rfl
  · simp [plain_spaced, plain_enclosedPieces]
  · simp [plain_enclosedPieces]

theorem plain_otherwisePieces :
    plain (otherwisePieces pattern pieces) = otherwiseText pattern (plain pieces) := by
  cases pattern
  case empty => rfl
  all_goals simp [otherwisePieces, otherwiseText, plain, plain_operandPieces]

theorem plain_pieces (pattern : Pattern) : plain pattern.pieces = pattern.render := by
  have operands (least : Nat) {patterns : List Pattern}
      (known : ∀ pattern ∈ patterns, plain pattern.pieces = pattern.render) :
      (piecesOfOperands least patterns).map plain = renderOperands least patterns := by
    induction patterns with
    | nil => rfl
    | cons pattern patterns ih =>
        rw [piecesOfOperands, renderOperands, List.map_cons, plain_operandPieces,
          known pattern (by simp), ih fun other member => known other (by simp [member])]
  have flattened (parts : List (List Piece)) :
      plain (parts.flatMap (· ++ [.gap])) = (parts.map plain).flatten := by
    induction parts with
    | nil => rfl
    | cons part parts ih => simp [plain, plain_append, ih]
  have separated (parts : List (List Piece)) :
      plain ([Piece.written ['|']].intercalate parts) = ['|'].intercalate (parts.map plain) := by
    induction parts with
    | nil => rfl
    | cons part parts ih =>
        cases parts with
        | nil => simp
        | cons second parts =>
            rw [List.intercalate_cons_cons, plain_append, plain_append, ih]
            simp only [List.map_cons, List.intercalate_cons_cons]
            rfl
  induction pattern with
  | empty => rfl
  | char | assert | backReference => simp [pieces, render, plain]
  | group _ _ ih | lookAround _ _ _ _ ih | atomic _ ih =>
      simp [pieces, render, plain_enclosedPieces, ih]
  | concat items ih =>
      rw [pieces, render, plain, flattened, operands 2 ih]
  | alternation branches ih => rw [pieces, render, separated, operands 1 ih]
  | repeated body least most mode ih =>
      simp [pieces, render, plain, plain_append, plain_operandPieces, ih]
  | conditional target yes no offset yesIH noIH =>
      simp [pieces, render, plain, plain_append, plain_operandPieces, plain_otherwisePieces, yesIH,
        noIH]

theorem Fills.nothing (extended : Bool) (pieces : List Piece) :
    Fills extended pieces (plain pieces) := by
  induction pieces with
  | nil => exact .nil
  | cons piece pieces ih =>
      cases piece with
      | written text => exact .written text ih
      | gap => exact .gap (.inl rfl) ih

theorem Fills.append (fills : Fills extended (pieces ++ more) text) :
    ∃ front back,
      text = front ++ back ∧ Fills extended pieces front ∧ Fills extended more back := by
  induction pieces generalizing text with
  | nil => exact ⟨[], text, rfl, .nil, fills⟩
  | cons piece pieces ih =>
      cases fills with
      | written text fills =>
          obtain ⟨front, back, rfl, first, second⟩ := ih fills
          exact ⟨text ++ front, back, by simp, .written text first, second⟩
      | gap ignored fills =>
          obtain ⟨front, back, rfl, first, second⟩ := ih fills
          exact ⟨_ ++ front, back, by simp, .gap ignored first, second⟩

end Pieces

/-! ## What can be written -/

/-- The parentheses around a pattern in a place for tighter ones enclose those within it. -/
def operandNesting (least : Nat) (pattern : Pattern) (nesting : Nat) : Nat :=
  if least ≤ pattern.tightness then nesting else nesting + 1

mutual

/-- How deeply parentheses are nested in the text of a pattern. -/
def nesting : Pattern → Nat
  | .empty | .char _ | .assert _ | .backReference .. => 0
  | .group _ body | .lookAround _ _ body _ | .atomic body => nesting body + 1
  | .concat items => operandsNesting 2 items
  | .alternation branches => operandsNesting 1 branches
  | .repeated body _ _ _ => operandNesting 3 body (nesting body)
  | .conditional _ yes no _ =>
      max (operandNesting 1 yes (nesting yes)) (operandNesting 1 no (nesting no)) + 1

def operandsNesting (least : Nat) : List Pattern → Nat
  | [] => 0
  | pattern :: patterns =>
      max (operandNesting least pattern (nesting pattern)) (operandsNesting least patterns)

end

/-- What is required of each part of a pattern that is to be written.  There is nothing to write
that would give another matcher or assertion while the flags are those by default, and nothing that
would let a reference ignore case. -/
def Writable : Pattern → Prop
  | .empty | .group .. | .lookAround .. | .atomic _ => True
  | .char (.char _) | .char .anyExceptNewline => True
  | .char .any | .char (.charIgnoringCase _) | .char (.set _) => False
  | .assert assertion => (assertion? assertion).isSome
  | .concat patterns | .alternation patterns => 2 ≤ patterns.length
  | .repeated _ least most _ => Repeatable least most
  | .backReference (.number number) ignoresCase _ => Referable number ∧ ignoresCase = false
  | .conditional (.number number) _ _ _ => Referable number
  | .backReference (.name _) _ _ | .conditional (.name _) _ _ _ => False

/-- A pattern that can be written so that it is read back. -/
structure Printable (pattern : Pattern) : Prop where
  writable : pattern.Throughout Writable
  numbered : pattern.groups = List.range' 1 pattern.groups.length
  nesting_le : pattern.nesting ≤ Reader.nestingLimit

/-! ## What is written spells the pattern -/

/-- A text spells a pattern that is so tight at least. -/
def SpeltAs (extended : Bool) (depth : Nat) (pattern : Pattern) (text : List Char) :
    (least : Nat) → Prop
  | 0 => pattern.SpeltWithin extended depth text
  | 1 => Sequence extended (Enclosed extended depth) pattern text
  | 2 => Item extended (Enclosed extended depth) pattern text
  | _ => Atom (Enclosed extended depth) pattern text

section Spelt

variable {extended : Bool} {depth least : Nat} {pattern : Pattern} {patterns : List Pattern}
  {pieces : List Piece} {text : List Char}

/-- Whatever pieces are filled with, they spell a pattern that is so tight at least. -/
def PiecesSpell (extended : Bool) (depth : Nat) (pattern : Pattern) (pieces : List Piece)
    (least : Nat) : Prop :=
  ∀ text, Fills extended pieces text → SpeltAs extended depth pattern text least

/-- A pattern is spelt by its pieces, if parentheses may be nested so deeply. -/
def SpeltByPieces (extended : Bool) (pattern : Pattern) : Prop :=
  ∀ depth, pattern.nesting ≤ depth →
    PiecesSpell extended depth pattern pattern.pieces pattern.tightness

theorem tightness_le (pattern : Pattern) : pattern.tightness ≤ 3 := by
  cases pattern <;> simp [tightness]

theorem PiecesSpell.item {most : Nat} (spell : PiecesSpell extended depth pattern pieces most)
    (tight : 2 ≤ most) : PiecesSpell extended depth pattern pieces 2 := by
  intro text fills
  obtain _ | _ | _ | most := most
  · simp at tight
  · simp at tight
  · exact spell text fills
  · exact .atom (spell text fills)

/-- A single item is a sequence together with what is in the gaps around it. -/
theorem PiecesSpell.spaced (spell : PiecesSpell extended depth pattern pieces 2) :
    PiecesSpell extended depth pattern (spaced pieces) 1 := by
  rintro text (_ | _ | ⟨ignored, fills⟩)
  obtain ⟨front, back, rfl, fillsItem, fillsGap⟩ := fills.append
  obtain _ | _ | ⟨ignoredBehind, fillsNothing⟩ := fillsGap
  cases fillsNothing
  have items := Items.cons (spell front fillsItem) ignoredBehind .nil
  rw [List.append_assoc] at items
  exact .mk ignored items

theorem PiecesSpell.sequence (spell : PiecesSpell extended depth pattern pieces pattern.tightness)
    (tight : 1 ≤ pattern.tightness) :
    PiecesSpell extended depth pattern (branchPieces pattern pieces) 1 := by
  rw [branchPieces]
  split
  case isTrue single => exact (spell.item single).spaced
  case isFalse several =>
    have exactly : pattern.tightness = 1 := by omega
    rwa [exactly] at spell

theorem PiecesSpell.branches
    (spell : PiecesSpell extended depth pattern pieces pattern.tightness) :
    PiecesSpell extended depth pattern (branchPieces pattern pieces) 0 := by
  by_cases tight : 1 ≤ pattern.tightness
  case pos =>
    intro text fills
    exact ⟨[pattern], rfl, .one (spell.sequence tight text fills)⟩
  case neg =>
    have loose : pattern.tightness = 0 := by omega
    have same : branchPieces pattern pieces = pieces := if_neg (by omega)
    rw [same]
    rwa [loose] at spell

theorem Fills.encloses
    (spell : ∀ depth, pattern.nesting ≤ depth →
      PiecesSpell extended depth pattern pieces pattern.tightness)
    (deep : pattern.nesting + 1 ≤ depth) {opening : List Char}
    (fills : Fills extended (enclosedPieces opening pattern pieces) text) :
    ∃ branches inner, pattern = choice branches ∧ Enclosed extended depth branches inner ∧
      text = opening ++ (inner ++ [')']) := by
  obtain _ | depth := depth
  · simp at deep
  obtain _ | ⟨_, fills⟩ := fills
  obtain ⟨inner, back, rfl, fillsInner, fillsEnd⟩ := fills.append
  obtain _ | ⟨_, fillsNothing⟩ := fillsEnd
  cases fillsNothing
  obtain ⟨branches, same, encloses⟩ :=
    (spell depth (Nat.le_of_succ_le_succ deep)).branches inner fillsInner
  exact ⟨branches, inner, same, encloses, by simp⟩

/-- Whatever pieces spell, they spell an atom between parentheses. -/
theorem spelt_enclosedPieces
    (spell : ∀ depth, pattern.nesting ≤ depth →
      PiecesSpell extended depth pattern pieces pattern.tightness)
    (deep : pattern.nesting + 1 ≤ depth) :
    PiecesSpell extended depth pattern (enclosedPieces ['(', '?', ':'] pattern pieces) 3 := by
  intro text fills
  obtain ⟨branches, inner, rfl, encloses, rfl⟩ := fills.encloses spell deep
  exact Atom.enclosed Opening.plain encloses

theorem spelt_operandPieces
    (spell : ∀ depth, pattern.nesting ≤ depth →
      PiecesSpell extended depth pattern pieces pattern.tightness)
    (deep : operandNesting least pattern pattern.nesting ≤ depth) (positive : 1 ≤ least)
    (le : least ≤ 3) :
    PiecesSpell extended depth pattern (operandPieces least pattern pieces) least := by
  rw [operandNesting] at deep
  rw [operandPieces]
  split at deep
  case isTrue tight =>
    have known := spell depth deep
    rw [if_pos tight]
    obtain _ | _ | _ | _ | least := least
    · simp at positive
    · exact known.sequence tight
    · exact known.item tight
    · have exactly : pattern.tightness = 3 := Nat.le_antisymm (tightness_le pattern) tight
      rwa [exactly] at known
    · omega
  case isFalse loose =>
    have atom := spelt_enclosedPieces spell deep
    rw [if_neg loose]
    obtain _ | _ | _ | _ | least := least
    · simp at positive
    · exact (atom.item (by decide)).spaced
    · exact atom.item (by decide)
    · exact atom
    · omega

/-- Each pattern of a list is spelt by its pieces. -/
def AllSpelt (extended : Bool) (patterns : List Pattern) : Prop :=
  ∀ pattern ∈ patterns, pattern.SpeltByPieces extended

theorem items_spelt (known : AllSpelt extended patterns)
    (deep : operandsNesting 2 patterns ≤ depth)
    (fills : Fills extended ((piecesOfOperands 2 patterns).flatMap (· ++ [.gap])) text) :
    Items extended (Enclosed extended depth) patterns text := by
  induction patterns generalizing text with
  | nil =>
      cases fills
      exact .nil
  | cons item items ih =>
      rw [operandsNesting, Nat.max_le] at deep
      rw [piecesOfOperands, List.flatMap_cons, List.append_assoc] at fills
      obtain ⟨first, behind, rfl, fillsFirst, fillsBehind⟩ := fills.append
      obtain _ | _ | ⟨ignored, fillsRest⟩ := fillsBehind
      have spelt := spelt_operandPieces (known item (by simp)) deep.1 (by decide) (by decide)
      have rest := ih (fun other member => known other (by simp [member])) deep.2 fillsRest
      rw [← List.append_assoc]
      exact .cons (spelt first fillsFirst) ignored rest

theorem branches_spelt (known : AllSpelt extended patterns)
    (deep : operandsNesting 1 patterns ≤ depth) (some : patterns ≠ [])
    (fills : Fills extended ([.written ['|']].intercalate (piecesOfOperands 1 patterns)) text) :
    Branches extended (Enclosed extended depth) patterns text := by
  induction patterns generalizing text with
  | nil => contradiction
  | cons branch branches ih =>
      rw [operandsNesting, Nat.max_le] at deep
      have spelt := spelt_operandPieces (known branch (by simp)) deep.1 (by decide) (by decide)
      cases branches with
      | nil =>
          rw [piecesOfOperands, piecesOfOperands, List.intercalate_singleton] at fills
          exact .one (spelt text fills)
      | cons second others =>
          simp only [piecesOfOperands, List.intercalate_cons_cons, List.append_assoc] at fills
          obtain ⟨first, behind, rfl, fillsFirst, fillsBehind⟩ := fills.append
          obtain _ | ⟨_, fillsRest⟩ := fillsBehind
          have rest := ih (fun other member => known other (by simp [member])) deep.2 (by simp)
            fillsRest
          exact .more (spelt first fillsFirst) rest

theorem bounds_boundsText (least : Nat) (most : Option Nat) :
    Bounds least most (boundsText least most) := by
  cases most with
  | none => exact .atLeast least
  | some most =>
      rw [boundsText]
      split
      · next same =>
          subst same
          exact .exactly most
      · exact .between least most

theorem Fills.written_eq {written : List Char} (fills : Fills extended [.written written] text) :
    text = written := by
  obtain _ | ⟨_, fillsNothing⟩ := fills
  cases fillsNothing
  exact List.append_nil written

/-- A pattern that can be written is spelt by its pieces, whatever is in the gaps. -/
theorem spelt_pieces (writable : pattern.Throughout Writable) : pattern.SpeltByPieces extended := by
  induction pattern with
  | empty =>
      rintro depth - text (_ | _ | ⟨ignored, fillsNothing⟩)
      cases fillsNothing
      exact .mk ignored .nil
  | char matcher =>
      intro depth deep text fills
      rw [fills.written_eq]
      cases matcher with
      | char character =>
          show Atom _ _ (if isOrdinary character then [character] else ['\\', character])
          split
          · next ordinary => exact .ordinary ordinary
          · next special => exact .escaped (Bool.eq_false_iff.mpr special)
      | anyExceptNewline => exact Atom.dot
      | _ => exact writable.self.elim
  | assert assertion =>
      intro depth deep text fills
      obtain ⟨written, spelt⟩ := Option.isSome_iff_exists.mp writable.self
      rw [fills.written_eq, spelt]
      exact .atom (.assertion spelt)
  | group index body ih =>
      intro depth deep text fills
      obtain ⟨branches, inner, rfl, encloses, rfl⟩ := Fills.encloses (ih writable.group) deep fills
      exact Atom.group index encloses
  | concat items ih =>
      intro depth deep text fills
      have several : 2 ≤ items.length := writable.self
      have known : AllSpelt extended items := fun item member => ih item member
        (writable.item member)
      obtain _ | _ | ⟨ignored, fillsItems⟩ := fills
      have whole := Sequence.mk ignored (items_spelt known deep fillsItems)
      obtain _ | ⟨first, _ | ⟨second, rest⟩⟩ := items
      · simp at several
      · simp at several
      · exact whole
  | alternation branches ih =>
      intro depth deep text fills
      have several : 2 ≤ branches.length := writable.self
      have known : AllSpelt extended branches := fun branch member => ih branch member
        (writable.branch member)
      have spelt := branches_spelt known deep (List.ne_nil_of_length_pos (by omega)) fills
      refine ⟨branches, ?_, spelt⟩
      obtain _ | ⟨first, _ | ⟨second, rest⟩⟩ := branches
      · simp at several
      · simp at several
      · rfl
  | repeated body least most mode ih =>
      intro depth deep text fills
      obtain ⟨atomText, behind, rfl, fillsAtom, fillsBehind⟩ := fills.append
      obtain _ | _ | ⟨ignored, fillsBounds⟩ := fillsBehind
      have atom : SpeltAs extended depth body atomText 3 :=
        spelt_operandPieces (ih writable.repeated) deep (by decide) (Nat.le_refl 3) _ fillsAtom
      have repeatable (assertion : Assertion) (asserts : body = .assert assertion) :
          atomText.head? = some '(' := by
        subst asserts
        obtain _ | ⟨_, fillsBody⟩ := fillsAtom
        rfl
      have item := Item.repeated atom repeatable ignored writable.self
        (bounds_boundsText least most) mode
      rwa [List.append_assoc, ← fillsBounds.written_eq] at item
  | lookAround direction negated body offset ih =>
      intro depth deep text fills
      obtain ⟨branches, inner, rfl, encloses, rfl⟩ :=
        Fills.encloses (ih writable.lookAround) deep fills
      have atom := Atom.enclosed (.lookAround direction negated offset) encloses
      rwa [List.append_assoc] at atom
  | atomic body ih =>
      intro depth deep text fills
      obtain ⟨branches, inner, rfl, encloses, rfl⟩ := Fills.encloses (ih writable.atomic) deep fills
      exact Atom.enclosed .atomic encloses
  | backReference target ignoresCase offset =>
      intro depth deep text fills
      rw [fills.written_eq]
      have known := writable.self
      cases target with
      | number number =>
          obtain ⟨referable, rfl⟩ := known
          exact Atom.backReference referable offset
      | name name => exact known.elim
  | conditional target yes no offset yesIH noIH =>
      intro depth deep text fills
      have known := writable.self
      obtain _ | depth := depth
      · simp [nesting] at deep
      rw [nesting, Nat.add_le_add_iff_right, Nat.max_le] at deep
      have first := spelt_operandPieces (yesIH writable.yes) deep.1 (by decide) (by decide)
      have second := spelt_operandPieces (noIH writable.no) deep.2 (by decide) (by decide)
      obtain _ | ⟨_, fills⟩ := fills
      obtain ⟨inner, ending, rfl, fillsInner, fillsEnd⟩ := fills.append
      obtain ⟨yesText, otherwise, rfl, fillsYes, fillsOtherwise⟩ := fillsInner.append
      obtain rfl := fillsEnd.written_eq
      cases target with
      | number number =>
          have opens (rest : List Char) : '(' :: '?' :: '(' :: (digits number ++ [')']) ++ rest =
              '(' :: '?' :: '(' :: (digits number ++ ')' :: rest) := by simp
          rw [targetText, opens]
          cases no
          case empty =>
            cases fillsOtherwise
            have encloses : Enclosed extended (depth + 1) [yes] _ := .one (first _ fillsYes)
            rw [List.append_nil]
            exact Atom.oneBranch known offset encloses
          all_goals
            obtain _ | ⟨_, fillsNo⟩ := fillsOtherwise
            have encloses : Enclosed extended (depth + 1) [yes, _] _ :=
              .more (first _ fillsYes) (.one (second _ fillsNo))
            exact Atom.twoBranches known offset encloses
      | name name => exact known.elim

/-- The pieces of the text of a pattern, with gaps at both ends of it. -/
def textPieces (pattern : Pattern) : List Piece := branchPieces pattern pattern.pieces

theorem plain_textPieces (pattern : Pattern) : plain pattern.textPieces = pattern.render := by
  rw [textPieces, plain_branchPieces, plain_pieces]

/-- A pattern that can be written is spelt by its text, whatever is in the gaps. -/
theorem Fills.spells (writable : pattern.Throughout Writable) (deep : pattern.nesting ≤ depth)
    (fills : Fills extended pattern.textPieces text) : pattern.SpeltWithin extended depth text :=
  PiecesSpell.branches (spelt_pieces writable depth deep) text fills

theorem spelt_render (writable : pattern.Throughout Writable) (deep : pattern.nesting ≤ depth) :
    pattern.SpeltWithin extended depth pattern.render := by
  rw [← plain_textPieces]
  exact (Fills.nothing extended _).spells writable deep

end Spelt

example : (Pattern.repeated (.concat [.char (.char 'a'), .char (.char '.')]) 2 none .lazy).render =
    ['(', '?', ':', 'a', '\\', '.', ')', '{', '2', ',', '}', '?'] := rfl

/-! ## What is written is read back -/

/-- A text is read as a pattern, up to the places where the parts of it were written, and with as
many groups. -/
def ReadFrom (pattern : Pattern) (text : List Char) : Prop :=
  ∃ parsed, ParsedPattern.parse text {} = .ok parsed ∧
    parsed.pattern.withoutOffsets = pattern.withoutOffsets ∧
    parsed.groupCount = pattern.groups.length

/-- Reading undoes writing.  A text that is written in another way is read back as well, with
parentheses that could be left out or with an empty second branch. -/
theorem Printable.readFrom_render {pattern : Pattern} (printable : pattern.Printable) :
    pattern.ReadFrom pattern.render ∧
      ∀ text, pattern.SpeltWithin false Reader.nestingLimit text → pattern.ReadFrom text := by
  have reads (text : List Char) (spells : pattern.SpeltWithin false Reader.nestingLimit text) :
      pattern.ReadFrom text := by
    obtain ⟨parsed, runs, same, names⟩ :=
      ParsedPattern.parseWithin_spelling spells printable.numbered
    exact ⟨parsed, runs, same, by simp [ParsedPattern.groupCount, names]⟩
  have spells : pattern.SpeltWithin false Reader.nestingLimit pattern.render :=
    spelt_render printable.writable printable.nesting_le
  exact ⟨reads _ spells, reads⟩

theorem readFrom_nested_conditional :
    (Pattern.concat
      [.group 1 (.alternation [.concat [.char (.char 'a'), .char (.char '{')], .empty]),
        .repeated (.assert .startOfInput) 0 (some 2) .lazy,
        .lookAround .behind true (.char .anyExceptNewline) 0,
        .conditional (.number 1) (.alternation [.backReference (.number 12) false 0, .empty]) .empty
          0,
        .repeated (.atomic (.group 2 .empty)) 3 none .possessive]).ReadFrom
      ['(', 'a', '\\', '{', '|', ')', '(', '?', ':', '^', ')', '{', '0', ',', '2', '}', '?',
        '(', '?', '<', '!', '.', ')', '(', '?', '(', '1', ')', '(', '?', ':',
        '\\', 'g', '{', '1', '2', '}', '|', ')', ')',
        '(', '?', '>', '(', ')', ')', '{', '3', ',', '}', '+'] ∧
    (Pattern.conditional (.number 1) (.char (.char 'a')) .empty 0).ReadFrom
      ['(', '?', '(', '1', ')', '(', '?', ':', 'a', ')', '|', ')'] := by
  have referable {number : Nat} (positive : 1 ≤ number) (small : number ≤ 99) : Referable number :=
    ⟨positive, Nat.le_trans small (by decide)⟩
  constructor
  · apply (Printable.readFrom_render _).1
    constructor
    · simp [Throughout, parts, partsOfAll, Writable, assertion?, Repeatable,
        Reader.greatestRepetition, referable]
    · rfl
    · decide
  · have sequence {depth : Nat} {item : Pattern} {text : List Char}
        (spells : Atom (Enclosed false depth) item text) :
        Sequence false (Enclosed false depth) item (text ++ [] ++ []) :=
      .mk (.inl rfl) (.cons (.atom spells) (.inl rfl) .nil)
    have literal : Atom (Enclosed false 248) (.char (.char 'a')) ['a'] := .ordinary rfl
    have body : Enclosed false 249 [.char (.char 'a')] ['a'] := Branches.one (sequence literal)
    have first : Atom (Enclosed false 249) (.char (.char 'a')) ['(', '?', ':', 'a', ')'] :=
      Atom.enclosed .plain body
    have second : Sequence false (Enclosed false 249) .empty [] := .mk (.inl rfl) .nil
    have halves : Enclosed false 250 [.char (.char 'a'), .empty]
        ['(', '?', ':', 'a', ')', '|'] := Branches.more (sequence first) (.one second)
    have whole := Atom.twoBranches (referable (Nat.le_refl 1) (by decide)) 0 halves
    apply (Printable.readFrom_render _).2
    · exact ⟨[_], rfl, .one (sequence whole)⟩
    · constructor
      · simp [Throughout, parts, Writable, referable]
      · rfl
      · decide

end Pattern

end Backtracking
