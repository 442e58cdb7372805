import Backtracking.Proofs.Rendering

/-!
# Texts of extended patterns

An extended pattern may hold blanks and comments in the gaps between the pieces of its text: in
front of the items of a sequence, behind the last one of them, and in front of quantifiers.  They
make no difference to what is read.
-/

namespace Backtracking

open Spelling Reading

namespace Pattern

/-- Two texts, each of them under some flags, are read as one pattern, up to the places where the
parts of it were written, and with as many groups. -/
def ReadAlike (text : List Char) (flags : Flags) (textToo : List Char) (flagsToo : Flags) : Prop :=
  ∃ parsed parsedToo, ParsedPattern.parse text flags = .ok parsed ∧
    ParsedPattern.parse textToo flagsToo = .ok parsedToo ∧
    parsed.pattern.withoutOffsets = parsedToo.pattern.withoutOffsets ∧
    parsed.groupCount = parsedToo.groupCount

/-- Texts that spell one pattern are read alike, whether they are extended or not. -/
theorem readAlike_of_spelt {pattern : Pattern} (printable : pattern.Printable)
    {extended extendedToo : Bool} {text textToo : List Char}
    (spells : pattern.SpeltWithin extended Reader.nestingLimit text)
    (spellsToo : pattern.SpeltWithin extendedToo Reader.nestingLimit textToo) :
    ReadAlike text { extended := extended } textToo { extended := extendedToo } := by
  obtain ⟨parsed, runs, same, names⟩ :=
    ParsedPattern.parseWithin_spelling spells printable.numbered
  obtain ⟨parsedToo, runsToo, sameToo, namesToo⟩ :=
    ParsedPattern.parseWithin_spelling spellsToo printable.numbered
  refine ⟨parsed, parsedToo, runs, runsToo, same.trans sameToo.symm, ?_⟩
  rw [ParsedPattern.groupCount, ParsedPattern.groupCount, names, namesToo]

/-- Whatever blanks and comments fill the gaps in the text of a pattern, as an extended pattern it
is read like the text without them.  The same holds of all texts that spell the pattern, with
parentheses that could be left out or with an empty second branch. -/
theorem Printable.readAlike_filled {pattern : Pattern} (printable : pattern.Printable) :
    (∀ text, Fills true pattern.textPieces text → ∀ extended,
      ReadAlike text { extended := true } pattern.render { extended := extended }) ∧
    ∀ text textToo, pattern.SpeltWithin true Reader.nestingLimit text →
      pattern.SpeltWithin false Reader.nestingLimit textToo →
        ReadAlike text { extended := true } textToo {} := by
  constructor
  · intro text fills extended
    have spells := fills.spells printable.writable printable.nesting_le
    exact readAlike_of_spelt printable spells
      (spelt_render printable.writable printable.nesting_le)
  · intro text textToo spells spellsToo
    exact readAlike_of_spelt printable spells spellsToo

/-- The pattern `(a|b{2,}?)\#` with a comment, blanks and line ends. -/
theorem readAlike_commented :
    ReadAlike
      [' ', '(', 'a', ' ', '#', '|', ')', '\n', '|', '\t', 'b', '\n', '{', '2', ',', '}', '?', ' ',
        ')', '\\', '#', '\r']
      { extended := true }
      ['(', 'a', '|', 'b', '{', '2', ',', '}', '?', ')', '\\', '#'] {} := by
  have printable : Printable
      (.concat [.group 1 (.alternation [.char (.char 'a'),
        .repeated (.char (.char 'b')) 2 none .lazy]), .char (.char '#')]) := by
    constructor
    · simp [Throughout, parts, partsOfAll, Writable, Repeatable, Reader.greatestRepetition]
    · rfl
    · decide
  have blank (character : Char) (isBlank : Scan.isBlank character = true) :
      Gap true [character] :=
    .inr ⟨rfl, .blank isBlank .nil⟩
  have blanks : Spelling.Trivia ([' '] ++ '#' :: (['|', ')'] ++ '\n' :: [])) :=
    .blank rfl (.comment (by decide) .nil)
  have fills :=
    Fills.gap (blank ' ' rfl) <| .written ['('] <| .gap (.inl rfl) <| .written ['a'] <|
      .gap (.inr ⟨rfl, blanks⟩) <| .written ['|'] <| .gap (blank '\t' rfl) <| .written ['b'] <|
      .gap (blank '\n' rfl) <| .written ['{', '2', ',', '}', '?'] <| .gap (blank ' ' rfl) <|
      .written [')'] <| .gap (.inl rfl) <| .written ['\\', '#'] <| .gap (blank '\r' rfl) .nil
  exact (Printable.readAlike_filled printable).1 _ fills false

end Pattern

end Backtracking
