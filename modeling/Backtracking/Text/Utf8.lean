/-!
# UTF-8

A decoder takes one byte after another.  A byte that cannot go on the sequence before it, and the
end of the bytes, break that sequence off; a broken sequence stands for no character.  A byte that
breaks a sequence may begin the next one.
-/

namespace Backtracking

namespace Utf8

/-- A sequence that lacks bytes: the bits read so far, the number of bytes it lacks, and the least
and the greatest byte that may come next. -/
structure Sequence where
  bits : Nat
  lacking : Nat
  least : Nat
  greatest : Nat
deriving DecidableEq

/-- The sequence that a byte begins, other than the byte of an ASCII character.  The bounds of the
second byte leave out the longer forms of characters that have shorter ones, and the code points
that are not characters. -/
def Sequence.ofLead? (byte : Nat) : Option Sequence :=
  if byte < 0xC2 then none
  else if byte ≤ 0xDF then some ⟨byte - 0xC0, 1, 0x80, 0xBF⟩
  else if byte = 0xE0 then some ⟨0, 2, 0xA0, 0xBF⟩
  else if byte = 0xED then some ⟨0xD, 2, 0x80, 0x9F⟩
  else if byte ≤ 0xEF then some ⟨byte - 0xE0, 2, 0x80, 0xBF⟩
  else if byte = 0xF0 then some ⟨0, 3, 0x90, 0xBF⟩
  else if byte ≤ 0xF3 then some ⟨byte - 0xF0, 3, 0x80, 0xBF⟩
  else if byte = 0xF4 then some ⟨4, 3, 0x80, 0x8F⟩
  else none

/-- What a decoder has read: the characters, the last one first and `none` for each broken sequence,
and the sequence that is not complete yet. -/
structure Decoder where
  characters : List (Option Char) := []
  sequence? : Option Sequence := none
deriving DecidableEq

namespace Decoder

/-- Takes a byte that does not go on a sequence. -/
def begin (characters : List (Option Char)) (byte : Nat) : Decoder :=
  if byte < 0x80 then { characters := some (Char.ofNat byte) :: characters }
  else
    match Sequence.ofLead? byte with
    | some sequence => { characters := characters, sequence? := some sequence }
    | none => { characters := none :: characters }

def add (decoder : Decoder) (byte : UInt8) : Decoder :=
  let byte := byte.toNat
  match decoder.sequence? with
  | none => begin decoder.characters byte
  | some sequence =>
      if sequence.least ≤ byte && byte ≤ sequence.greatest then
        let bits := 64 * sequence.bits + (byte - 0x80)
        if sequence.lacking = 1 then
          { characters := some (Char.ofNat bits) :: decoder.characters }
        else
          { decoder with sequence? := some ⟨bits, sequence.lacking - 1, 0x80, 0xBF⟩ }
      else
        begin (none :: decoder.characters) byte

/-- The characters in their order, after the last byte. -/
def finish (decoder : Decoder) : List (Option Char) :=
  let broken := if decoder.sequence?.isSome then [none] else []
  (broken ++ decoder.characters).reverse

end Decoder

/-- The characters of some bytes, and `none` for each broken sequence. -/
def decodeEach (bytes : ByteArray) : List (Option Char) :=
  (bytes.toList.foldl Decoder.add {}).finish

/-- The characters of some bytes, unless a sequence is broken. -/
def decode? (bytes : ByteArray) : Option (List Char) := (decodeEach bytes).mapM id

/-- The characters of some bytes, with the replacement character for each broken sequence. -/
def decodeLossily (bytes : ByteArray) : List Char := (decodeEach bytes).map (·.getD '\uFFFD')

end Utf8

end Backtracking
