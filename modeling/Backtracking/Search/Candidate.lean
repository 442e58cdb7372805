import Backtracking.Pattern.Hints
import Backtracking.Subject

/-!
# Candidates

Whether a match may begin at a position, as far as the hints of a pattern tell.
-/

namespace Backtracking

/-- A sum of positions that is no machine word.  Where one is formed, the program stops: the call
that forms it gives no answer and leaves no state behind. -/
structure Overflow where
  sum : Nat
  beyond : Width.greatestWord < sum
deriving DecidableEq

/-- What hints say about a position: a match may begin there, none begins there, or none begins
there or anywhere behind. -/
inductive Candidate where
  | yes
  | no
  | never
deriving DecidableEq

namespace Hints

/-- The sum of a position and a least length, which has to be a machine word. -/
def reach (position length : Nat) : Except Overflow Nat :=
  if beyond : Width.greatestWord < position + length then .error ⟨position + length, beyond⟩
  else .ok (position + length)

/-- Whether the first character of a match may be a given one. -/
def admits (hints : Hints) (character : Char) : Bool :=
  hints.firstChar.all (· == character) &&
    hints.firstSet.all fun set => character.toNat ≥ 128 || set.contains character

def standsAt (subject : Subject) : List Char → (position : Nat) → Bool
  | [], _ => true
  | expected :: rest, position =>
      subject.char? position == some expected && standsAt subject rest (position + 1)

/-- What hints say about a position of a subject, for which the sum of the position and the least
length of a match is formed first. -/
def candidate (hints : Hints) (subject : Subject) (position : Nat) : Except Overflow Candidate :=
  (reach position hints.minLength).map fun reached =>
    if reached > subject.size || position + hints.leading.length > subject.size then .never
    else if hints.anchoredStart && position > 0 then .never
    else
      match subject.char? position with
      | some character =>
          if hints.admits character && standsAt subject hints.leading position then .yes else .no
      | none =>
          if hints.firstSet.isSome || hints.firstChar.isSome then .never
          else if standsAt subject hints.leading position then .yes
          else .no

theorem reach_of_le {position length : Nat} (fits : position + length ≤ Width.greatestWord) :
    reach position length = .ok (position + length) :=
  dif_neg (Nat.not_lt_of_le fits)

theorem candidate_of_lt {hints : Hints} {position : Nat}
    (beyond : Width.greatestWord < position + hints.minLength) (subject : Subject) :
    hints.candidate subject position = .error ⟨position + hints.minLength, beyond⟩ := by
  rw [candidate, reach, dif_pos beyond]
  rfl

theorem exists_candidate {hints : Hints} {position : Nat}
    (fits : position + hints.minLength ≤ Width.greatestWord) (subject : Subject) :
    ∃ candidate, hints.candidate subject position = .ok candidate := by
  rw [candidate, reach_of_le fits]
  exact ⟨_, rfl⟩

/-- The hints say something about a position only if their sum is a machine word. -/
theorem le_of_candidate {hints : Hints} {subject : Subject} {position : Nat}
    {candidate : Candidate} (said : hints.candidate subject position = .ok candidate) :
    position + hints.minLength ≤ Width.greatestWord := by
  refine Nat.le_of_not_lt fun beyond => ?_
  rw [candidate_of_lt beyond] at said
  cases said

end Hints

end Backtracking
