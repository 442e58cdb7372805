import Backtracking.Search.MatchState

/-!
# Successive matches

All matches of a regular expression in a subject, from a match state on.  Every search but the last
finds a match, and each search begins behind the position where the one before it began, so that
the characters that are left bound their number.  There are none if one of the searches overflows.
-/

namespace Backtracking

/-- The match states after the searches that found something, and the error of the search that was
given up, if one was. -/
structure MatchSequence where
  found : List MatchState
  error? : Option MatchError

namespace MatchSequence

def cons (state : MatchState) (sequence : MatchSequence) : MatchSequence :=
  { sequence with found := state :: sequence.found }

end MatchSequence

namespace MatchState

/-- The matches that at most `room` searches find. -/
def findUpTo (regexp : Regexp) (subject : Subject) :
    (room : Nat) → MatchState → Except Overflow MatchSequence
  | 0, _ => .ok ⟨[], none⟩
  | room + 1, state => do
      match ← state.find regexp subject with
      | (.error error, _) => return ⟨[], some error⟩
      | (.ok false, _) => return ⟨[], none⟩
      | (.ok true, next) => return (← findUpTo regexp subject room next).cons next

def findAll (regexp : Regexp) (subject : Subject) (state : MatchState) :
    Except Overflow MatchSequence :=
  findUpTo regexp subject (subject.size + 2 - state.origin) state

end MatchState

def Regexp.findAll (regexp : Regexp) (subject : Subject) : Except Overflow MatchSequence :=
  MatchState.findAll regexp subject (.initial regexp)

end Backtracking
