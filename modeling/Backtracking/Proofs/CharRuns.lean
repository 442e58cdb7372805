import Backtracking.Proofs.OutcomeBounds
import Backtracking.Search.Attempt

/-!
# Runs of characters

A repetition of one character takes a run of characters.  The longest run is found by counting, and
the outcomes are all runs between the least number and the longest one: the longest first if the
repetition is greedy, the shortest first if it is lazy, and the longest only if it is possessive.
-/

namespace Backtracking

/-- The number of characters that a repetition at a position may take at most. -/
def Subject.roomFor (subject : Subject) (most : Option Nat) (position : Nat) : Nat :=
  (most.map (min (subject.size - position) ·)).getD (subject.size - position)

namespace Subject

variable {subject : Subject} {matcher : CharMatcher} {most : Option Nat} {position count : Nat}

theorem countAccepted_ge (subject : Subject) (matcher : CharMatcher) (position room count : Nat) :
    count ≤ subject.countAccepted matcher position room count := by
  induction room generalizing count with
  | zero => exact Nat.le_refl _
  | succ room ih =>
      rw [countAccepted]
      split
      · have further := ih (count + 1)
        omega
      · exact Nat.le_refl _

theorem countAccepted_le (subject : Subject) (matcher : CharMatcher) (position room count : Nat) :
    subject.countAccepted matcher position room count ≤ count + room := by
  induction room generalizing count with
  | zero => exact Nat.le_refl _
  | succ room ih =>
      rw [countAccepted]
      split
      · have further := ih (count + 1)
        omega
      · omega

theorem roomFor_le (subject : Subject) (most : Option Nat) (position : Nat) :
    subject.roomFor most position ≤ subject.size - position := by
  cases most with
  | none => exact Nat.le_refl _
  | some bound => exact Nat.min_le_left _ _

/-- Counting can be interrupted. -/
theorem countAccepted_add (subject : Subject) (matcher : CharMatcher)
    (position first more count : Nat) :
    subject.countAccepted matcher position (first + more) count =
      if subject.countAccepted matcher position first count = count + first then
        subject.countAccepted matcher position more (count + first)
      else subject.countAccepted matcher position first count := by
  induction first generalizing count with
  | zero => simp [countAccepted]
  | succ first ih =>
      rw [Nat.add_right_comm, countAccepted, countAccepted]
      split
      · rw [ih, show count + 1 + first = count + (first + 1) by omega]
      · rw [if_neg (by omega)]

theorem lt_roomFor (accepted : subject.acceptsAt matcher (position + count) = true)
    (allowed : most.all (count < ·) = true) : count < subject.roomFor most position := by
  have inside := lt_size_of_acceptsAt accepted
  cases most with
  | none =>
      simp only [roomFor, Option.map_none, Option.getD_none]
      omega
  | some bound =>
      have below : count < bound := by simpa using allowed
      simp only [roomFor, Option.map_some, Option.getD_some]
      omega

theorem countAccepted_of_accepted (accepted : subject.acceptsAt matcher (position + count) = true)
    (allowed : most.all (count < ·) = true) :
    subject.countAccepted matcher position (subject.roomFor most position - count) count =
      subject.countAccepted matcher position (subject.roomFor most position - (count + 1))
        (count + 1) := by
  have room := lt_roomFor accepted allowed
  rw [show subject.roomFor most position - count =
    subject.roomFor most position - (count + 1) + 1 by omega, countAccepted, if_pos accepted]

theorem countAccepted_of_refused (refused : ¬ subject.acceptsAt matcher (position + count) = true)
    (room : Nat) : subject.countAccepted matcher position room count = count := by
  cases room with
  | zero => rfl
  | succ room => rw [countAccepted, if_neg refused]

theorem roomFor_le_of_full (full : ¬ most.all (count < ·) = true) :
    subject.roomFor most position ≤ count := by
  cases most with
  | none => simp at full
  | some bound =>
      have above : bound ≤ count := by simpa using full
      exact Nat.le_trans (Nat.min_le_right _ _) above

theorem countAccepted_of_exhausted (exhausted : ¬ most.all (count < ·) = true) :
    subject.countAccepted matcher position (subject.roomFor most position - count) count =
      count := by
  rw [Nat.sub_eq_zero_of_le (roomFor_le_of_full exhausted), countAccepted]

theorem accepts_of_lt_countAccepted {room count taken : Nat} (counted : count ≤ taken)
    (below : taken < subject.countAccepted matcher position room count) :
    subject.acceptsAt matcher (position + taken) = true := by
  induction room generalizing count with
  | zero => exact absurd below (Nat.not_lt_of_le counted)
  | succ room ih =>
      rw [countAccepted] at below
      split at below
      · next accepted =>
          rcases Nat.lt_or_eq_of_le counted with later | rfl
          · exact ih later below
          · exact accepted
      · exact absurd below (Nat.not_lt_of_le counted)

/-- Counting goes on as long as characters are accepted. -/
theorem countAccepted_of_forall {room count : Nat}
    (accepted : ∀ taken < room, subject.acceptsAt matcher (position + (count + taken)) = true) :
    subject.countAccepted matcher position room count = count + room := by
  induction room generalizing count with
  | zero => rfl
  | succ room ih =>
      have now : subject.acceptsAt matcher (position + count) = true :=
        accepted 0 (Nat.succ_pos room)
      rw [countAccepted, if_pos now, ih fun taken below => ?_]
      · omega
      · rw [show count + 1 + taken = count + (taken + 1) by omega]
        exact accepted (taken + 1) (Nat.succ_lt_succ below)

/-- The longest run is counted from the least number on, if that many characters are accepted. -/
theorem countAccepted_from_least {least : Nat}
    (ordered : ∀ bound, most = some bound → least ≤ bound)
    (accepted : ∀ taken < least, subject.acceptsAt matcher (position + taken) = true) :
    subject.countAccepted matcher position (subject.roomFor most position) 0 =
      subject.countAccepted matcher position (subject.roomFor most position - least) least := by
  suffices interrupted : ∀ count ≤ least,
      subject.countAccepted matcher position (subject.roomFor most position) 0 =
        subject.countAccepted matcher position (subject.roomFor most position - count) count from
    interrupted least (Nat.le_refl least)
  intro count countLe
  induction count with
  | zero => rfl
  | succ count ih =>
      have allowed : most.all (count < ·) = true := by
        cases most with
        | none => rfl
        | some bound => simpa using Nat.lt_of_lt_of_le countLe (ordered bound rfl)
      rw [ih (Nat.le_of_succ_le countLe),
        countAccepted_of_accepted (accepted count countLe) allowed]

/-- The longest run reaches the least number if and only if that many characters are accepted. -/
theorem least_le_countAccepted_iff {least : Nat}
    (ordered : ∀ bound, most = some bound → least ≤ bound) :
    least ≤ subject.countAccepted matcher position (subject.roomFor most position) 0 ↔
      ∀ taken < least, subject.acceptsAt matcher (position + taken) = true := by
  refine ⟨fun long taken below =>
    accepts_of_lt_countAccepted (Nat.zero_le taken) (Nat.lt_of_lt_of_le below long),
    fun accepted => ?_⟩
  rw [countAccepted_from_least ordered accepted]
  exact countAccepted_ge ..

/-- What is asked before the shortest run is tried: whether that many characters are accepted. -/
theorem least_fits_iff {least : Nat} (ordered : ∀ bound, most = some bound → least ≤ bound) :
    (least ≤ subject.roomFor most position ∧
        subject.countAccepted matcher position least 0 = least) ↔
      ∀ taken < least, subject.acceptsAt matcher (position + taken) = true := by
  constructor
  · rintro ⟨-, counted⟩ taken below
    exact accepts_of_lt_countAccepted (Nat.zero_le taken) (counted.symm ▸ below)
  · intro accepted
    have long := (least_le_countAccepted_iff ordered).mpr accepted
    have room := subject.countAccepted_le matcher position (subject.roomFor most position) 0
    refine ⟨by omega, ?_⟩
    rw [countAccepted_of_forall fun taken below => by simpa using accepted taken below,
      Nat.zero_add]

end Subject

namespace Matching

/-- Runs of some numbers of characters. -/
def runs (counts : List Nat) : Matching := fun position captured =>
  counts.map fun count => ⟨position + count, captured⟩

/-- The numbers of characters between two bounds, in the order in which a repetition tries them. -/
def countsBetween (greedy : Bool) (least longest : Nat) : List Nat :=
  let ascending := List.range' least (longest + 1 - least)
  if greedy then ascending.reverse else ascending

variable {subject : Subject} {matcher : CharMatcher} {greedy : Bool} {least : Nat}
  {most : Option Nat} {position : Nat} {captured : Captured}

theorem countsBetween_of_lt {longest : Nat} (short : longest < least) :
    countsBetween greedy least longest = [] := by
  simp [countsBetween, Nat.sub_eq_zero_of_le short]

theorem countsBetween_self (greedy : Bool) (count : Nat) :
    countsBetween greedy count count = [count] := by
  cases greedy <;> simp [countsBetween]

/-- The least number comes last if more is preferred, and first otherwise. -/
theorem countsBetween_of_le {longest : Nat} (greedy : Bool) (long : least ≤ longest) :
    countsBetween greedy least longest =
      if greedy then countsBetween greedy (least + 1) longest ++ [least]
      else least :: countsBetween greedy (least + 1) longest := by
  have split : List.range' least (longest + 1 - least) =
      least :: List.range' (least + 1) (longest + 1 - (least + 1)) := by
    rw [show longest + 1 - least = longest + 1 - (least + 1) + 1 by omega, List.range'_succ]
  cases greedy <;> simp [countsBetween, split]

/-- The greatest number comes first if more is preferred. -/
theorem countsBetween_greedy_succ {longest : Nat} (long : least ≤ longest + 1) :
    countsBetween true least (longest + 1) = (longest + 1) :: countsBetween true least longest := by
  have split : List.range' least (longest + 1 + 1 - least) =
      List.range' least (longest + 1 - least) ++ [longest + 1] := by
    rw [show longest + 1 + 1 - least = longest + 1 - least + 1 by omega, List.range'_1_concat]
    congr 2
    omega
  simp [countsBetween, split]

theorem iterations_char (ordered : ∀ bound, most = some bound → least ≤ bound)
    {rounds count : Nat} {start : Option Nat}
    (enough : roundsLeft subject.size least count start (position + count) < rounds)
    (moved : start ≠ some (position + count)) (inside : position + count ≤ subject.size) :
    iterations (char subject matcher) greedy least most rounds count start (position + count)
        captured =
      runs (countsBetween greedy (max count least) (subject.countAccepted matcher position
        (subject.roomFor most position - count) count)) position captured := by
  induction rounds generalizing count start with
  | zero => omega
  | succ rounds ih =>
      have taken (accepted : subject.acceptsAt matcher (position + count) = true)
          (allowed : most.all (count < ·) = true) :
          andThen (char subject matcher)
              (iterations (char subject matcher) greedy least most rounds (count + 1)
                (some (position + count))) (position + count) captured =
            runs (countsBetween greedy (max (count + 1) least) (subject.countAccepted matcher
              position (subject.roomFor most position - count) count)) position captured := by
        have before := Subject.lt_size_of_acceptsAt accepted
        have fewer : roundsLeft subject.size least (count + 1) (some (position + count))
            (position + count + 1) < roundsLeft subject.size least count start (position + count) :=
          roundsLeft_lt (.inr moved) (Nat.le_succ _) before
        rw [andThen, char, if_pos accepted, List.flatMap_singleton,
          Subject.countAccepted_of_accepted accepted allowed]
        exact ih (Nat.lt_of_lt_of_le fewer (Nat.le_of_lt_succ enough)) (by simp) before
      have refused (stops : ¬ subject.acceptsAt matcher (position + count) = true) :
          andThen (char subject matcher)
              (iterations (char subject matcher) greedy least most rounds (count + 1)
                (some (position + count))) (position + count) captured = [] := by
        rw [andThen, char, if_neg stops, List.flatMap_nil]
      have counted := Subject.countAccepted_ge subject matcher position
        (subject.roomFor most position - count) count
      simp only [iterations]
      split
      · next forced =>
          by_cases accepted : subject.acceptsAt matcher (position + count) = true
          · have allowed : most.all (count < ·) = true := by
              cases most with
              | none => rfl
              | some bound => simpa using Nat.lt_of_lt_of_le forced (ordered bound rfl)
            rw [taken accepted allowed, Nat.max_eq_right forced,
              Nat.max_eq_right (Nat.le_of_lt forced)]
          · rw [refused accepted, Subject.countAccepted_of_refused accepted,
              countsBetween_of_lt (by omega)]
            rfl
      next free =>
      rw [Nat.max_eq_left (by omega)]
      split
      · next exhausted =>
          have full : ¬ most.all (count < ·) = true := by
            simpa [moved] using exhausted
          rw [Subject.countAccepted_of_exhausted full, countsBetween_self]
          rfl
      · next offered =>
          have allowed : most.all (count < ·) = true := by
            simp only [Bool.not_eq_true, Bool.not_eq_false', Bool.and_eq_true] at offered
            exact offered.1
          rw [countsBetween_of_le greedy counted]
          by_cases accepted : subject.acceptsAt matcher (position + count) = true
          · have again := taken accepted allowed
            rw [Nat.max_eq_left (by omega)] at again
            simp only [orElse, again]
            split <;> simp [runs, here]
          · simp only [orElse, refused accepted, Subject.countAccepted_of_refused accepted]
            rw [countsBetween_of_lt (Nat.lt_succ_self count)]
            split <;> simp [runs, here]

/-- A repetition of a character that gives back takes the runs between the least number and the
longest run. -/
theorem repeated_char {mode : RepeatMode} (gives : mode ≠ .possessive)
    (ordered : ∀ bound, most = some bound → least ≤ bound) (inside : position ≤ subject.size) :
    repeated (char subject matcher) subject.size least most mode position captured =
      runs (countsBetween (mode = .greedy) least (subject.countAccepted matcher position
        (subject.roomFor most position) 0)) position captured := by
  have unfolded : repeated (char subject matcher) subject.size least most mode position captured =
      iterations (char subject matcher) (mode = .greedy) least most
        (roundsLeft subject.size least 0 none position + 1) 0 none position captured := by
    cases mode with
    | greedy => rfl
    | lazy => rfl
    | possessive => exact absurd rfl gives
  have counted : iterations (char subject matcher) (mode = .greedy) least most
      (roundsLeft subject.size least 0 none position + 1) 0 none (position + 0) captured = _ :=
    iterations_char ordered (Nat.lt_succ_self _) (by simp) inside
  rw [unfolded]
  simpa using counted

theorem possessiveIterations_char {rounds count : Nat}
    (enough : subject.size < rounds + (position + count)) :
    possessiveIterations (char subject matcher) least most rounds count (position + count)
        captured =
      (subject.countAccepted matcher position (subject.roomFor most position - count) count,
        ⟨position + subject.countAccepted matcher position
          (subject.roomFor most position - count) count, captured⟩) := by
  induction rounds generalizing count with
  | zero =>
      have room := subject.roomFor_le most position
      rw [show subject.roomFor most position - count = 0 by omega]
      rfl
  | succ rounds ih =>
      rw [possessiveIterations]
      split
      · next allowed =>
          by_cases accepted : subject.acceptsAt matcher (position + count) = true
          · simp only [char, if_pos accepted, List.head?_cons]
            rw [if_neg (by omega), Subject.countAccepted_of_accepted accepted allowed]
            exact ih (by omega)
          · simp only [char, if_neg accepted, List.head?_nil]
            rw [Subject.countAccepted_of_refused accepted]
      · next exhausted => rw [Subject.countAccepted_of_exhausted exhausted]

theorem repeated_char_possessive :
    repeated (char subject matcher) subject.size least most .possessive position captured =
      let count := subject.countAccepted matcher position (subject.roomFor most position) 0
      if count < least then [] else [⟨position + count, captured⟩] := by
  have counted : possessiveIterations (char subject matcher) least most
      (subject.size - position + 1) 0 (position + 0) captured = _ :=
    possessiveIterations_char (by omega)
  simp only [Nat.add_zero, Nat.sub_zero] at counted
  simp only [repeated, counted]

end Matching

theorem Trial.pass_charRepeat (trial : Trial) {deeper twoDeeper again : Continuation}
    {id next : NodeId} {position least : Nat} {matcher : CharMatcher} {most : Option Nat}
    {mode : RepeatMode} :
    trial.pass deeper twoDeeper again id position (.charRepeat matcher least most mode next) =
      let room := trial.subject.roomFor most position
      let longest := trial.subject.countAccepted matcher position room 0
      match mode with
      | .lazy =>
          if least ≤ room ∧ trial.subject.countAccepted matcher position least 0 = least then
            trial.takeMore deeper matcher next position (room - least) least
          else pure none
      | .greedy =>
          if longest < least then pure none
          else giveBack deeper next position least longest >>= fun answer =>
            match answer with
            | some stop => pure (some stop)
            | none => again next (position + least)
      | .possessive => if longest < least then pure none else again next (position + longest) := by
  cases mode with
  | lazy =>
      simp only [pass, if_true, Bool.and_eq_true, decide_eq_true_eq]
      rfl
  | greedy => rfl
  | possessive => rfl

end Backtracking
