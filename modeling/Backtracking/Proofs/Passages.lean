import Backtracking.Proofs.OutcomeBounds

/-!
# Where a part may begin and end

A passage relates the positions where a part of a pattern begins to those where it ends, in no order
and without captures.  A matching keeps within a passage if its outcomes end where the passage does,
and covers the passage if there is an outcome for every end.  Repetitions never cover less for not
offering an iteration behind one that took nothing: iterations that take nothing can be left out, as
long as the least number is reached.
-/

namespace Backtracking

/-- The positions where something begins and where it ends. -/
abbrev Passage := (start stop : Nat) → Prop

namespace Passage

def here : Passage := fun start stop => start = stop

def never : Passage := fun _ _ => False

def char (subject : Subject) (matcher : CharMatcher) : Passage := fun start stop =>
  subject.acceptsAt matcher start = true ∧ stop = start + 1

def assertion (scene : Scene) (assertion : Assertion) : Passage := fun start stop =>
  scene.holds assertion start = true ∧ start = stop

def andThen (first second : Passage) : Passage := fun start stop =>
  ∃ middle, first start middle ∧ second middle stop

def orElse (first second : Passage) : Passage := fun start stop =>
  first start stop ∨ second start stop

def power (body : Passage) : (count : Nat) → Passage
  | 0 => here
  | count + 1 => body.andThen (body.power count)

/-- A passage any number of times between two bounds. -/
def between (body : Passage) (least : Nat) (most : Option Nat) : Passage := fun start stop =>
  ∃ count, least ≤ count ∧ (∀ bound, most = some bound → count ≤ bound) ∧
    body.power count start stop

def looking (negated : Bool) (body : Passage) : Passage := fun start stop =>
  start = stop ∧ if negated then ∀ finish, ¬ body start finish else ∃ finish, body start finish

/-- A passage that ends at the position, and begins at some distance before it. -/
def behind (width : Nat) (body : Passage) : Passage := fun start stop =>
  start = stop ∧ width ≤ start ∧ body (start - width) start

variable {body : Passage} {start stop : Nat}

@[simp]
theorem orElse_never (body : Passage) : body.orElse never = body := by
  funext start stop
  exact propext (or_iff_left id)

theorem between_zero (body : Passage) : body.between 0 (some 0) = here := by
  funext start stop
  refine propext ⟨fun ⟨count, _, below, powers⟩ => ?_, fun equal => ⟨0, Nat.le_refl 0, ?_, equal⟩⟩
  · obtain rfl : count = 0 := Nat.le_zero.mp (below 0 rfl)
    exact powers
  · exact fun _ _ => Nat.zero_le _

theorem power_self (returns : body start start) (count : Nat) : body.power count start start := by
  induction count with
  | zero => rfl
  | succ count ih => exact ⟨start, returns, ih⟩

theorem power_moves {count : Nat} (powers : body.power count start stop) :
    start = stop ∨ ∃ middle, body start middle ∧ start ≠ middle := by
  induction count with
  | zero => exact .inl powers
  | succ count ih =>
      obtain ⟨middle, begins, follows⟩ := powers
      by_cases stays : start = middle
      · subst stays
        exact ih follows
      · exact .inr ⟨middle, begins, stays⟩

end Passage

namespace Matching

/-- All outcomes end where a passage does. -/
def Within (subject : Subject) (matching : Matching) (passage : Passage) : Prop :=
  ∀ position captured, position ≤ subject.size → captured.Valid subject →
    ∀ outcome ∈ matching position captured, passage position outcome.stop

/-- There is an outcome for every end of a passage. -/
def Covers (subject : Subject) (matching : Matching) (passage : Passage) : Prop :=
  ∀ position captured, position ≤ subject.size → captured.Valid subject →
    ∀ stop, passage position stop → ∃ outcome ∈ matching position captured, outcome.stop = stop

/-- The outcomes end just where a passage does. -/
structure Exact (subject : Subject) (matching : Matching) (passage : Passage) : Prop where
  within : matching.Within subject passage
  covers : matching.Covers subject passage

variable {subject : Subject} {first second body : Matching} {begins follows passage : Passage}

theorem here_within : here.Within subject .here := by
  intro position captured inside valid outcome member
  obtain rfl := List.mem_singleton.mp member
  rfl

theorem here_covers : here.Covers subject .here := by
  rintro position captured inside valid _ rfl
  exact ⟨_, List.mem_singleton.mpr rfl, rfl⟩

theorem never_within (passage : Passage) : never.Within subject passage := by
  intro position captured inside valid outcome member
  simp [never] at member

theorem never_covers : never.Covers subject .never := fun _ _ _ _ _ impossible => impossible.elim

theorem char_within (matcher : CharMatcher) :
    (char subject matcher).Within subject (.char subject matcher) := by
  intro position captured inside valid outcome member
  simp only [char] at member
  split at member
  · next accepted =>
      obtain rfl := List.mem_singleton.mp member
      exact ⟨accepted, rfl⟩
  · simp at member

theorem char_covers (matcher : CharMatcher) :
    (char subject matcher).Covers subject (.char subject matcher) := by
  rintro position captured inside valid _ ⟨accepted, rfl⟩
  exact ⟨⟨position + 1, captured⟩, by simp [char, accepted], rfl⟩

theorem assertion_within (scene : Scene) (condition : Assertion) :
    (assertion scene condition).Within subject (.assertion scene condition) := by
  intro position captured inside valid outcome member
  simp only [assertion] at member
  split at member
  · next holds =>
      obtain rfl := List.mem_singleton.mp member
      exact ⟨holds, rfl⟩
  · simp at member

theorem assertion_covers (scene : Scene) (condition : Assertion) :
    (assertion scene condition).Covers subject (.assertion scene condition) := by
  rintro position captured inside valid _ ⟨holds, rfl⟩
  exact ⟨⟨position, captured⟩, by simp [assertion, holds], rfl⟩

theorem Within.andThen (within : first.Within subject begins) (advances : first.Advances subject)
    (next : second.Within subject follows) :
    (first.andThen second).Within subject (begins.andThen follows) := by
  intro position captured inside valid outcome member
  obtain ⟨middle, reached, rest⟩ := List.mem_flatMap.mp member
  have extended := advances position captured inside valid middle reached
  exact ⟨middle.stop, within position captured inside valid middle reached,
    next middle.stop middle.captured extended.stop_le extended.valid outcome rest⟩

theorem Covers.andThen (covers : first.Covers subject begins) (advances : first.Advances subject)
    (next : second.Covers subject follows) :
    (first.andThen second).Covers subject (begins.andThen follows) := by
  rintro position captured inside valid stop ⟨_, begun, followed⟩
  obtain ⟨middle, reached, rfl⟩ := covers position captured inside valid _ begun
  have extended := advances position captured inside valid middle reached
  obtain ⟨outcome, member, ends⟩ :=
    next middle.stop middle.captured extended.stop_le extended.valid stop followed
  exact ⟨outcome, List.mem_flatMap.mpr ⟨middle, reached, member⟩, ends⟩

theorem Within.orElse (preferred : first.Within subject begins)
    (other : second.Within subject follows) :
    (first.orElse second).Within subject (begins.orElse follows) := by
  intro position captured inside valid outcome member
  rcases List.mem_append.mp member with chosen | chosen
  · exact .inl (preferred position captured inside valid outcome chosen)
  · exact .inr (other position captured inside valid outcome chosen)

theorem Covers.orElse (preferred : first.Covers subject begins)
    (other : second.Covers subject follows) :
    (first.orElse second).Covers subject (begins.orElse follows) := by
  intro position captured inside valid stop passes
  rcases passes with chosen | chosen
  · obtain ⟨outcome, member, ends⟩ := preferred position captured inside valid stop chosen
    exact ⟨outcome, List.mem_append_left _ member, ends⟩
  · obtain ⟨outcome, member, ends⟩ := other position captured inside valid stop chosen
    exact ⟨outcome, List.mem_append_right _ member, ends⟩

theorem Within.once (within : body.Within subject passage) : body.once.Within subject passage := by
  intro position captured inside valid outcome member
  exact within position captured inside valid outcome
    (List.mem_of_mem_head? (Option.mem_toList.mp member))

theorem Within.capturing (within : body.Within subject passage) (group : Nat) :
    (body.capturing group).Within subject passage := by
  intro position captured inside valid outcome member
  obtain ⟨inner, reached, rfl⟩ := List.mem_map.mp member
  exact within position captured inside valid inner reached

theorem Covers.capturing (covers : body.Covers subject passage) (group : Nat) :
    (body.capturing group).Covers subject passage := by
  intro position captured inside valid stop passes
  obtain ⟨inner, reached, rfl⟩ := covers position captured inside valid stop passes
  exact ⟨_, List.mem_map_of_mem reached, rfl⟩

theorem Within.ifCaptured (yes : first.Within subject begins) (no : second.Within subject follows)
    (group : Nat) : (ifCaptured group first second).Within subject (begins.orElse follows) := by
  intro position captured inside valid outcome member
  simp only [Matching.ifCaptured] at member
  split at member
  · exact .inl (yes position captured inside valid outcome member)
  · exact .inr (no position captured inside valid outcome member)

theorem looking_within_here (negated : Bool) (body : Matching) :
    (looking negated body).Within subject .here := by
  intro position captured inside valid outcome member
  simp only [looking] at member
  split at member
  · obtain rfl := List.mem_singleton.mp member
    rfl
  · obtain rfl := List.mem_singleton.mp member
    rfl
  · simp at member

/-- Whether there is a match is found out rightly, if the outcomes of the body are known exactly. -/
theorem Exact.looking (agrees : body.Exact subject passage) (negated : Bool) :
    (looking negated body).Exact subject (passage.looking negated) where
  within position captured inside valid outcome member := by
    simp only [Matching.looking] at member
    split at member
    · next found =>
        obtain rfl := List.mem_singleton.mp member
        have passes := agrees.within position captured inside valid _ (List.mem_of_mem_head? found)
        exact ⟨rfl, _, passes⟩
    · next missing =>
        obtain rfl := List.mem_singleton.mp member
        have empty := List.head?_eq_none_iff.mp missing
        refine ⟨rfl, fun finish passes => ?_⟩
        obtain ⟨inner, reached, -⟩ := agrees.covers position captured inside valid finish passes
        simp [empty] at reached
    · simp at member
  covers := by
    rintro position captured inside valid _ ⟨rfl, decides⟩
    cases negated with
    | false =>
        obtain ⟨finish, passes⟩ := decides
        obtain ⟨inner, reached, -⟩ := agrees.covers position captured inside valid finish passes
        cases found : (body position captured).head? with
        | none => simp [List.head?_eq_none_iff.mp found] at reached
        | some outcome =>
            exact ⟨⟨position, outcome.captured⟩, by simp [Matching.looking, found], rfl⟩
    | true =>
        cases found : (body position captured).head? with
        | none => exact ⟨⟨position, captured⟩, by simp [Matching.looking, found], rfl⟩
        | some outcome =>
            have passes :=
              agrees.within position captured inside valid _ (List.mem_of_mem_head? found)
            exact absurd passes (decides outcome.stop)

theorem Within.behind (within : body.Within subject passage) (width : Nat) :
    (behind width body).Within subject (passage.behind width) := by
  intro position captured inside valid outcome member
  simp only [Matching.behind] at member
  split at member
  · next far =>
      obtain ⟨reached, ends⟩ := Option.filter_eq_some_iff.mp (Option.mem_toList.mp member)
      have equal : outcome.stop = position := by simpa using ends
      have passes := within (position - width) captured (by omega) valid outcome
        (List.mem_of_mem_head? reached)
      rw [equal] at passes
      exact ⟨equal.symm, far, passes⟩
  · simp at member

/-- Of a part of fixed width the first outcome ends where all others would. -/
theorem Covers.behind (covers : body.Covers subject passage) {width : Nat}
    (fixed : body.Within subject fun start stop => stop = start + width) :
    (behind width body).Covers subject (passage.behind width) := by
  rintro position captured inside valid _ ⟨rfl, far, passes⟩
  have before : position - width ≤ subject.size := by omega
  obtain ⟨inner, reached, -⟩ := covers (position - width) captured before valid position passes
  cases found : (body (position - width) captured).head? with
  | none => simp [List.head?_eq_none_iff.mp found] at reached
  | some outcome =>
      have ends := fixed (position - width) captured before valid outcome
        (List.mem_of_mem_head? found)
      have equal : outcome.stop = position := by omega
      exact ⟨outcome, by simp [Matching.behind, far, found, equal], equal⟩

/-! ## Repetitions -/

section Repetitions

variable {greedy : Bool} {least : Nat} {most : Option Nat}

theorem iterations_within (advances : body.Advances subject) (within : body.Within subject passage)
    (ordered : ∀ bound, most = some bound → least ≤ bound) {rounds count position : Nat}
    {start : Option Nat} {captured : Captured}
    (allowed : ∀ bound, most = some bound → count ≤ bound) (inside : position ≤ subject.size)
    (valid : captured.Valid subject) {outcome : Outcome}
    (member : outcome ∈ iterations body greedy least most rounds count start position captured) :
    ∃ more, least ≤ count + more ∧ (∀ bound, most = some bound → count + more ≤ bound) ∧
      passage.power more position outcome.stop := by
  induction rounds generalizing count start position captured with
  | zero => simp [iterations, never] at member
  | succ rounds ih =>
      rcases mem_iterations_succ.mp member with ⟨continues, again⟩ | ⟨free, left⟩
      · obtain ⟨middle, taken, rest⟩ := List.mem_flatMap.mp again
        have extended := advances position captured inside valid middle taken
        have below : ∀ bound, most = some bound → count + 1 ≤ bound := by
          intro bound equal
          rcases continues with forced | offered
          · exact Nat.lt_of_lt_of_le forced (ordered bound equal)
          · exact offered.1 bound equal
        obtain ⟨more, enough, bounded, powers⟩ := ih below extended.stop_le extended.valid rest
        refine ⟨more + 1, by omega, fun bound equal => ?_, middle.stop,
          within position captured inside valid middle taken, powers⟩
        have reached := bounded bound equal
        omega
      · obtain rfl := List.mem_singleton.mp left
        exact ⟨0, Nat.le_of_not_lt free, allowed, rfl⟩

/-- Some more times of a passage are found behind `count` iterations, unless the last of these took
nothing and more than the least number are to be found.  Times that take nothing are left out as
long as there are more than the least number, so that no iteration is missed which would have to
follow one that takes nothing. -/
theorem iterations_covers (advances : body.Advances subject) (covers : body.Covers subject passage)
    {rounds count more position stop : Nat} {start : Option Nat} {captured : Captured}
    (inside : position ≤ subject.size) (valid : captured.Valid subject)
    (enough : roundsLeft subject.size least count start position < rounds)
    (reached : least ≤ count + more) (bounded : ∀ bound, most = some bound → count + more ≤ bound)
    (moved : start ≠ some position ∨ count + more ≤ least)
    (powers : passage.power more position stop) :
    ∃ outcome ∈ iterations body greedy least most rounds count start position captured,
      outcome.stop = stop := by
  induction more generalizing rounds count position start captured with
  | zero =>
      obtain ⟨rounds, rfl⟩ : ∃ fewer, rounds = fewer + 1 := ⟨rounds - 1, by omega⟩
      exact ⟨⟨position, captured⟩,
        mem_iterations_succ.mpr (.inr ⟨by omega, List.mem_singleton.mpr rfl⟩), powers⟩
  | succ more ih =>
      obtain ⟨middle, taken, rest⟩ := powers
      by_cases idle : position = middle ∧ least < count + (more + 1)
      · -- This time takes nothing and is not needed for the least number.
        obtain ⟨rfl, spare⟩ := idle
        refine ih inside valid enough (by omega) (fun bound equal => ?_) (.inl ?_) rest
        · have below := bounded bound equal
          omega
        · exact moved.resolve_right (by omega)
      · obtain ⟨rounds, rfl⟩ : ∃ fewer, rounds = fewer + 1 := ⟨rounds - 1, by omega⟩
        obtain ⟨inner, found, rfl⟩ := covers position captured inside valid middle taken
        have extended := advances position captured inside valid inner found
        have continues : count < least ∨ start ≠ some position := by
          rcases moved with moved | forced
          · exact .inr moved
          · exact .inl (by omega)
        have below : ∀ bound, most = some bound → count + 1 + more ≤ bound := by
          intro bound equal
          have below := bounded bound equal
          omega
        have moves : some position ≠ some inner.stop ∨ count + 1 + more ≤ least := by
          by_cases stays : position = inner.stop
          · exact .inr (by omega)
          · exact .inl (by simpa using stays)
        have fewer := roundsLeft_lt continues extended.le_stop extended.stop_le
        obtain ⟨outcome, member, ends⟩ := ih extended.stop_le extended.valid
          (Nat.lt_of_lt_of_le fewer (Nat.le_of_lt_succ enough)) (by omega) below moves rest
        have offered : count < least ∨
            (∀ bound, most = some bound → count < bound) ∧ start ≠ some position := by
          refine continues.imp_right fun moved => ⟨fun bound equal => ?_, moved⟩
          have reached := below bound equal
          omega
        exact ⟨outcome, mem_iterations_succ.mpr
          (.inl ⟨offered, List.mem_flatMap.mpr ⟨inner, found, member⟩⟩), ends⟩

/-- With an iteration that takes nothing the least number is reached by repeating it. -/
theorem possessiveIterations_within (advances : body.Advances subject)
    (within : body.Within subject passage) (ordered : ∀ bound, most = some bound → least ≤ bound)
    {rounds count position : Nat} {captured : Captured}
    (allowed : ∀ bound, most = some bound → count ≤ bound) (inside : position ≤ subject.size)
    (valid : captured.Valid subject) :
    ∃ more, (possessiveIterations body least most rounds count position captured).1 = count + more ∧
      (∀ bound, most = some bound → count + more ≤ bound) ∧
      passage.power more position
        (possessiveIterations body least most rounds count position captured).2.stop := by
  have stays : ∃ more, count = count + more ∧ (∀ bound, most = some bound → count + more ≤ bound) ∧
      passage.power more position position := ⟨0, rfl, allowed, rfl⟩
  induction rounds generalizing count position captured with
  | zero => exact stays
  | succ rounds ih =>
      simp only [possessiveIterations]
      split
      · next offered =>
          split
          · exact stays
          · next outcome found =>
              have member := List.mem_of_mem_head? found
              have passes := within position captured inside valid outcome member
              split
              · next idle =>
                  rw [idle] at passes ⊢
                  refine ⟨least - count, ?_, fun bound equal => ?_, Passage.power_self passes _⟩
                  · show max count least = _
                    omega
                  · have below := ordered bound equal
                    have counted := allowed bound equal
                    omega
              · have extended := advances position captured inside valid outcome member
                have below : ∀ bound, most = some bound → count + 1 ≤ bound := by
                  rintro bound rfl
                  exact Nat.succ_le_of_lt (by simpa using offered)
                obtain ⟨more, counted, bounded, powers⟩ :=
                  ih below extended.stop_le extended.valid ⟨0, rfl, below, rfl⟩
                refine ⟨more + 1, by omega, fun bound equal => ?_, outcome.stop, passes, powers⟩
                have further := bounded bound equal
                omega
      · exact stays

theorem Within.repeated (within : body.Within subject passage) (advances : body.Advances subject)
    (ordered : ∀ bound, most = some bound → least ≤ bound) (mode : RepeatMode) :
    (repeated body subject.size least most mode).Within subject (passage.between least most) := by
  intro position captured inside valid outcome member
  have allowed : ∀ bound, most = some bound → 0 ≤ bound := fun _ _ => Nat.zero_le _
  have between (greedy : Bool) {rounds : Nat}
      (member : outcome ∈ iterations body greedy least most rounds 0 none position captured) :
      passage.between least most position outcome.stop := by
    obtain ⟨count, enough, bounded, powers⟩ :=
      iterations_within advances within ordered allowed inside valid member
    rw [Nat.zero_add] at enough bounded
    exact ⟨count, enough, bounded, powers⟩
  cases mode with
  | greedy => exact between true member
  | lazy => exact between false member
  | possessive =>
      obtain ⟨count, counted, bounded, powers⟩ :=
        possessiveIterations_within advances within ordered allowed inside valid
      simp only [Matching.repeated] at member
      split at member
      · simp at member
      · next enough =>
          obtain rfl := List.mem_singleton.mp member
          rw [Nat.zero_add] at counted bounded
          exact ⟨count, by omega, bounded, powers⟩

theorem Covers.repeated (covers : body.Covers subject passage) (advances : body.Advances subject)
    {mode : RepeatMode} (gives : mode ≠ .possessive) :
    (repeated body subject.size least most mode).Covers subject (passage.between least most) := by
  rintro position captured inside valid stop ⟨count, enough, bounded, powers⟩
  rw [← Nat.zero_add count] at enough bounded
  have found (greedy : Bool) :
      ∃ outcome ∈ iterations body greedy least most
        (roundsLeft subject.size least 0 none position + 1) 0 none position captured,
        outcome.stop = stop :=
    iterations_covers advances covers inside valid (Nat.lt_succ_self _) enough bounded
      (.inl (by simp)) powers
  cases mode with
  | greedy => exact found true
  | lazy => exact found false
  | possessive => exact absurd rfl gives

end Repetitions

end Matching

end Backtracking
