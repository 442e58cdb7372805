/-!
# What holds after success

Readers and emitters carry a state and may fail.  What one of them ensures is said of its result and
of the state behind it, in case it succeeds.
-/

namespace Backtracking

variable {σ ε α β : Type}

/-- If a computation succeeds from a state, then its result and the state behind it satisfy a
condition. -/
def Ensures (computation : StateT σ (Except ε) α) (state : σ) (condition : α → σ → Prop) : Prop :=
  ∀ value after, computation.run state = .ok (value, after) → condition value after

namespace Ensures

variable {state : σ} {condition : α → σ → Prop}

theorem pure {value : α} (holds : condition value state) :
    Ensures (Pure.pure value : StateT σ (Except ε) α) state condition := by
  rintro result after succeeds
  cases succeeds
  exact holds

theorem thrown (error : ε) :
    Ensures (throw error : StateT σ (Except ε) α) state condition := by
  rintro result after succeeds
  cases succeeds

theorem bind {computation : StateT σ (Except ε) β} {next : β → StateT σ (Except ε) α}
    {middle : β → σ → Prop} (begins : Ensures computation state middle)
    (follows : ∀ value after, middle value after → Ensures (next value) after condition) :
    Ensures (computation >>= next) state condition := by
  intro result after succeeds
  have stepwise : (computation.run state >>= fun reached => (next reached.1).run reached.2) =
      .ok (result, after) := succeeds
  cases reached : computation.run state with
  | error error =>
      rw [reached] at stepwise
      cases stepwise
  | ok value =>
      rw [reached] at stepwise
      exact follows value.1 value.2 (begins value.1 value.2 reached) result after stepwise

theorem got {condition : σ → σ → Prop} (holds : condition state state) :
    Ensures (get : StateT σ (Except ε) σ) state condition := by
  rintro result after succeeds
  cases succeeds
  exact holds

theorem replaced {condition : Unit → σ → Prop} {next : σ} (holds : condition () next) :
    Ensures (set next : StateT σ (Except ε) Unit) state condition := by
  rintro result after succeeds
  cases succeeds
  exact holds

theorem modified {condition : Unit → σ → Prop} {update : σ → σ}
    (holds : condition () (update state)) :
    Ensures (modify update : StateT σ (Except ε) Unit) state condition := by
  rintro result after succeeds
  cases succeeds
  exact holds

theorem lifted {result : Except ε α} (holds : ∀ value, result = .ok value → condition value state) :
    Ensures (liftM result : StateT σ (Except ε) α) state condition := by
  intro value after succeeds
  cases result with
  | error error => cases succeeds
  | ok returned =>
      cases succeeds
      exact holds value rfl

theorem weaken {computation : StateT σ (Except ε) α} {stronger : α → σ → Prop}
    (ensures : Ensures computation state stronger)
    (implies : ∀ value after, stronger value after → condition value after) :
    Ensures computation state condition :=
  fun value after succeeds => implies value after (ensures value after succeeds)

theorem and {computation : StateT σ (Except ε) α} {other : α → σ → Prop}
    (ensures : Ensures computation state condition) (ensuresToo : Ensures computation state other) :
    Ensures computation state fun value after => condition value after ∧ other value after :=
  fun value after succeeds => ⟨ensures value after succeeds, ensuresToo value after succeeds⟩

theorem guarded {refused : Prop} [Decidable refused] {error : ε}
    {rest : Unit → StateT σ (Except ε) α}
    (goesOn : ¬ refused → Ensures (rest ()) state condition) :
    Ensures (if refused then throw error >>= rest else rest ()) state condition := by
  split
  · intro value after succeeds
    cases succeeds
  · next accepted => exact goesOn accepted

end Ensures

end Backtracking
