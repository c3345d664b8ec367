import Honji.Failure
import Mathlib.Order.Defs.Unbundled

/-!
Running computations that change a state and may fail on the way: what each step of them comes to,
and what a computation comes to as a whole if it is measured by an outcome that is expected.
-/

namespace Honji

inductive Agree {α β : Type} (related : α → β → Prop) : Except Failure α → Except Failure β → Prop
  | ok {first : α} {second : β} (both : related first second) :
      Agree related (.ok first) (.ok second)
  | error (failure : Failure) : Agree related (.error failure) (.error failure)

theorem Agree.refl {α : Type} (outcome : Except Failure α) : Agree (· = ·) outcome outcome := by
  cases outcome with
  | error failure => exact .error failure
  | ok value => exact .ok rfl

theorem Agree.eq {α : Type} {first second : Except Failure α} (agree : Agree (· = ·) first second) :
    first = second := by
  cases agree with
  | ok same => rw [same]
  | error failure => rfl

theorem Agree.imp {α β : Type} {related wider : α → β → Prop} {first : Except Failure α}
    {second : Except Failure β} (agree : Agree related first second)
    (implied : ∀ one two, related one two → wider one two) : Agree wider first second := by
  cases agree with
  | ok both => exact .ok (implied _ _ both)
  | error failure => exact .error failure

theorem Agree.bind {α β γ δ : Type} {related : α → β → Prop} {result : γ → δ → Prop}
    {first : Except Failure α} {second : Except Failure β}
    {next : α → Except Failure γ} {other : β → Except Failure δ}
    (agree : Agree related first second)
    (goesOn : ∀ one two, related one two → Agree result (next one) (other two)) :
    Agree result (first >>= next) (second >>= other) := by
  cases agree with
  | ok both => exact goesOn _ _ both
  | error failure => exact .error failure

namespace Steps
variable {σ α β : Type}

def run (steps : ExceptT Failure (StateM σ) α) (state : σ) : Except Failure α × σ :=
  steps state

variable {first : ExceptT Failure (StateM σ) α} {next : α → ExceptT Failure (StateM σ) β}

@[simp] theorem run_pure (value : α) (state : σ) :
    run (pure value : ExceptT Failure (StateM σ) α) state = (.ok value, state) := rfl

@[simp] theorem run_throw (failure : Failure) (state : σ) :
    run (throw failure : ExceptT Failure (StateM σ) α) state = (.error failure, state) := rfl

@[simp] theorem run_get (state : σ) :
    run (get : ExceptT Failure (StateM σ) σ) state = (.ok state, state) := rfl

@[simp] theorem run_modify (change : σ → σ) (state : σ) :
    run (modify change : ExceptT Failure (StateM σ) Unit) state = (.ok (), change state) := rfl

@[simp] theorem run_lift (outcome : Except Failure α) (state : σ) :
    run (liftM outcome : ExceptT Failure (StateM σ) α) state = (outcome, state) := by
  cases outcome <;> rfl

theorem run_bind (first : ExceptT Failure (StateM σ) α) (next : α → ExceptT Failure (StateM σ) β)
    (state : σ) : run (first >>= next) state = match run first state with
      | (.ok one, between) => run (next one) between
      | (.error failure, between) => (.error failure, between) := by
  simp only [run, bind, ExceptT.bind, ExceptT.mk, StateT.bind, ExceptT.bindCont]
  rcases first state with ⟨_ | _, _⟩ <;> rfl

theorem run_bind_eq_ok {state final : σ} {value : β} :
    run (first >>= next) state = (.ok value, final) ↔
      ∃ one between, run first state = (.ok one, between) ∧
        run (next one) between = (.ok value, final) := by
  rw [run_bind]
  rcases run first state with ⟨failure | one, between⟩
  · simp
  · constructor
    · intro ran
      exact ⟨one, between, rfl, ran⟩
    · rintro ⟨_, _, ⟨rfl, rfl⟩, ran⟩
      exact ran

theorem bind_eq_ok {outcome : Except Failure α} {rest : α → Except Failure β} {value : β} :
    (outcome >>= rest) = .ok value ↔ ∃ one, outcome = .ok one ∧ rest one = .ok value := by
  cases outcome <;> simp [bind, Except.bind]

theorem run_bind_of_ok {state between : σ} {one : α} (ran : run first state = (.ok one, between)) :
    run (first >>= next) state = run (next one) between := by
  rw [run_bind, ran]

def attempt (steps : ExceptT Failure (StateM σ) α) :
    ExceptT Failure (StateM σ) (Except Failure α) := fun state =>
  let (outcome, after) := run steps state
  (.ok outcome, after)

theorem run_attempt (steps : ExceptT Failure (StateM σ) α) (state : σ) :
    run (attempt steps) state = (.ok (run steps state).1, (run steps state).2) := rfl

/-! ### Computations that are not refused -/

def Succeeds (steps : ExceptT Failure (StateM σ) α) (state : σ) : Prop :=
  ∃ value after, run steps state = (.ok value, after)

namespace Succeeds

theorem bind {state : σ} (here : Succeeds first state)
    (goesOn : ∀ value between, run first state = (.ok value, between) →
      Succeeds (next value) between) : Succeeds (first >>= next) state := by
  obtain ⟨value, between, ran⟩ := here
  obtain ⟨last, after, ranOn⟩ := goesOn value between ran
  exact ⟨last, after, (run_bind_of_ok ran).trans ranOn⟩

theorem read {state : σ} {next : σ → ExceptT Failure (StateM σ) β}
    (goesOn : Succeeds (next state) state) : Succeeds (get >>= next) state := by
  obtain ⟨value, after, ran⟩ := goesOn
  exact ⟨value, after, (run_bind_of_ok (run_get state)).trans ran⟩

theorem forM {ι : Type} {step : ι → ExceptT Failure (StateM σ) Unit} {items : List ι}
    (kept : σ → Prop)
    (each : ∀ item ∈ items, ∀ state, kept state → Succeeds (step item) state ∧
      kept (run (step item) state).2)
    {state : σ} (start : kept state) : Succeeds (items.forM step) state := by
  induction items generalizing state with
  | nil => exact ⟨(), state, rfl⟩
  | cons item items ih =>
      obtain ⟨here, rest⟩ := List.forall_mem_cons.1 each
      obtain ⟨passes, still⟩ := here state start
      refine passes.bind fun _ between ran => ih rest ?_
      rwa [ran] at still

end Succeeds

/-! ### Expected outcomes -/

variable {γ δ : Type} {onward : σ → σ → Prop} {state : σ}

/--
A computation takes a state onward and comes to what is expected: to the same failure, or to
something that means the expected value in the state that it leaves.
-/
inductive Comes (onward : σ → σ → Prop) (state : σ) (steps : ExceptT Failure (StateM σ) α)
    (means : α → σ → β → Prop) : Except Failure β → Prop
  | ok {made : α} {after : σ} {value : β} (ran : run steps state = (.ok made, after))
      (later : onward state after) (same : means made after value) :
      Comes onward state steps means (.ok value)
  | error {failure : Failure} {after : σ} (ran : run steps state = (.error failure, after))
      (later : onward state after) : Comes onward state steps means (.error failure)

namespace Comes
variable {first : ExceptT Failure (StateM σ) α} {next : α → ExceptT Failure (StateM σ) γ}
  {means : α → σ → β → Prop} {result : γ → σ → δ → Prop} {expected : Except Failure β}

theorem congr {other : ExceptT Failure (StateM σ) α} (same : run first state = run other state)
    (comes : Comes onward state other means expected) :
    Comes onward state first means expected := by
  cases comes with
  | ok ran later meant => exact .ok (same.trans ran) later meant
  | error ran later => exact .error (same.trans ran) later

theorem pure [Std.Refl onward] {made : α} {value : β} (same : means made state value) :
    Comes onward state (pure made) means (.ok value) :=
  .ok rfl (Std.Refl.refl state) same

theorem lift [Std.Refl onward] (outcome : Except Failure α) :
    Comes onward state (liftM outcome) (fun made _ value => made = value) outcome := by
  cases outcome with
  | ok value => exact .ok rfl (Std.Refl.refl state) rfl
  | error failure => exact .error rfl (Std.Refl.refl state)

theorem of_run [IsTrans σ onward] {one : α} {between : σ} {final : Except Failure δ}
    (ran : run first state = (.ok one, between)) (later : onward state between)
    (comes : Comes onward between (next one) result final) :
    Comes onward state (first >>= next) result final := by
  cases comes with
  | ok ranOn further same =>
      exact .ok ((run_bind_of_ok ran).trans ranOn) (trans_of onward later further) same
  | error ranOn further =>
      exact .error ((run_bind_of_ok ran).trans ranOn) (trans_of onward later further)

theorem bind [IsTrans σ onward] (comes : Comes onward state first means expected)
    (rest : β → Except Failure δ)
    (goesOn : ∀ one between value, onward state between → means one between value →
      expected = .ok value → Comes onward between (next one) result (rest value)) :
    Comes onward state (first >>= next) result (expected >>= rest) := by
  cases comes with
  | error ran later => exact .error (by rw [run_bind, ran]) later
  | ok ran later same => exact of_run ran later (goesOn _ _ _ later same rfl)

theorem weaken {wider : σ → σ → Prop} {more : α → σ → β → Prop}
    (comes : Comes onward state first means expected)
    (covered : ∀ after, onward state after → wider state after)
    (implied : ∀ made after value, onward state after → means made after value →
      more made after value) : Comes wider state first more expected := by
  cases comes with
  | ok ran later same => exact .ok ran (covered _ later) (implied _ _ _ later same)
  | error ran later => exact .error ran (covered _ later)

theorem attempt (comes : Comes onward state first means expected) :
    Comes onward state (attempt first)
      (fun outcome after value => Agree (means · after ·) outcome value) (.ok expected) := by
  cases comes with
  | ok ran later same => exact .ok (by rw [run_attempt, ran]) later (.ok same)
  | error ran later => exact .ok (by rw [run_attempt, ran]) later (.error _)

end Comes
end Steps
end Honji
