import KeyGesture.Hardware.Fault

namespace KeyGesture

/-- Where a series of steps on the hardware ended, and the fault that ended it, if one did. What was done
before the fault stays done. -/
structure Attempt (σ : Type) where
  state : σ
  fault : Option Fault := none
  deriving DecidableEq, Repr

namespace Attempt

variable {σ τ : Type}

def done (state : σ) : Attempt σ :=
  ⟨state, none⟩

def failed (state : σ) (fault : Fault) : Attempt σ :=
  ⟨state, some fault⟩

/-- The next step is taken unless a fault has ended the series. -/
def andThen (attempt : Attempt σ) (next : σ → Attempt σ) : Attempt σ :=
  match attempt.fault with
  | none => next attempt.state
  | some _ => attempt

def map (change : σ → τ) (attempt : Attempt σ) : Attempt τ :=
  ⟨change attempt.state, attempt.fault⟩

/-- One step for each element, up to the first fault. -/
def forEach {α : Type} (state : σ) (elements : List α) (step : σ → α → Attempt σ) : Attempt σ :=
  elements.foldl (fun attempt element => attempt.andThen fun state => step state element) (done state)

@[simp] theorem andThen_done (state : σ) (next : σ → Attempt σ) :
    (done state).andThen next = next state := rfl

@[simp] theorem andThen_failed (state : σ) (fault : Fault) (next : σ → Attempt σ) :
    (failed state fault).andThen next = failed state fault := rfl

theorem foldl_andThen_of_fault {α : Type} {attempt : Attempt σ} {fault : Fault}
    (faulty : attempt.fault = some fault) (elements : List α) (step : σ → α → Attempt σ) :
    elements.foldl (fun attempt element => attempt.andThen fun state => step state element) attempt =
      attempt := by
  induction elements with
  | nil => rfl
  | cons element rest ih =>
      have stays : attempt.andThen (fun state => step state element) = attempt := by
        simp only [andThen, faulty]
      rw [List.foldl_cons, stays, ih]

/-- The first step decides whether the others are taken. -/
theorem forEach_cons {α : Type} (state : σ) (element : α) (rest : List α)
    (step : σ → α → Attempt σ) :
    forEach state (element :: rest) step =
      (step state element).andThen fun next => forEach next rest step := by
  unfold forEach
  rw [List.foldl_cons, andThen_done]
  cases fault : (step state element).fault with
  | none =>
      have first : step state element = done (step state element).state := by
        simp only [done, ← fault]
      rw [first]
      rfl
  | some cause =>
      rw [foldl_andThen_of_fault fault]
      simp only [andThen, fault]

/-- A series that ended well has taken its last step. -/
theorem andThen_of_fault_eq_none {attempt : Attempt σ} {next : σ → Attempt σ}
    (well : (attempt.andThen next).fault = none) : attempt.andThen next = next attempt.state := by
  rw [andThen] at well ⊢
  split
  · rfl
  · rename_i fault faulty
    simp only [faulty, reduceCtorEq] at well

theorem andThen_keeps (kept : σ → Prop) {attempt : Attempt σ} {next : σ → Attempt σ}
    (initially : kept attempt.state) (later : ∀ state, kept state → kept (next state).state) :
    kept (attempt.andThen next).state := by
  rw [andThen]
  split
  · exact later _ initially
  · exact initially

/-- What each step keeps, fault or not, the series keeps. -/
theorem forEach_keeps {α : Type} (kept : σ → Prop) {step : σ → α → Attempt σ}
    (each : ∀ state element, kept state → kept (step state element).state) {state : σ}
    (initially : kept state) (elements : List α) : kept (forEach state elements step).state := by
  induction elements generalizing state with
  | nil => exact initially
  | cons element rest ih =>
      rw [forEach_cons]
      exact andThen_keeps kept (each state element initially) fun _ => ih

end Attempt

end KeyGesture
