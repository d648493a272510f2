import KeyGesture.Event

namespace KeyGesture

/-- A result together with the events reported on the way to it, in order. -/
structure Outcome (α : Type) where
  value : α
  events : List Event
  deriving DecidableEq, Repr

namespace Outcome

variable {α β : Type}

/-- Nothing is reported. -/
def quiet (value : α) : Outcome α :=
  ⟨value, []⟩

def andThen (first : Outcome α) (next : α → Outcome β) : Outcome β :=
  ⟨(next first.value).value, first.events ++ (next first.value).events⟩

def map (change : α → β) (outcome : Outcome α) : Outcome β :=
  ⟨change outcome.value, outcome.events⟩

instance : Monad Outcome where
  pure := quiet
  bind := andThen
  map := map

@[simp] theorem value_pure (value : α) : (pure value : Outcome α).value = value := rfl

@[simp] theorem events_pure (value : α) : (pure value : Outcome α).events = [] := rfl

@[simp] theorem value_bind (first : Outcome α) (next : α → Outcome β) :
    (first >>= next).value = (next first.value).value := rfl

@[simp] theorem events_bind (first : Outcome α) (next : α → Outcome β) :
    (first >>= next).events = first.events ++ (next first.value).events := rfl

@[simp] theorem value_map (change : α → β) (outcome : Outcome α) :
    (change <$> outcome).value = change outcome.value := rfl

@[simp] theorem events_map (change : α → β) (outcome : Outcome α) :
    (change <$> outcome).events = outcome.events := rfl

@[ext] theorem ext {first second : Outcome α} (value : first.value = second.value)
    (events : first.events = second.events) : first = second := by
  cases first
  cases second
  simp_all

instance : LawfulMonad Outcome :=
  .mk' Outcome (fun _ => rfl) (fun _ _ => rfl) (fun _ _ _ => Outcome.ext rfl (List.append_assoc _ _ _))
    (fun _ _ => rfl) (fun _ _ => rfl) (fun _ _ => rfl)
    (fun _ _ => Outcome.ext rfl (List.append_nil _)) (fun _ _ => rfl)

theorem value_foldlM (step : α → β → Outcome α) (state : α) (items : List β) :
    (items.foldlM step state).value = items.foldl (fun state item => (step state item).value) state := by
  induction items generalizing state with
  | nil => rfl
  | cons item rest ih =>
      rw [List.foldlM_cons, value_bind, ih, List.foldl_cons]

end Outcome

end KeyGesture
