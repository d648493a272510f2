import KeyGesture.Hardware.Attempt

namespace KeyGesture

/-- A piece of hardware that takes commands. Whether a command fails is up to the hardware, and may
depend on everything that was asked of it before. -/
structure Peripheral (γ : Type) where
  /-- The fault a command ends in after the given history. -/
  respond : List (γ × Option Fault) → γ → Option Fault
  /-- What was asked and how it ended, oldest first. -/
  history : List (γ × Option Fault) := []

namespace Peripheral

variable {γ : Type}

/-- Hardware on which every command works. -/
def ideal : Peripheral γ :=
  { respond := fun _ _ => none }

/-- Hardware on which the chosen commands always fail. -/
def failing (chosen : γ → Bool) (fault : Fault) : Peripheral γ :=
  { respond := fun _ command => if chosen command then some fault else none }

def issue (peripheral : Peripheral γ) (command : γ) : Attempt (Peripheral γ) :=
  let fault := peripheral.respond peripheral.history command
  { state := { peripheral with history := peripheral.history ++ [(command, fault)] }
    fault }

/-- Issues a command whose failure is let pass. -/
def tryIssue (peripheral : Peripheral γ) (command : γ) : Peripheral γ :=
  (peripheral.issue command).state

/-- The commands that worked, oldest first. -/
def accepted (peripheral : Peripheral γ) : List γ :=
  peripheral.history.filterMap fun (command, fault) => if fault.isNone then some command else none

theorem history_issue (peripheral : Peripheral γ) (command : γ) :
    (peripheral.issue command).state.history =
      peripheral.history ++ [(command, (peripheral.issue command).fault)] := rfl

theorem respond_issue (peripheral : Peripheral γ) (command : γ) :
    (peripheral.issue command).state.respond = peripheral.respond := rfl

theorem accepted_issue (peripheral : Peripheral γ) (command : γ) :
    (peripheral.issue command).state.accepted =
      peripheral.accepted ++ if (peripheral.issue command).fault.isNone then [command] else [] := by
  simp only [accepted, history_issue, List.filterMap_append]
  split <;> simp_all

end Peripheral

end KeyGesture
