namespace KeyGesture

/-- Why the hardware, or its set-up, fails. -/
inductive Fault where
  | line
  | pad
  | badConfig
  | notReady
  deriving DecidableEq, Repr

namespace Fault

def all : List Fault :=
  [.line, .pad, .badConfig, .notReady]

def message : Fault → String
  | .line => "GPIO operation failed"
  | .pad => "Touch pad operation failed"
  | .badConfig => "Invalid configuration"
  | .notReady => "Hardware not initialized"

end Fault

end KeyGesture
