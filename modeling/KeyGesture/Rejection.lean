namespace KeyGesture

/-- Why a key operation is refused. -/
inductive Rejection where
  | unknownChannel
  | alreadyDown
  | notDown
  | full
  | channelTaken
  | badTiming
  deriving DecidableEq, Repr

namespace Rejection

def all : List Rejection :=
  [.unknownChannel, .alreadyDown, .notDown, .full, .channelTaken, .badTiming]

def message : Rejection → String
  | .unknownChannel => "io id is not registered"
  | .alreadyDown => "key is already pressed"
  | .notDown => "key is not pressed"
  | .full => "key capacity exceeded"
  | .channelTaken => "io id bound to another key"
  | .badTiming => "invalid key configuration"

end Rejection

end KeyGesture
