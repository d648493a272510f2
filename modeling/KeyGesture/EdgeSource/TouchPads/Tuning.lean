import KeyGesture.EdgeSource.TouchPads.Processing

namespace KeyGesture.TouchPads

/-! Changing how the pads are programmed while they are in use. What was configured stays stored, so
changes do not add up. A fault of the controller is let pass. -/

/-- Programs thresholds into a pad, which is released and gets a new baseline first. -/
def setPadThresholds (now : UInt32) (thresholds : Thresholds) (sensor : Sensor TouchPads) (pad : Pad) :
    Outcome (Sensor TouchPads) :=
  (releaseIfDown sensor now pad).map (·.mapSource fun touch =>
    (touch.tryIssue (.reset pad.channel)).tryIssue
      (.setThresholds pad.channel thresholds.climb thresholds.fall))

/-- Programs thresholds that are higher than the configured ones by the given amounts. -/
def adjustThresholds (sensor : Sensor TouchPads) (now : UInt32) (rise : Thresholds) :
    Outcome (Attempt (Sensor TouchPads)) :=
  let raised : Thresholds :=
    { climb := sensor.source.thresholds.climb + rise.climb
      fall := sensor.source.thresholds.fall + rise.fall }
  if sensor.source.isConfigured = false then .quiet (.failed sensor .notReady)
  else if maxThreshold < raised.climb ∨ maxThreshold < raised.fall then
    .quiet (.failed sensor .badConfig)
  else (sensor.source.pads.foldlM (setPadThresholds now raised) sensor).map .done

/-- Programs triggers into a pad, which is released first. -/
def setPadTriggers (now : UInt32) (triggers : Triggers) (sensor : Sensor TouchPads) (pad : Pad) :
    Outcome (Sensor TouchPads) :=
  (releaseIfDown sensor now pad).map (·.mapSource fun touch =>
    touch.tryIssue (.setTriggers pad.channel triggers.climb triggers.fall))

/-- Programs new triggers; zero stands for the configured one. -/
def adjustTriggers (sensor : Sensor TouchPads) (now : UInt32) (wanted : Triggers) :
    Outcome (Attempt (Sensor TouchPads)) :=
  let chosen : Triggers :=
    { climb := if wanted.climb = 0 then sensor.source.triggers.climb else wanted.climb
      fall := if wanted.fall = 0 then sensor.source.triggers.fall else wanted.fall }
  if sensor.source.isConfigured = false then .quiet (.failed sensor .notReady)
  else if maxTrigger < chosen.climb ∨ maxTrigger < chosen.fall then
    .quiet (.failed sensor .badConfig)
  else (sensor.source.pads.foldlM (setPadTriggers now chosen) sensor).map .done

end KeyGesture.TouchPads
