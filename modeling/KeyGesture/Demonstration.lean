import KeyGesture.Bench.Script

namespace KeyGesture.Demonstration

/-! Scripts of edges and the lines that tell what a recognizer makes of them. -/

structure Demo where
  title : String
  script : List Cue
  deriving DecidableEq, Repr

def timing : Timing :=
  { repeatStart := 30000, multiTap := 200 }

/-- The keys on the bench and their channels. -/
def keys : List (Key × Nat) :=
  [(⟨0, .io⟩, 5), (⟨1, .io⟩, 6)]

def describeKey (key : Key) : String :=
  key.id.repr ++ "/" ++ key.source.label

/-- What was made by which keys; the mark in front tells a chord from a key alone. -/
def describe (event : Event) : String :=
  let kind := (event.gesture?.map Gesture.label).getD "?"
  let keys := event.keys.map describeKey
  if event.isChord then "🎹 " ++ kind ++ " [" ++ String.intercalate " + " keys ++ "]"
  else "🔘 " ++ kind ++ " [" ++ String.join keys ++ "]"

/-- Registers keys one after the other; the first refusal is reported with the key's number. -/
def registerAll (bench : Bench) : List (Key × Nat) → Except (Key × Rejection) Bench
  | [] => .ok bench
  | (key, channel) :: rest =>
      match bench.recognizer.register key channel with
      | .ok (_, recognizer) => registerAll { bench with recognizer } rest
      | .error cause => .error (key, cause)

def Demo.lines (demo : Demo) : List String :=
  let title := "▶ " ++ demo.title
  match registerAll { recognizer := Recognizer.setTiming {} timing } keys with
  | .error (key, cause) => [title, "  ❌ register key " ++ key.id.repr ++ ": " ++ cause.message]
  | .ok bench =>
      let replayed := bench.replay demo.script 50 400
      title :: replayed.events.map (fun event => "  " ++ describe event) ++ [""]

def demos : List Demo :=
  [{ title := "Single tap", script := [⟨0, .press 5⟩, ⟨90, .release 5⟩] },
    { title := "Triple tap"
      script :=
        [⟨0, .press 5⟩, ⟨80, .release 5⟩, ⟨180, .press 5⟩, ⟨260, .release 5⟩, ⟨360, .press 5⟩,
          ⟨440, .release 5⟩] },
    { title := "Long hold", script := [⟨0, .press 5⟩, ⟨4500, .release 5⟩] },
    { title := "Two-key chord"
      script := [⟨0, .press 5⟩, ⟨40, .press 6⟩, ⟨200, .release 5⟩, ⟨260, .release 6⟩] }]

/-- Everything the program prints, line by line. -/
def transcript : List String :=
  ["🎧 TWS Key Engine Gesture Replay", ""] ++ demos.flatMap Demo.lines ++
    ["✅ Replay finished", "", "📝 Run the test suite with: cargo test"]

end KeyGesture.Demonstration
