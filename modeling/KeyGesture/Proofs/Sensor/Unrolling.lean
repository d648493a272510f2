import KeyGesture.Proofs.Sensor.Service

namespace KeyGesture

/-! A history of a sensor, one message at a time. -/

variable {δ τ : Type} [EdgeSource δ] [SelfReporting δ]

/-- The messages that an operation processes. -/
def Operation.messages : Operation δ → List Message
  | .process message => [message]
  | .drain mailbox => mailbox.waiting
  | .start _ | .setEnabled _ | .shutDown _ | .work _ => []

def Operation.isDrain : Operation δ → Bool
  | .drain _ => true
  | .start _ | .process _ | .setEnabled _ | .shutDown _ | .work _ => false

/-- To empty a mailbox is to process the messages in it one after the other. -/
def Operation.unrolled : Operation δ → List (Operation δ)
  | .drain mailbox => mailbox.waiting.map .process
  | operation => [operation]

def messages (history : List (τ × Operation δ)) : List Message :=
  history.flatMap fun moment => moment.2.messages

/-- The same history, one message at a time. -/
def unroll (history : List (τ × Operation δ)) : List (τ × Operation δ) :=
  history.flatMap fun moment => moment.2.unrolled.map (moment.1, ·)

theorem Operation.isDrain_unrolled {operation part : Operation δ} (member : part ∈ operation.unrolled) :
    part.isDrain = false := by
  cases operation with
  | drain mailbox =>
      obtain ⟨message, _, rfl⟩ := List.mem_map.mp member
      rfl
  | start | process | setEnabled | shutDown | work =>
      obtain rfl := List.mem_singleton.mp member
      rfl

theorem isDrain_unroll {history : List (τ × Operation δ)} {moment : τ × Operation δ}
    (member : moment ∈ unroll history) : moment.2.isDrain = false := by
  obtain ⟨whole, _, part⟩ := List.mem_flatMap.mp member
  obtain ⟨operation, unrolled, rfl⟩ := List.mem_map.mp part
  exact Operation.isDrain_unrolled unrolled

theorem unroll_eq_self {history : List (τ × Operation δ)}
    (singles : ∀ moment ∈ history, moment.2.isDrain = false) : unroll history = history := by
  have each : ∀ moment ∈ history, moment.2.unrolled.map (moment.1, ·) = [moment] := by
    intro moment member
    obtain ⟨instant, operation⟩ := moment
    have single := singles (instant, operation) member
    cases operation with
    | drain mailbox => contradiction
    | start | process | setEnabled | shutDown | work => rfl
  rw [unroll, List.flatMap_congr each, List.flatMap_singleton']

theorem Operation.eq_process_of_mem_messages {operation : Operation δ} {message : Message}
    (single : operation.isDrain = false) (member : message ∈ operation.messages) :
    operation = .process message := by
  cases operation with
  | process posted => rw [List.mem_singleton.mp member]
  | drain mailbox => contradiction
  | start | setEnabled | shutDown | work => exact absurd member List.not_mem_nil

theorem Operation.tick_or_released_or_other (operation : Operation δ) (single : operation.isDrain = false) :
    operation = .process .tick ∨ (∃ channel, operation = .process (.released channel)) ∨
      .tick ∉ operation.messages ∧ ∀ channel, .released channel ∉ operation.messages := by
  cases operation with
  | process message => cases message <;> simp [messages]
  | drain mailbox => contradiction
  | start | setEnabled | shutDown | work => simp [messages]

theorem messages_concat (history : List (τ × Operation δ)) (moment : τ × Operation δ) :
    messages (history ++ [moment]) = messages history ++ moment.2.messages := by
  simp [messages]

theorem messages_unroll (history : List (τ × Operation δ)) :
    messages (unroll history) = messages history := by
  have each (operation : Operation δ) (instant : τ) :
      messages (operation.unrolled.map (instant, ·)) = operation.messages := by
    cases operation with
    | drain mailbox => simp [Operation.unrolled, messages, Operation.messages, List.flatMap_map]
    | start | process | setEnabled | shutDown | work => rfl
  induction history with
  | nil => rfl
  | cons moment rest ih =>
      have split : messages (unroll (moment :: rest)) =
          messages (moment.2.unrolled.map (moment.1, ·)) ++ messages (unroll rest) :=
        List.flatMap_append
      rw [split, each, ih]
      rfl

namespace Sensor

theorem serve_append (sensor : Sensor δ) (earlier later : List (UInt32 × Operation δ)) :
    sensor.serve (earlier ++ later) = (sensor.serve earlier).serve later :=
  List.foldl_append

theorem serve_unrolled (sensor : Sensor δ) (now : UInt32) (operation : Operation δ) :
    sensor.serve (operation.unrolled.map (now, ·)) = sensor.operate now operation := by
  cases operation with
  | drain mailbox =>
      rw [operate, value_drain, Operation.unrolled, List.map_map, serve, processEach, List.foldl_map,
        List.foldl_map]
      rfl
  | start | process | setEnabled | shutDown | work => rfl

theorem serve_unroll (sensor : Sensor δ) (history : List (UInt32 × Operation δ)) :
    sensor.serve (unroll history) = sensor.serve history := by
  induction history generalizing sensor with
  | nil => rfl
  | cons moment rest ih =>
      have parts : unroll (moment :: rest) = moment.2.unrolled.map (moment.1, ·) ++ unroll rest := rfl
      rw [parts, serve_append, serve_unrolled, ih]
      rfl

end Sensor

end KeyGesture
