import KeyGesture.Proofs.Sensor.Actions

namespace KeyGesture

/-! What is on record of the hardware while it is in use. Starts enable channels and note them; shutting down
disables noted channels, which changes neither the wiring of a board nor what was enabled on it; and nothing
else touches a board, unless it is replaced. -/

/-- The commands that were asked for, oldest first, whether they worked or not. -/
def Peripheral.asked {γ : Type} (peripheral : Peripheral γ) : List γ :=
  peripheral.history.map Prod.fst

theorem Peripheral.asked_issue {γ : Type} (peripheral : Peripheral γ) (command : γ) :
    (peripheral.issue command).state.asked = peripheral.asked ++ [command] := by
  rw [asked, history_issue, List.map_append]
  rfl

namespace Board

/-- How a board is wired and which channels were enabled on it. -/
def record (board : Board) : Wiring × List (Nat × Nat) :=
  (board.wiring, board.enabled)

section Enabling

variable {board : Board} {channel debounce : Nat} {source : Source}

theorem enabled_issue_of_well (well : (board.issue (.enable channel source debounce)).fault = none) :
    (board.issue (.enable channel source debounce)).state.enabled =
      board.enabled ++ [(channel, debounce)] := by
  have worked : (board.lines.issue (.enable channel source debounce)).fault = none := well
  rw [enabled, Board.issue, Attempt.map, Peripheral.accepted_issue, worked, List.filterMap_append]
  rfl

theorem enabled_issue_of_faulty {fault : Fault}
    (faulty : (board.issue (.enable channel source debounce)).fault = some fault) :
    (board.issue (.enable channel source debounce)).state.enabled = board.enabled := by
  have failed : (board.lines.issue (.enable channel source debounce)).fault = some fault := faulty
  rw [enabled, Board.issue, Attempt.map, Peripheral.accepted_issue, failed, List.filterMap_append]
  exact List.append_nil _

end Enabling

/-- Disables channels one after the other; what fails is let pass. -/
def disableAll (board : Board) (source : Source) (channels : List Nat) : Board :=
  channels.foldl (fun board channel => board.tryIssue (.disable channel source)) board

theorem asked_disableAll (board : Board) (source : Source) (channels : List Nat) :
    (board.disableAll source channels).lines.asked =
      board.lines.asked ++ channels.map fun channel => .disable channel source := by
  induction channels generalizing board with
  | nil => exact (List.append_nil _).symm
  | cons channel rest ih =>
      rw [disableAll, List.foldl_cons]
      refine (ih _).trans ?_
      rw [tryIssue, Peripheral.tryIssue, Peripheral.asked_issue, List.append_assoc]
      rfl

theorem record_disable (board : Board) (channel : Nat) (source : Source) :
    (board.tryIssue (.disable channel source)).record = board.record := by
  refine Prod.ext rfl ?_
  change (board.lines.issue (.disable channel source)).state.accepted.filterMap LineCommand.enabled? = _
  rw [Peripheral.accepted_issue, List.filterMap_append]
  split <;> exact List.append_nil _

theorem record_disableAll (board : Board) (source : Source) (channels : List Nat) :
    (board.disableAll source channels).record = board.record :=
  List.foldlRecOn (motive := fun between : Board => between.record = board.record) channels _ rfl
    fun between kept channel _ => (between.record_disable channel source).trans kept

/-- Shuts channels off, unless they are to wake the system. -/
def shutOff (board : Board) (source : Source) (channels : List Nat) (wakes : Bool) : Board :=
  if wakes then board else board.disableAll source channels

theorem record_shutOff (board : Board) (source : Source) (channels : List Nat) (wakes : Bool) :
    (board.shutOff source channels wakes).record = board.record := by
  rw [shutOff]
  split
  · rfl
  · exact board.record_disableAll source channels

end Board

namespace DebouncedLines

/-- The board is not replaced. -/
def SparesBoard : SelfReporting.Work DebouncedLines → Prop :=
  fun _ => False

theorem lastsBetweenStarts {α : Type} (part : DebouncedLines → α)
    (same : ∀ (lines : DebouncedLines) toIntake, part { lines with toIntake } = part lines)
    (detach : ∀ lines wakes, part (DebouncedLines.detach lines wakes) = part lines) :
    LastsBetweenStarts part SparesBoard := by
  refine ⟨fun sensor now message => ?_, fun _ _ _ spared => spared.elim, detach⟩
  cases message with
  | heldAtStart channel => exact same sensor.source _
  | pressed channel =>
      change part (handle sensor now (.pressed channel)).value.source = _
      rw [handle]
      split
      · rfl
      · exact same sensor.source _
  | released channel => rfl
  | tick =>
      change part (handle sensor now .tick).value.source = _
      rw [handle]
      split
      · rfl
      · exact sensor.source_tick now fun lines => same lines _
  | setEnabled enable => rfl

theorem board_detach (lines : DebouncedLines) (wakes : Bool) :
    (detach lines wakes).board = lines.board.shutOff .io lines.channels wakes := by
  cases wakes <;> rfl

theorem channels_detach (lines : DebouncedLines) (wakes : Bool) :
    (detach lines wakes).channels = lines.channels := by
  cases wakes <;> rfl

theorem setAtStart_channels : SetAtStart DebouncedLines.channels where
  process := (lastsBetweenStarts DebouncedLines.channels (fun _ _ => rfl) channels_detach).process
  carryOut _ _ _ _ := rfl
  detach := channels_detach

/-- The channels on record, the wiring and what was enabled. -/
def record (lines : DebouncedLines) : List Nat × Wiring × List (Nat × Nat) :=
  (lines.channels, lines.board.record)

theorem lasts_record : LastsBetweenStarts record SparesBoard :=
  lastsBetweenStarts record (fun _ _ => rfl) fun lines wakes =>
    Prod.ext (lines.channels_detach wakes)
      ((congrArg Board.record (lines.board_detach wakes)).trans (lines.board.record_shutOff _ _ _))

end DebouncedLines

namespace GatedLine

theorem board_detach (line : GatedLine) (wakes : Bool) :
    (detach line wakes).board = line.board.shutOff .external line.channel?.toList wakes := by
  cases recorded : line.channel? <;> cases wakes <;> simp only [detach, recorded] <;> rfl

/-- The channel on record, the wiring and what was enabled. -/
def record (line : GatedLine) : Option Nat × Wiring × List (Nat × Nat) :=
  (line.channel?, line.board.record)

theorem lasts_record : LastsBetweenStarts record SparesBoard :=
  lastsBetweenStarts record (fun _ _ _ => rfl) fun line wakes =>
    Prod.ext (line.channel?_detach wakes)
      ((congrArg Board.record (line.board_detach wakes)).trans (line.board.record_shutOff _ _ _))

end GatedLine

namespace TouchPads

theorem board_detach (touch : TouchPads) (wakes : Bool) :
    (detach touch wakes).board = touch.board.shutOff .touch (touch.pads.map Pad.channel) wakes := by
  cases wakes with
  | true => rfl
  | false =>
      rw [Board.shutOff, if_neg Bool.false_ne_true, Board.disableAll, List.foldl_map]
      rfl

/-- The pads on record, the wiring and what was enabled. -/
def record (touch : TouchPads) : List Pad × Wiring × List (Nat × Nat) :=
  (touch.pads, touch.board.record)

theorem lasts_record : LastsBetweenStarts record SparesBoard :=
  lastsBetweenStarts record (fun _ _ _ _ _ => rfl) fun touch wakes =>
    Prod.ext (setAtStart_pads.detach touch wakes)
      ((congrArg Board.record (touch.board_detach wakes)).trans (touch.board.record_shutOff _ _ _))

end TouchPads

end KeyGesture
