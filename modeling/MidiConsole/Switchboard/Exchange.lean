import MidiConsole.Switchboard.Basic

/-!
An exchange has several switchboards, and lines to them. A step is begun here:
the boards and lines change and the answer is fixed, and what is left is to
give a connected target its device.
-/

namespace MidiConsole

open Text

/-- A relay that reports to a board. A line that came with a request also
gives it up when no device could be opened. -/
structure Line where
  board : Nat
  relay : Relay
  cancelsOnFailure : Bool
  deriving DecidableEq

namespace Line

variable {τ ν σ ρ : Type}

/-- Report whether a device could be opened, with given ways to bring a device to
the board and to give a request up. -/
def deliverBy (connect : Device → Handle → Direction → Journaled ν σ (Except OpenError ρ))
    (giveUp : Handle → Journaled ν σ Bool) (line : Line) (device : Option Device) :
    Journaled ν σ (Except OpenError ρ) := do
  let result ← line.relay.deliver connect device
  match result with
  | .error (.notOpened handle _) =>
      if line.cancelsOnFailure then
        let _ ← giveUp handle
        pure result
      else
        pure result
  | _ => pure result

def deliver (line : Line) (device : Option Device) :
    Journaled ν (Switchboard τ) (Except OpenError (Connection τ)) :=
  line.deliverBy Switchboard.claim Switchboard.cancel device

theorem deliver_some_apply (line : Line) (device : Device) (w : World ν (Switchboard τ)) :
    line.deliver (some device) w =
      if w.journal.fails (.opened line.relay.direction line.relay.handle) then
        .error .sink
          ⟨w.state, w.journal.write (.opened line.relay.direction line.relay.handle)⟩
      else
        Switchboard.claim device line.relay.handle line.relay.direction
          ⟨w.state, w.journal.write (.opened line.relay.direction line.relay.handle)⟩ := by
  simp only [deliver, deliverBy, Relay.deliver, Journaled.bind_apply, Journaled.log_apply]
  cases w.journal.fails (.opened line.relay.direction line.relay.handle) with
  | true => rfl
  | false =>
      simp only [Bool.false_eq_true, if_false]
      generalize hv : World.mk w.state
        (w.journal.write (.opened line.relay.direction line.relay.handle)) = v
      cases hr : v.state.resolve line.relay.handle line.relay.direction with
      | error error =>
          rw [Switchboard.claim_of_resolve_error hr]
          cases v.journal.fails (error.notice line.relay.direction) with
          | true => rfl
          | false =>
              cases error with
              | notOpened handle direction =>
                  exact absurd hr (Switchboard.resolve_ne_notOpened _ _ _ _ _)
              | invalidHandle handle => rfl
              | unknownHandle handle => rfl
              | directionMismatch handle expected actual => rfl
      | ok request =>
          rw [Switchboard.claim_of_resolve_ok hr]
          cases v.journal.fails (.dispatching line.relay.direction line.relay.handle) <;> rfl

theorem deliver_none_apply (line : Line) (w : World ν (Switchboard τ)) :
    line.deliver none w =
      if w.journal.fails (.openFailed line.relay.direction line.relay.handle) then
        .error .sink
          ⟨w.state, w.journal.write (.openFailed line.relay.direction line.relay.handle)⟩
      else
        (if line.cancelsOnFailure then Switchboard.cancel line.relay.handle else pure false :
            Journaled ν (Switchboard τ) Bool).map
          (fun _ => .error (.notOpened line.relay.handle line.relay.direction))
          ⟨w.state, w.journal.write (.openFailed line.relay.direction line.relay.handle)⟩ := by
  simp only [deliver, deliverBy, Relay.deliver, Journaled.bind_apply, Journaled.log_apply]
  cases w.journal.fails (.openFailed line.relay.direction line.relay.handle) with
  | true => rfl
  | false =>
      simp only [Bool.false_eq_true, if_false, Journaled.pure_apply]
      cases line.cancelsOnFailure with
      | true => rfl
      | false => rfl

def inspect (line : Line) (board : Switchboard τ) : Inspection :=
  let relay := line.relay.inspect board.inspect
  if line.cancelsOnFailure then .record "PendingOpenRelay" [("relay", relay)] true else relay

end Line

inductive Command (τ : Type) where
  | addBoard
  | prepare (direction : Direction) (target : τ)
  | addLine (relay : Relay)
  | deliver (line : Nat) (device : Option Device)
  | connect (relay : Relay) (device : Device)
  | cancel (handle : Handle)
  | cancelLine (line : Nat)
  | count
  | inspect (spread : Bool)
  | describeLine (line : Nat)
  | inspectLine (line : Nat)
  | cloneLine (line : Nat)
  | dropLine (line : Nat)
  deriving DecidableEq

structure Step (τ : Type) where
  board : Nat
  command : Command τ
  deriving DecidableEq

inductive Reply where
  | board (index : Nat)
  | prepared (line : Nat) (relay : Relay)
  | line (index : Nat)
  | opened (result : Except OpenError Unit)
  | flag (value : Bool)
  | count (pending : Nat)
  | text (text : String)
  | relay (relay : Relay)
  | noBoard
  | noLine
  | notClonable

structure Dispatch (τ : Type) where
  board : Nat
  connection : Connection τ
  deriving DecidableEq

/-- Boards and lines, in the order in which they were added. The place of a
line that was dropped stays empty. -/
structure Exchange (τ : Type) where
  boards : List (Switchboard τ) := [{}]
  lines : List (Option Line) := []
  deriving DecidableEq

namespace Exchange

variable {τ ν α : Type}

def board? (exchange : Exchange τ) (index : Nat) : Option (Switchboard τ) :=
  exchange.boards[index]?

def line? (exchange : Exchange τ) (index : Nat) : Option Line :=
  exchange.lines[index]?.join

def setBoard (index : Nat) (board : Switchboard τ) (exchange : Exchange τ) : Exchange τ :=
  { exchange with boards := exchange.boards.set index board }

def addBoard (exchange : Exchange τ) : Exchange τ :=
  { exchange with boards := exchange.boards ++ [{}] }

def addLine (line : Line) (exchange : Exchange τ) : Exchange τ :=
  { exchange with lines := exchange.lines ++ [some line] }

def dropLine (index : Nat) (exchange : Exchange τ) : Exchange τ :=
  { exchange with lines := exchange.lines.set index none }

/-- What a step comes to before any target has its device: the answer, and the
connection that was made, if any. -/
structure Begun (τ : Type) where
  reply : Reply
  dispatch : Option (Dispatch τ) := none

def onBoard (index : Nat) (board : Switchboard τ) (act : Journaled ν (Switchboard τ) α) :
    Journaled ν (Exchange τ) α :=
  Journaled.within (fun _ => board) (setBoard index) act

def settle (board : Nat) : Except OpenError (Connection τ) → Begun τ
  | .ok connection => ⟨.opened (.ok ()), some ⟨board, connection⟩⟩
  | .error error => ⟨.opened (.error error), none⟩

def openLine (line : Line) (answer : Nat → Reply) : Journaled ν (Exchange τ) (Begun τ) := do
  let index ← Journaled.reading fun exchange => exchange.lines.length
  Journaled.update (addLine line)
  pure ⟨answer index, none⟩

/-- Report to a line. It reports to the board that it was made for. -/
def deliver (line : Line) (device : Option Device) : Journaled ν (Exchange τ) (Begun τ) := do
  match ← Journaled.reading fun exchange => exchange.board? line.board with
  | none => pure ⟨.noBoard, none⟩
  | some board => settle line.board <$> onBoard line.board board (line.deliver device)

def inspectLine (line : Line) : Journaled ν (Exchange τ) (Begun τ) := do
  match ← Journaled.reading fun exchange => exchange.board? line.board with
  | none => pure ⟨.noBoard, none⟩
  | some board => pure ⟨.text (line.inspect board).compact, none⟩

def withLine (index : Nat) (missing : Reply)
    (act : Line → Journaled ν (Exchange τ) (Begun τ)) : Journaled ν (Exchange τ) (Begun τ) := do
  match ← Journaled.reading fun exchange => exchange.line? index with
  | none => pure ⟨missing, none⟩
  | some line => act line

def beginOn (index : Nat) (board : Switchboard τ) :
    Command τ → Journaled ν (Exchange τ) (Begun τ)
  | .addBoard => do
      let index ← Journaled.reading fun exchange => exchange.boards.length
      Journaled.update addBoard
      pure ⟨.board index, none⟩
  | .prepare direction target => do
      let relay ← onBoard index board (Switchboard.prepare direction target)
      openLine ⟨index, relay, true⟩ fun line => .prepared line relay
  | .addLine relay => openLine ⟨index, relay, false⟩ .line
  | .deliver line device => withLine line .noLine fun line => deliver line device
  | .connect relay device =>
      settle index <$>
        onBoard index board (Switchboard.claim device relay.handle relay.direction)
  | .cancel handle => do
      let cancelled ← onBoard index board (Switchboard.cancel handle)
      pure ⟨.flag cancelled, none⟩
  | .cancelLine line => withLine line .noLine fun line => do
      let cancelled ← onBoard index board (Switchboard.cancel line.relay.handle)
      pure ⟨.flag cancelled, none⟩
  | .count => pure ⟨.count board.pendingCount, none⟩
  | .inspect spread =>
      pure ⟨.text (if spread then board.inspect.spread else board.inspect.compact), none⟩
  | .describeLine line => withLine line .noLine fun line => pure ⟨.relay line.relay, none⟩
  | .inspectLine line => withLine line .noLine inspectLine
  | .cloneLine line => withLine line .noLine fun line =>
      if line.cancelsOnFailure then pure ⟨.notClonable, none⟩ else openLine line .line
  | .dropLine index => withLine index (.flag false) fun _ => do
      Journaled.update (dropLine index)
      pure ⟨.flag true, none⟩

def begin (step : Step τ) : Journaled ν (Exchange τ) (Begun τ) := do
  match ← Journaled.reading fun exchange => exchange.board? step.board with
  | none => pure ⟨.noBoard, none⟩
  | some board => beginOn step.board board step.command

theorem deliver_of_board?_eq_some {line : Line} {board : Switchboard τ}
    {w : World ν (Exchange τ)} (h : w.state.board? line.board = some board)
    (device : Option Device) :
    deliver line device w =
      (settle line.board <$> onBoard line.board board (line.deliver device)) w := by
  simp [deliver, h]

theorem deliver_of_board?_eq_none {line : Line} {w : World ν (Exchange τ)}
    (h : w.state.board? line.board = none) (device : Option Device) :
    deliver line device w = .ok ⟨.noBoard, none⟩ w := by
  simp [deliver, h]

theorem withLine_of_line?_eq_some {index : Nat} {line : Line} {w : World ν (Exchange τ)}
    (h : w.state.line? index = some line) (missing : Reply)
    (act : Line → Journaled ν (Exchange τ) (Begun τ)) :
    withLine index missing act w = act line w := by
  simp [withLine, h]

theorem withLine_of_line?_eq_none {index : Nat} {w : World ν (Exchange τ)}
    (h : w.state.line? index = none) (missing : Reply)
    (act : Line → Journaled ν (Exchange τ) (Begun τ)) :
    withLine index missing act w = .ok ⟨missing, none⟩ w := by
  simp [withLine, h]

theorem begin_of_board?_eq_some {step : Step τ} {board : Switchboard τ}
    {w : World ν (Exchange τ)} (h : w.state.board? step.board = some board) :
    begin step w = beginOn step.board board step.command w := by
  simp [begin, h]

theorem begin_of_board?_eq_none {step : Step τ} {w : World ν (Exchange τ)}
    (h : w.state.board? step.board = none) : begin step w = .ok ⟨.noBoard, none⟩ w := by
  simp [begin, h]

end Exchange

end MidiConsole
