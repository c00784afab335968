import MidiConsole.Relay.Basic

namespace MidiConsole

open Text

structure Request (τ : Type) where
  direction : Direction
  target : τ
  deriving DecidableEq

/-- The next handle to hand out, and the requests that wait, by handle. -/
structure Switchboard (τ : Type) where
  next : Handle := Handle.invalid.next
  pending : List (Handle × Request τ) := []
  deriving DecidableEq

structure Connection (τ : Type) where
  handle : Handle
  direction : Direction
  device : Device
  target : τ
  deriving DecidableEq

namespace Switchboard

variable {τ ν : Type}

def request? (board : Switchboard τ) (handle : Handle) : Option (Request τ) :=
  board.pending.lookup handle

def isPending (board : Switchboard τ) (handle : Handle) : Bool :=
  (board.request? handle).isSome

def pendingCount (board : Switchboard τ) : Nat :=
  board.pending.length

def erase (handle : Handle) (board : Switchboard τ) : Switchboard τ :=
  { board with pending := board.pending.filter fun entry => entry.1 ≠ handle }

theorem erase_cons_self (next handle : Handle) (request : Request τ)
    (entries : List (Handle × Request τ)) :
    erase handle ⟨next, (handle, request) :: entries⟩ = erase handle ⟨next, entries⟩ := by
  simp [erase]

theorem erase_cons_of_ne {entry : Handle × Request τ} {handle : Handle}
    (h : entry.1 ≠ handle) (next : Handle) (entries : List (Handle × Request τ)) :
    erase handle ⟨next, entry :: entries⟩ =
      ⟨next, entry :: (erase handle ⟨next, entries⟩).pending⟩ := by
  simp [erase, h]

/-- Let a request wait under a handle, in the place of any other. -/
def insert (handle : Handle) (request : Request τ) (board : Switchboard τ) :
    Switchboard τ :=
  let rest := board.erase handle
  { rest with pending := (handle, request) :: rest.pending }

@[simp] theorem request?_erase_self (board : Switchboard τ) (handle : Handle) :
    (board.erase handle).request? handle = none := by
  obtain ⟨next, pending⟩ := board
  induction pending with
  | nil => rfl
  | cons entry entries ih =>
      by_cases hk : entry.1 = handle
      · subst hk
        rwa [erase_cons_self]
      · have hne : (handle == entry.1) = false := by simpa using fun e => hk e.symm
        rw [erase_cons_of_ne hk, request?, List.lookup_cons, hne]
        exact ih

theorem request?_erase_of_ne {other handle : Handle} (h : other ≠ handle)
    (board : Switchboard τ) : (board.erase handle).request? other = board.request? other := by
  obtain ⟨next, pending⟩ := board
  induction pending with
  | nil => rfl
  | cons entry entries ih =>
      by_cases hk : entry.1 = handle
      · subst hk
        have hne : (other == entry.1) = false := by simpa using h
        rw [erase_cons_self, ih, request?, request?, List.lookup_cons, hne]
      · rw [erase_cons_of_ne hk, request?, request?, List.lookup_cons, List.lookup_cons]
        split
        · rfl
        · exact ih

@[simp] theorem request?_insert_self (board : Switchboard τ) (handle : Handle)
    (request : Request τ) : (board.insert handle request).request? handle = some request := by
  simp [insert, request?]

theorem request?_insert_of_ne {other handle : Handle} (h : other ≠ handle)
    (board : Switchboard τ) (request : Request τ) :
    (board.insert handle request).request? other = board.request? other := by
  have hne : (other == handle) = false := by simpa using h
  rw [← request?_erase_of_ne h board, insert, request?, request?, List.lookup_cons, hne]

def advance (board : Switchboard τ) : Switchboard τ :=
  { board with next := board.next.next }

def inspect (board : Switchboard τ) : Inspection :=
  .record "OpenTargets"
    [("next_handle", .number board.next.value.toNat),
     ("pending_count", .number board.pendingCount)]
    false

/-- Let a target wait for a device under a new handle. The handle is used up
before anything else happens. -/
def prepare (direction : Direction) (target : τ) : Journaled ν (Switchboard τ) Relay := do
  let handle ← Journaled.reading next
  Journaled.update advance
  Journaled.log (.preparing direction handle)
  Journaled.update (insert handle ⟨direction, target⟩)
  pure ⟨handle, direction⟩

def cancel (handle : Handle) : Journaled ν (Switchboard τ) Bool := do
  if ← Journaled.reading fun board => board.isPending handle then
    Journaled.update (erase handle)
    Journaled.log (.cancelled handle)
    pure true
  else
    pure false

/-- The request that an opened device is for. The handle decides before the
direction does. -/
def resolve (board : Switchboard τ) (handle : Handle) (direction : Direction) :
    Except OpenError (Request τ) :=
  if handle.isValid then
    match board.request? handle with
    | none => .error (.unknownHandle handle)
    | some request =>
        if request.direction = direction then .ok request
        else .error (.directionMismatch handle request.direction direction)
  else .error (.invalidHandle handle)

/-- Take the request that a device was opened for off the board. A device that
no request waits for leaves the board as it is. -/
def claim (device : Device) (handle : Handle) (direction : Direction) :
    Journaled ν (Switchboard τ) (Except OpenError (Connection τ)) := do
  match ← Journaled.reading fun board => board.resolve handle direction with
  | .error error => do
      Journaled.log (error.notice direction)
      pure (.error error)
  | .ok request => do
      Journaled.update (erase handle)
      Journaled.log (.dispatching direction handle)
      pure (.ok ⟨handle, direction, device, request.target⟩)

theorem prepare_apply (direction : Direction) (target : τ) (w : World ν (Switchboard τ)) :
    prepare direction target w =
      if w.journal.fails (.preparing direction w.state.next) then
        .error .sink
          ⟨w.state.advance, w.journal.write (.preparing direction w.state.next)⟩
      else
        .ok ⟨w.state.next, direction⟩
          ⟨w.state.advance.insert w.state.next ⟨direction, target⟩,
            w.journal.write (.preparing direction w.state.next)⟩ := by
  cases h : w.journal.fails (.preparing direction w.state.next) <;>
    simp [prepare, h]

theorem cancel_of_not_isPending {handle : Handle} {w : World ν (Switchboard τ)}
    (h : w.state.isPending handle = false) : cancel handle w = .ok false w := by
  simp [cancel, h]

theorem cancel_of_isPending {handle : Handle} {w : World ν (Switchboard τ)}
    (h : w.state.isPending handle) :
    cancel handle w =
      if w.journal.fails (.cancelled handle) then
        .error .sink ⟨w.state.erase handle, w.journal.write (.cancelled handle)⟩
      else .ok true ⟨w.state.erase handle, w.journal.write (.cancelled handle)⟩ := by
  cases hf : w.journal.fails (.cancelled handle) <;> simp [cancel, h, hf]

theorem claim_of_resolve_error {handle : Handle} {direction : Direction}
    {w : World ν (Switchboard τ)} {error : OpenError}
    (h : w.state.resolve handle direction = .error error) (device : Device) :
    claim device handle direction w =
      if w.journal.fails (error.notice direction) then
        .error .sink ⟨w.state, w.journal.write (error.notice direction)⟩
      else .ok (.error error) ⟨w.state, w.journal.write (error.notice direction)⟩ := by
  cases hf : w.journal.fails (error.notice direction) <;> simp [claim, h, hf]

theorem claim_of_resolve_ok {handle : Handle} {direction : Direction}
    {w : World ν (Switchboard τ)} {request : Request τ}
    (h : w.state.resolve handle direction = .ok request) (device : Device) :
    claim device handle direction w =
      if w.journal.fails (.dispatching direction handle) then
        .error .sink ⟨w.state.erase handle, w.journal.write (.dispatching direction handle)⟩
      else
        .ok (.ok ⟨handle, direction, device, request.target⟩)
          ⟨w.state.erase handle, w.journal.write (.dispatching direction handle)⟩ := by
  cases hf : w.journal.fails (.dispatching direction handle) <;> simp [claim, h, hf]

theorem resolve_eq_ok_iff {board : Switchboard τ} {handle : Handle}
    {direction : Direction} {request : Request τ} :
    board.resolve handle direction = .ok request ↔
      handle.isValid ∧ board.request? handle = some request ∧
        request.direction = direction := by
  unfold resolve
  split
  · next hv =>
      split
      · next hn => simp [hn]
      · next found hs =>
          split
          · next hd =>
              simp only [Except.ok.injEq, hv, hs, Option.some.injEq, true_and]
              constructor
              · rintro rfl
                exact ⟨rfl, hd⟩
              · exact fun h => h.1
          · next hd =>
              simp only [reduceCtorEq, false_iff, hs, Option.some.injEq]
              rintro ⟨-, rfl, h⟩
              exact hd h
  · next hv => simp [hv]

theorem resolve_ne_notOpened (board : Switchboard τ) (handle other : Handle)
    (direction expected : Direction) :
    board.resolve handle direction ≠ .error (.notOpened other expected) := by
  unfold resolve
  split
  · split
    · simp
    · split <;> simp
  · simp

end Switchboard

end MidiConsole
