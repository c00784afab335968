import MidiConsole.Proofs.Delivery
import MidiConsole.Proofs.Sameness
import MidiConsole.Proofs.StepCourse

/-!
A board whose requests are kept under a lock. An action that is cut short while it
holds the lock spoils it, which happens when the log fails at the notice of a device that
is turned away. A spoilt lock is entered all the same.

The main statement is that the operations of a locked board come to the same as those of
a board without a lock, whether or not the lock is spoilt.
-/

namespace MidiConsole

open Journaled

variable {τ ν σ ρ α : Type}

/-- A lock and what it guards. It is spoilt when a holder has been cut short. -/
structure Lock (σ : Type) where
  content : σ
  spoilt : Bool := false

namespace Lock

/-- A lock that is spoilt gives what it guards as an error. -/
def acquire (lock : Lock σ) : Except σ σ :=
  if lock.spoilt then .error lock.content else .ok lock.content

def enter (lock : Lock σ) : σ :=
  match lock.acquire with
  | .ok content => content
  | .error content => content

theorem enter_eq (lock : Lock σ) : lock.enter = lock.content := by
  rw [enter, acquire]
  cases lock.spoilt <;> rfl

def holding (act : Journaled ν σ α) : Journaled ν (Lock σ) α :=
  fun w =>
    match act ⟨w.state.enter, w.journal⟩ with
    | .ok a v => .ok a ⟨⟨v.state, w.state.spoilt⟩, v.journal⟩
    | .error fault v => .error fault ⟨⟨v.state, true⟩, v.journal⟩

def StandsFor (lock : Lock σ) (s : σ) : Prop :=
  lock.content = s

theorem standsFor_content (lock : Lock σ) : lock.StandsFor lock.content :=
  rfl

theorem agree_holding (lock : Lock σ) (act : Journaled ν σ α) :
    Agree StandsFor lock lock.content (holding act) act := by
  intro journal
  rw [holding]
  dsimp only
  rw [enter_eq]
  cases act ⟨lock.content, journal⟩ with
  | ok a w => exact .ok a w.journal (standsFor_content _)
  | error fault w => exact .error fault w.journal (standsFor_content _)

end Lock

namespace Switchboard

def remove (handle : Handle) : Journaled ν (Switchboard τ) Bool := do
  let found ← reading fun board => board.isPending handle
  update (erase handle)
  pure found

def take (handle : Handle) (direction : Direction) :
    Journaled ν (Switchboard τ) (Except OpenError (Request τ)) := do
  match ← reading fun board => board.request? handle with
  | none =>
      log (.unknownHandle handle)
      pure (.error (.unknownHandle handle))
  | some request =>
      if request.direction = direction then
        update (erase handle)
        pure (.ok request)
      else
        log (.directionMismatch handle request.direction direction)
        pure (.error (.directionMismatch handle request.direction direction))

theorem cancel_eq (handle : Handle) : cancel (ν := ν) (τ := τ) handle = (do
    if ← remove handle then
      log (.cancelled handle)
      pure true
    else
      pure false) := by
  funext w
  cases hpending : w.state.isPending handle with
  | true => simp [cancel, remove, hpending]
  | false =>
      have hnone : w.state.request? handle = none := by simpa [isPending] using hpending
      simp [cancel, remove, hpending, erase_of_request?_eq_none hnone]

theorem claim_eq (device : Device) (handle : Handle) (direction : Direction) :
    claim (ν := ν) (τ := τ) device handle direction = (do
      if handle.isValid then
        match ← take handle direction with
        | .error error => pure (.error error)
        | .ok request =>
            log (.dispatching direction handle)
            pure (.ok ⟨handle, direction, device, request.target⟩)
      else
        log (.invalidHandle direction handle)
        pure (.error (.invalidHandle handle))) := by
  funext w
  by_cases hvalid : handle.isValid
  · rw [if_pos hvalid, bind_apply, take]
    cases hrequest : w.state.request? handle with
    | none =>
        rw [claim_of_resolve_error (resolve_of_request?_eq_none hvalid hrequest direction)]
        cases hfails : w.journal.fails (.unknownHandle handle) <;>
          simp [OpenError.notice, hrequest, hfails]
    | some request =>
        by_cases hdirection : request.direction = direction
        · rw [claim_of_resolve_ok (resolve_eq_ok_iff.mpr ⟨hvalid, hrequest, hdirection⟩)]
          cases hfails : w.journal.fails (.dispatching direction handle) <;>
            simp [hrequest, hdirection, hfails]
        · have hresolve : w.state.resolve handle direction =
              .error (.directionMismatch handle request.direction direction) := by
            rw [resolve, if_pos hvalid, hrequest]
            exact if_neg hdirection
          rw [claim_of_resolve_error hresolve]
          cases hfails : w.journal.fails
              (.directionMismatch handle request.direction direction) <;>
            simp [OpenError.notice, hrequest, hdirection, hfails]
  · have hresolve : w.state.resolve handle direction = .error (.invalidHandle handle) :=
      if_neg hvalid
    rw [if_neg hvalid, claim_of_resolve_error hresolve]
    cases hfails : w.journal.fails (.invalidHandle direction handle) <;>
      simp [OpenError.notice, hfails]

end Switchboard

/-- A board whose requests are kept under a lock. The next handle can be read and
advanced without it. -/
abbrev LockedBoard (τ : Type) : Type :=
  Lock (Switchboard τ)

namespace LockedBoard

open Lock

/-- The lock is taken only when the notice has been logged. -/
def prepare (direction : Direction) (target : τ) : Journaled ν (LockedBoard τ) Relay := do
  let handle ← reading fun lock => lock.content.next
  update fun lock => { lock with content := lock.content.advance }
  log (.preparing direction handle)
  holding (update (Switchboard.insert handle ⟨direction, target⟩))
  pure ⟨handle, direction⟩

def cancel (handle : Handle) : Journaled ν (LockedBoard τ) Bool := do
  if ← holding (Switchboard.remove handle) then
    log (.cancelled handle)
    pure true
  else
    pure false

/-- A device that is turned away is noted while the lock is held, unless its handle is
the reserved one. -/
def claim (device : Device) (handle : Handle) (direction : Direction) :
    Journaled ν (LockedBoard τ) (Except OpenError (Connection τ)) := do
  if handle.isValid then
    match ← holding (Switchboard.take handle direction) with
    | .error error => pure (.error error)
    | .ok request =>
        log (.dispatching direction handle)
        pure (.ok ⟨handle, direction, device, request.target⟩)
  else
    log (.invalidHandle direction handle)
    pure (.error (.invalidHandle handle))

def pendingCount : Journaled ν (LockedBoard τ) Nat :=
  holding (reading Switchboard.pendingCount)

variable {lock : LockedBoard τ}

theorem agree_prepare (direction : Direction) (target : τ) :
    Agree (ν := ν) StandsFor lock lock.content (prepare direction target)
      (Switchboard.prepare direction target) := by
  refine .bind_reading rfl ?_
  refine .bind (.update rfl) ?_
  rintro - lock board rfl
  refine .bind (.log lock.standsFor_content _) ?_
  rintro - lock board rfl
  refine .bind (lock.agree_holding _) ?_
  rintro - lock board h
  exact .pure h _

theorem agree_cancel (handle : Handle) :
    Agree (ν := ν) StandsFor lock lock.content (cancel handle) (Switchboard.cancel handle) := by
  rw [Switchboard.cancel_eq]
  refine .bind (lock.agree_holding _) fun found lock board h => ?_
  cases found with
  | true => exact .bind (.log h _) fun _ _ _ h => .pure h true
  | false => exact .pure h false

theorem agree_claim (device : Device) (handle : Handle) (direction : Direction) :
    Agree (ν := ν) StandsFor lock lock.content (claim device handle direction)
      (Switchboard.claim device handle direction) := by
  rw [Switchboard.claim_eq, claim]
  by_cases hvalid : handle.isValid
  · rw [if_pos hvalid, if_pos hvalid]
    refine .bind (lock.agree_holding _) fun found lock board h => ?_
    cases found with
    | error error => exact .pure h _
    | ok request => exact .bind (.log h _) fun _ _ _ h => .pure h _
  · rw [if_neg hvalid, if_neg hvalid]
    exact .bind (.log lock.standsFor_content _) fun _ _ _ h => .pure h _

/-- The lock is spoilt when the log fails at a device that no request waits for. -/
example : (after (claim (ν := Unit) (τ := Unit) "keys" (.nth 1) .input)
    ⟨⟨{}, false⟩, { sink := Sink.failingAt (some .warn) }⟩).state.spoilt = true := by
  decide

end LockedBoard

/-- What can be done with a board before any target has its device. -/
structure Desk (ν σ τ : Type) where
  prepare : Direction → τ → Journaled ν σ Relay
  cancel : Handle → Journaled ν σ Bool
  claim : Device → Handle → Direction → Journaled ν σ (Except OpenError (Connection τ))
  pendingCount : Journaled ν σ Nat

def Switchboard.desk : Desk ν (Switchboard τ) τ :=
  ⟨prepare, cancel, claim, reading pendingCount⟩

def LockedBoard.desk : Desk ν (LockedBoard τ) τ :=
  ⟨prepare, cancel, claim, pendingCount⟩

namespace Desk

inductive Operation (τ : Type) where
  | prepare (direction : Direction) (target : τ)
  | cancel (handle : Handle)
  | connect (relay : Relay) (device : Device)
  | deliver (line : Line) (device : Option Device)
  | count

inductive Answer (τ : Type) where
  | prepared (relay : Relay)
  | flag (value : Bool)
  | opened (result : Except OpenError (Connection τ))
  | count (pending : Nat)

def carryOut (desk : Desk ν σ τ) : Operation τ → Journaled ν σ (Answer τ)
  | .prepare direction target => .prepared <$> desk.prepare direction target
  | .cancel handle => .flag <$> desk.cancel handle
  | .connect relay device => .opened <$> desk.claim device relay.handle relay.direction
  | .deliver line device => .opened <$> line.deliverBy desk.claim desk.cancel device
  | .count => .count <$> desk.pendingCount

/-- A call of a host, operation by operation. The targets that are connected on the way
may carry out operations too, and end the whole with a fault. -/
inductive Session (τ : Type) where
  | done (answer : Answer τ)
  | fail (text : String)
  | ask (operation : Operation τ) (next : Answer τ → Session τ)

def run (desk : Desk ν σ τ) : Session τ → Journaled ν σ (Answer τ)
  | .done answer => pure answer
  | .fail text => raise text
  | .ask operation next => do
      let answer ← desk.carryOut operation
      run desk (next answer)

theorem agree_run {desk : Desk ν σ τ} {desk' : Desk ν ρ τ} {R : σ → ρ → Prop}
    (hagree : ∀ operation s s', R s s' →
      Agree R s s' (desk.carryOut operation) (desk'.carryOut operation))
    (session : Session τ) {s : σ} {s' : ρ} (h : R s s') :
    Agree R s s' (desk.run session) (desk'.run session) := by
  induction session generalizing s s' with
  | done answer => exact .pure h answer
  | fail text => exact .raise h text
  | ask operation next ih => exact .bind (hagree operation s s' h) fun answer _ _ h => ih answer h

end Desk

theorem Line.agree_deliverBy {R : σ → ρ → Prop} {s : σ} {s' : ρ}
    {connect : Device → Handle → Direction → Journaled ν σ (Except OpenError α)}
    {connect' : Device → Handle → Direction → Journaled ν ρ (Except OpenError α)}
    {giveUp : Handle → Journaled ν σ Bool} {giveUp' : Handle → Journaled ν ρ Bool}
    (hconnect : ∀ {s s'}, R s s' → ∀ device handle direction,
      Agree R s s' (connect device handle direction) (connect' device handle direction))
    (hgiveUp : ∀ {s s'}, R s s' → ∀ handle, Agree R s s' (giveUp handle) (giveUp' handle))
    (h : R s s') (line : Line) (device : Option Device) :
    Agree R s s' (line.deliverBy connect giveUp device)
      (line.deliverBy connect' giveUp' device) := by
  refine .bind ?_ fun result s s' h => ?_
  · cases device with
    | none => exact .bind (.log h _) fun _ _ _ h => .pure h _
    | some device => exact .bind (.log h _) fun _ _ _ h => hconnect h _ _ _
  · split
    · split
      · exact .bind (hgiveUp h _) fun _ _ _ h => .pure h _
      · exact .pure h _
    · exact .pure h _

/-- A locked board and the board that it stands for come to the same. -/
theorem LockedBoard.agree_carryOut (lock : LockedBoard τ) (operation : Desk.Operation τ) :
    Agree (ν := ν) Lock.StandsFor lock lock.content (desk.carryOut operation)
      (Switchboard.desk.carryOut operation) := by
  cases operation with
  | prepare direction target => exact .map _ (agree_prepare direction target)
  | cancel handle => exact .map _ (agree_cancel handle)
  | connect relay device => exact .map _ (agree_claim device _ _)
  | deliver line device =>
      refine .map _ (line.agree_deliverBy ?_ ?_ lock.standsFor_content device)
      · rintro lock board rfl device handle direction
        exact agree_claim device handle direction
      · rintro lock board rfl handle
        exact agree_cancel handle
  | count => exact .map _ (lock.agree_holding (reading Switchboard.pendingCount))

theorem Switchboard.agree_carryOut {board board' : Switchboard τ}
    (h : board.SameOn Set.univ board') (operation : Desk.Operation τ) :
    Agree (ν := ν) (SameOn Set.univ) board board' (desk.carryOut operation)
      (desk.carryOut operation) := by
  cases operation with
  | prepare direction target => exact .map _ (agree_prepare h direction target)
  | cancel handle => exact .map _ (agree_cancel h (Set.mem_univ handle))
  | connect relay device => exact .map _ (agree_claim h device (Set.mem_univ _) _)
  | deliver line device =>
      refine .map _ (line.agree_deliverBy ?_ ?_ h device)
      · exact fun h device handle direction => agree_claim h device (Set.mem_univ handle) direction
      · exact fun h handle => agree_cancel h (Set.mem_univ handle)
  | count => exact .map _ (.reading h h.pendingCount_eq)

/-- Locked boards with the same next handle and the same requests. Whether their locks
are spoilt does not count. -/
def LockedBoard.Same (lock lock' : LockedBoard τ) : Prop :=
  lock.content.SameOn Set.univ lock'.content

theorem LockedBoard.Same.agree_carryOut {lock lock' : LockedBoard τ} (h : lock.Same lock')
    (operation : Desk.Operation τ) :
    Agree (ν := ν) Same lock lock' (desk.carryOut operation) (desk.carryOut operation) := by
  have hlock := lock.agree_carryOut (ν := ν) operation
  have hlock' := lock'.agree_carryOut (ν := ν) operation
  refine (hlock.trans ((Switchboard.agree_carryOut h operation).trans hlock'.symm)).imp ?_
  rintro lock lock' ⟨board, rfl, board', hsame, rfl⟩
  exact hsame

end MidiConsole
