import MidiConsole.Notice

/-!
Actions that keep a state, write notices to a log and can be cut short. The
log itself may fail: the notice is written, and the action that wrote it ends
there. What an action changed before it was cut short stays changed.

The lemmas say how each action runs from a world.
-/

namespace MidiConsole

/-- What cuts an action short. -/
inductive Fault where
  | sink
  | raised (text : String)
  deriving DecidableEq

def Fault.message : Fault → String
  | sink => "log sink failed"
  | raised text => text

/-- What can be seen of an action while it runs: the notices it logs, and notes
of what it does to its surroundings. -/
inductive Event (ν : Type) where
  | logged (notice : Notice)
  | noted (note : ν)
  deriving DecidableEq

def Event.notice? {ν : Type} : Event ν → Option Notice
  | logged notice => some notice
  | noted _ => none

/-- What a log does with a notice, given the notices before it: whether it
fails. -/
abbrev Sink : Type :=
  List Notice → Notice → Bool

namespace Sink

def sound : Sink :=
  fun _ _ => false

/-- The log that fails at the first notice of a level, if one is given, and is
mended by that. -/
def failingAt (level : Option Level) : Sink :=
  fun earlier notice =>
    level = some notice.level && earlier.all fun other => other.level ≠ notice.level

end Sink

/-- The events so far, and the log that the notices go to. -/
structure Journal (ν : Type) where
  sink : Sink := Sink.sound
  events : List (Event ν) := []

namespace Journal

variable {ν : Type}

def add (journal : Journal ν) (event : Event ν) : Journal ν :=
  { journal with events := journal.events ++ [event] }

def notices (journal : Journal ν) : List Notice :=
  journal.events.filterMap Event.notice?

def fails (journal : Journal ν) (notice : Notice) : Bool :=
  journal.sink journal.notices notice

def write (journal : Journal ν) (notice : Notice) : Journal ν :=
  journal.add (.logged notice)

@[simp] theorem notices_add_noted (journal : Journal ν) (n : ν) :
    (journal.add (.noted n)).notices = journal.notices := by
  simp [notices, add, Event.notice?]

@[simp] theorem notices_write (journal : Journal ν) (notice : Notice) :
    (journal.write notice).notices = journal.notices ++ [notice] := by
  simp [notices, write, add, Event.notice?]

end Journal

/-- A state and the journal of what happens to it. -/
structure World (ν σ : Type) where
  state : σ
  journal : Journal ν

/-- An action on a world that returns a value or is cut short by a fault. -/
abbrev Journaled (ν σ α : Type) : Type :=
  EStateM Fault (World ν σ) α

namespace Journaled

variable {ν σ ρ α β κ : Type}

def note (n : ν) : Journaled ν σ Unit :=
  fun w => .ok () { w with journal := w.journal.add (.noted n) }

/-- Log a notice. The notice is written also when the log fails at it. -/
def log (notice : Notice) : Journaled ν σ Unit :=
  fun w =>
    let w' := { w with journal := w.journal.write notice }
    if w.journal.fails notice then .error .sink w' else .ok () w'

def raise (text : String) : Journaled ν σ α :=
  fun w => .error (.raised text) w

def state : Journaled ν σ σ :=
  fun w => .ok w.state w

def reading (read : σ → α) : Journaled ν σ α :=
  fun w => .ok (read w.state) w

def update (change : σ → σ) : Journaled ν σ Unit :=
  fun w => .ok () { w with state := change w.state }

/-- Act on a part of the state; the part is put back also when the action is
cut short. -/
def within (part : σ → ρ) (put : ρ → σ → σ) (act : Journaled ν ρ α) : Journaled ν σ α :=
  fun w =>
    match act ⟨part w.state, w.journal⟩ with
    | .ok a w' => .ok a ⟨put w'.state w.state, w'.journal⟩
    | .error fault w' => .error fault ⟨put w'.state w.state, w'.journal⟩

/-- What came of one action: its value or the fault that cut it short, the
events meanwhile, and the state it left. -/
structure Outcome (ν σ α : Type) where
  result : Except Fault α
  events : List (Event ν)
  state : σ

/-- Run an action on a state with a fresh journal. -/
def attempt (act : Journaled ν σ α) (sink : Sink) (s : σ) : Outcome ν σ α :=
  match act ⟨s, { sink }⟩ with
  | .ok a w => ⟨.ok a, w.journal.events, w.state⟩
  | .error fault w => ⟨.error fault, w.journal.events, w.state⟩

structure Call (κ : Type) where
  command : κ
  sink : Sink := Sink.sound

/-- Carry out calls one after another, each from the state that the one before
it left. -/
def history (perform : κ → Journaled ν σ α) : σ → List (Call κ) → List (Outcome ν σ α)
  | _, [] => []
  | s, call :: calls =>
      let outcome := attempt (perform call.command) call.sink s
      outcome :: history perform outcome.state calls

@[simp] theorem pure_apply (a : α) (w : World ν σ) : (pure a : Journaled ν σ α) w = .ok a w :=
  rfl

@[simp] theorem bind_apply (act : Journaled ν σ α) (next : α → Journaled ν σ β) (w : World ν σ) :
    (act >>= next) w =
      match act w with
      | .ok a w' => next a w'
      | .error fault w' => .error fault w' := by
  simp only [bind, EStateM.bind]
  cases act w <;> rfl

@[simp] theorem map_apply (f : α → β) (act : Journaled ν σ α) (w : World ν σ) :
    (f <$> act) w =
      match act w with
      | .ok a w' => .ok (f a) w'
      | .error fault w' => .error fault w' := by
  simp only [Functor.map, EStateM.map]
  cases act w <;> rfl

theorem bind_eq_ok_iff {act : Journaled ν σ α} {next : α → Journaled ν σ β}
    {w w'' : World ν σ} {b : β} :
    (act >>= next) w = .ok b w'' ↔
      ∃ a w', act w = .ok a w' ∧ next a w' = .ok b w'' := by
  simp only [bind, EStateM.bind]
  cases act w with
  | ok a w' => simp [and_assoc]
  | error fault w' => simp

@[simp] theorem note_apply (n : ν) (w : World ν σ) :
    note n w = .ok () { w with journal := w.journal.add (.noted n) } :=
  rfl

@[simp] theorem state_apply (w : World ν σ) : state w = .ok w.state w :=
  rfl

@[simp] theorem reading_apply (read : σ → α) (w : World ν σ) :
    reading read w = .ok (read w.state) w :=
  rfl

@[simp] theorem update_apply (change : σ → σ) (w : World ν σ) :
    update change w = .ok () { w with state := change w.state } :=
  rfl

@[simp] theorem raise_apply (text : String) (w : World ν σ) :
    (raise text : Journaled ν σ α) w = .error (.raised text) w :=
  rfl

@[simp] theorem log_apply (notice : Notice) (w : World ν σ) :
    log notice w =
      if w.journal.fails notice then .error .sink { w with journal := w.journal.write notice }
      else .ok () { w with journal := w.journal.write notice } :=
  rfl

theorem state_of_log_eq_ok {notice : Notice} {w w' : World ν σ}
    (h : log notice w = .ok () w') : w'.state = w.state := by
  rw [log_apply] at h
  split at h
  · cases h
  · cases h
    rfl

theorem within_eq_ok_iff {part : σ → ρ} {put : ρ → σ → σ} {act : Journaled ν ρ α}
    {w w' : World ν σ} {a : α} :
    within part put act w = .ok a w' ↔
      ∃ v, act ⟨part w.state, w.journal⟩ = .ok a v ∧ w' = ⟨put v.state w.state, v.journal⟩ := by
  simp only [within]
  cases act ⟨part w.state, w.journal⟩ with
  | ok b v => simp [and_assoc, eq_comm]
  | error fault v => simp

end Journaled

end MidiConsole
