import MidiConsole.Relay.Recorder

namespace MidiConsole

open Journaled

variable {ν σ ρ τ α : Type}

namespace Journaled

namespace Outcome

def ofResult : EStateM.Result Fault (World ν σ) α → Outcome ν σ α
  | .ok a w => ⟨.ok a, w.journal.events, w.state⟩
  | .error fault w => ⟨.error fault, w.journal.events, w.state⟩

def mapState (f : σ → τ) (outcome : Outcome ν σ α) : Outcome ν τ α :=
  ⟨outcome.result, outcome.events, f outcome.state⟩

end Outcome

theorem attempt_eq_ofResult (act : Journaled ν σ α) (sink : Sink) (s : σ) :
    attempt act sink s = .ofResult (act ⟨s, { sink }⟩) := by
  unfold attempt
  cases act ⟨s, { sink }⟩ <;> rfl

end Journaled

/-- What devices are passed on to. It has a state of its own. -/
abbrev Receiver (ν σ ρ : Type) : Type :=
  Device → Handle → Direction → Journaled ν σ (Except OpenError ρ)

namespace Relay

theorem deliver_some_apply (relay : Relay) (receiver : Receiver ν σ ρ) (device : Device)
    (w : World ν σ) :
    relay.deliver receiver (some device) w =
      if w.journal.fails (.opened relay.direction relay.handle) then
        .error .sink ⟨w.state, w.journal.write (.opened relay.direction relay.handle)⟩
      else
        receiver device relay.handle relay.direction
          ⟨w.state, w.journal.write (.opened relay.direction relay.handle)⟩ := by
  simp only [deliver, bind_apply, log_apply]
  cases w.journal.fails (.opened relay.direction relay.handle) <;> rfl

theorem deliver_none_apply (relay : Relay) (receiver : Receiver ν σ ρ) (w : World ν σ) :
    relay.deliver receiver none w =
      if w.journal.fails (.openFailed relay.direction relay.handle) then
        .error .sink ⟨w.state, w.journal.write (.openFailed relay.direction relay.handle)⟩
      else
        .ok (.error (.notOpened relay.handle relay.direction))
          ⟨w.state, w.journal.write (.openFailed relay.direction relay.handle)⟩ := by
  simp only [deliver, bind_apply, log_apply]
  cases w.journal.fails (.openFailed relay.direction relay.handle) <;> rfl

/-- What comes of one delivery, from the state of the receiver. -/
inductive Handles (relay : Relay) (receiver : Receiver ν σ ρ) (s : σ) :
    Call (Option Device) → Outcome ν σ (Except OpenError ρ) → Prop
  /-- The outcome is the receiver's own, after one notice. -/
  | opened (device : Device) {sink : Sink}
      (hlog : sink [] (.opened relay.direction relay.handle) = false) :
      Handles relay receiver s ⟨some device, sink⟩
        (.ofResult (receiver device relay.handle relay.direction
          ⟨s, ⟨sink, [.logged (.opened relay.direction relay.handle)]⟩⟩))
  | openedNotLogged (device : Device) {sink : Sink}
      (hlog : sink [] (.opened relay.direction relay.handle) = true) :
      Handles relay receiver s ⟨some device, sink⟩
        ⟨.error .sink, [.logged (.opened relay.direction relay.handle)], s⟩
  | failed {sink : Sink}
      (hlog : sink [] (.openFailed relay.direction relay.handle) = false) :
      Handles relay receiver s ⟨none, sink⟩
        ⟨.ok (.error (.notOpened relay.handle relay.direction)),
          [.logged (.openFailed relay.direction relay.handle)], s⟩
  | failedNotLogged {sink : Sink}
      (hlog : sink [] (.openFailed relay.direction relay.handle) = true) :
      Handles relay receiver s ⟨none, sink⟩
        ⟨.error .sink, [.logged (.openFailed relay.direction relay.handle)], s⟩

/-- What comes of deliveries one after another. The state of the receiver is all that one
leaves for the next. -/
inductive HandlesAll (relay : Relay) (receiver : Receiver ν σ ρ) :
    σ → List (Call (Option Device)) → List (Outcome ν σ (Except OpenError ρ)) → Prop
  | nil {s : σ} : HandlesAll relay receiver s [] []
  | cons {s : σ} {call : Call (Option Device)} {outcome : Outcome ν σ (Except OpenError ρ)}
      {calls : List (Call (Option Device))} {outcomes : List (Outcome ν σ (Except OpenError ρ))}
      (first : relay.Handles receiver s call outcome)
      (rest : HandlesAll relay receiver outcome.state calls outcomes) :
      HandlesAll relay receiver s (call :: calls) (outcome :: outcomes)

theorem handles_attempt (relay : Relay) (receiver : Receiver ν σ ρ) (s : σ)
    (call : Call (Option Device)) :
    relay.Handles receiver s call (attempt (relay.deliver receiver call.command) call.sink s) := by
  obtain ⟨_ | device, sink⟩ := call
  · rw [attempt_eq_ofResult, deliver_none_apply]
    split
    · next hlog => exact .failedNotLogged hlog
    · next hlog => exact .failed (Bool.eq_false_iff.mpr hlog)
  · rw [attempt_eq_ofResult, deliver_some_apply]
    split
    · next hlog => exact .openedNotLogged device hlog
    · next hlog => exact .opened device (Bool.eq_false_iff.mpr hlog)

theorem handlesAll_history (relay : Relay) (receiver : Receiver ν σ ρ) (s : σ)
    (calls : List (Call (Option Device))) :
    relay.HandlesAll receiver s calls (history (relay.deliver receiver) s calls) := by
  induction calls generalizing s with
  | nil => exact .nil
  | cons call calls ih => exact .cons (relay.handles_attempt receiver s call) (ih _)

end Relay

/-- A call of a receiver: what is passed on, and the notices of the delivery before it. -/
structure Arrival where
  forwarding : Forwarding
  notices : List Notice
  deriving DecidableEq

def Relay.arrival? (relay : Relay) (call : Call (Option Device)) : Option Arrival :=
  match call.command with
  | none => none
  | some device =>
      if call.sink [] (.opened relay.direction relay.handle) then none
      else some ⟨⟨device, relay.handle, relay.direction⟩,
        [.opened relay.direction relay.handle]⟩

theorem Relay.filterMap_arrival?_cons (relay : Relay) (call : Call (Option Device))
    (calls : List (Call (Option Device))) :
    (call :: calls).filterMap relay.arrival? =
      (relay.arrival? call).toList ++ calls.filterMap relay.arrival? := by
  cases harrival : relay.arrival? call with
  | none =>
      rw [List.filterMap_cons_none harrival]
      rfl
  | some arrival =>
      rw [List.filterMap_cons_some harrival]
      rfl

/-- A relay with the state of its receiver, and the calls that the receiver has got. -/
structure Wired (σ : Type) where
  relay : Relay
  receiver : σ
  arrivals : List Arrival := []
  deriving DecidableEq

namespace Wired

def arrive (forwarding : Forwarding) : Journaled ν (Wired σ) Unit :=
  fun w => .ok () ⟨{ w.state with
    arrivals := w.state.arrivals ++ [⟨forwarding, w.journal.notices⟩] }, w.journal⟩

/-- The receiver, with a record of its calls that is out of its reach. -/
def recorded (receiver : Receiver ν σ ρ) : Receiver ν (Wired σ) ρ :=
  fun device handle direction => do
    arrive ⟨device, handle, direction⟩
    Journaled.within Wired.receiver (fun s wired => { wired with receiver := s })
      (receiver device handle direction)

def deliver (receiver : Receiver ν σ ρ) (device : Option Device) :
    Journaled ν (Wired σ) (Except OpenError ρ) := do
  let relay ← Journaled.reading Wired.relay
  relay.deliver (recorded receiver) device

def next (wired : Wired σ) (call : Call (Option Device)) (s : σ) : Wired σ :=
  ⟨wired.relay, s, wired.arrivals ++ (wired.relay.arrival? call).toList⟩

def leftBy (wired : Wired σ) (outcomes : List (Outcome ν (Wired σ) α)) : Wired σ :=
  outcomes.foldl (fun _ outcome => outcome.state) wired

theorem ofResult_recorded (receiver : Receiver ν σ ρ) (device : Device) (handle : Handle)
    (direction : Direction) (wired : Wired σ) (journal : Journal ν) :
    Outcome.ofResult (recorded receiver device handle direction ⟨wired, journal⟩) =
      (Outcome.ofResult (receiver device handle direction ⟨wired.receiver, journal⟩)).mapState
        fun s => ⟨wired.relay, s,
          wired.arrivals ++ [⟨⟨device, handle, direction⟩, journal.notices⟩]⟩ := by
  simp only [recorded, bind_apply, arrive, Journaled.within]
  cases receiver device handle direction ⟨wired.receiver, journal⟩ <;> rfl

/-- The record of calls changes nothing about a delivery. -/
theorem attempt_deliver (receiver : Receiver ν σ ρ) (call : Call (Option Device))
    (wired : Wired σ) :
    attempt (deliver receiver call.command) call.sink wired =
      (attempt (wired.relay.deliver receiver call.command) call.sink wired.receiver).mapState
        (wired.next call) := by
  have hdeliver : ∀ device journal, deliver receiver device ⟨wired, journal⟩ =
      wired.relay.deliver (recorded receiver) device ⟨wired, journal⟩ := fun _ _ => rfl
  rw [attempt_eq_ofResult, attempt_eq_ofResult, hdeliver]
  unfold next
  obtain ⟨_ | device, sink⟩ := call
  · rw [Relay.deliver_none_apply, Relay.deliver_none_apply]
    simp only [Relay.arrival?, Option.toList_none, List.append_nil]
    split <;> rfl
  · rw [Relay.deliver_some_apply, Relay.deliver_some_apply]
    have hsink : ∀ notice, Journal.fails (ν := ν) { sink } notice = sink [] notice := fun _ => rfl
    simp only [Relay.arrival?, hsink]
    split
    · simp only [Option.toList_none, List.append_nil]
      rfl
    · exact ofResult_recorded receiver device _ _ wired _

theorem history_deliver (receiver : Receiver ν σ ρ) (calls : List (Call (Option Device)))
    (wired : Wired σ) :
    (history (deliver receiver) wired calls).map (Outcome.mapState Wired.receiver) =
        history (wired.relay.deliver receiver) wired.receiver calls ∧
      (∀ outcome ∈ history (deliver receiver) wired calls,
        outcome.state.relay = wired.relay) ∧
      (leftBy wired (history (deliver receiver) wired calls)).arrivals =
        wired.arrivals ++ calls.filterMap wired.relay.arrival? := by
  induction calls generalizing wired with
  | nil => exact ⟨rfl, List.forall_mem_nil _, (List.append_nil _).symm⟩
  | cons call calls ih =>
      have hfirst := attempt_deliver receiver call wired
      generalize hplain : attempt (wired.relay.deliver receiver call.command) call.sink
        wired.receiver = plain at hfirst
      obtain ⟨hmap, hrelay, harrivals⟩ := ih (wired.next call plain.state)
      simp only [history, hfirst, hplain]
      refine ⟨congrArg _ hmap, ?_, ?_⟩
      · exact List.forall_mem_cons.mpr ⟨rfl, hrelay⟩
      · rw [Relay.filterMap_arrival?_cons, ← List.append_assoc]
        exact harrivals

end Wired

/-- A relay passes on exactly the devices whose notice was taken, each once, in order and after
that one notice. What the receiver then does is what comes of the delivery, and a delivery
without a device ends with the notice that it failed. -/
theorem Relay.passes_on_opened_devices (relay : Relay) (receiver : Receiver ν σ ρ) (s : σ)
    (calls : List (Call (Option Device))) :
    relay.HandlesAll receiver s calls (history (relay.deliver receiver) s calls) ∧
      (let wired : Wired σ := { relay, receiver := s }
       let outcomes := history (Wired.deliver receiver) wired calls
       outcomes.map (Outcome.mapState Wired.receiver) =
            history (relay.deliver receiver) s calls ∧
         (wired.leftBy outcomes).arrivals = calls.filterMap relay.arrival? ∧
         ∀ outcome ∈ outcomes, outcome.state.relay = relay) ∧
      (Notice.opened relay.direction relay.handle).level = .info ∧
      (Notice.openFailed relay.direction relay.handle).level = .error := by
  obtain ⟨hmap, hrelay, harrivals⟩ := Wired.history_deliver receiver calls { relay, receiver := s }
  exact ⟨relay.handlesAll_history receiver s calls, ⟨hmap, harrivals, hrelay⟩, rfl, rfl⟩

/-- The receiver of these deliveries is jammed at its first device. -/
example :
    let wired : Wired Recorder :=
      ⟨⟨⟨42⟩, .output⟩, .start ⟨⟨42⟩, .output⟩ [.raises "jammed"], []⟩
    let outcomes := history (Wired.deliver Recorder.forward) wired
      [⟨some "organ", .sound⟩, ⟨some "pads", .failingAt (some .info)⟩, ⟨none, .sound⟩,
        ⟨some "synth", .sound⟩]
    (wired.leftBy outcomes).arrivals =
      [⟨⟨"organ", ⟨42⟩, .output⟩, [.opened .output ⟨42⟩]⟩,
        ⟨⟨"synth", ⟨42⟩, .output⟩, [.opened .output ⟨42⟩]⟩] := by
  decide

end MidiConsole
