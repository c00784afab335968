import MidiConsole.Proofs.Occurrence

namespace MidiConsole

open Journaled

namespace Line

variable {τ ν : Type}

theorem claim_ne_notOpened {device : Device} {handle other : Handle}
    {direction expected : Direction} {w v : World ν (Switchboard τ)} :
    Switchboard.claim device handle direction w ≠ .ok (.error (.notOpened other expected)) v := by
  intro h
  cases hresolve : w.state.resolve handle direction with
  | error error =>
      rw [Switchboard.claim_of_resolve_error hresolve] at h
      split at h
      · cases h
      · cases h
        exact Switchboard.resolve_ne_notOpened _ _ _ _ _ hresolve
  | ok request =>
      rw [Switchboard.claim_of_resolve_ok hresolve] at h
      split at h <;> cases h

theorem deliverBy_some (giveUp : Handle → Journaled ν (Switchboard τ) Bool) (line : Line)
    (device : Device) :
    line.deliverBy Switchboard.claim giveUp (some device) = line.deliver (some device) := by
  funext w
  rw [deliver, deliverBy, deliverBy, bind_apply, bind_apply]
  cases hresult : line.relay.deliver Switchboard.claim (some device) w with
  | error fault v => rfl
  | ok result v =>
      cases result with
      | ok connection => rfl
      | error error =>
          cases error with
          | notOpened handle direction =>
              obtain ⟨_, u, -, hclaim⟩ := bind_eq_ok_iff.mp hresult
              exact absurd hclaim claim_ne_notOpened
          | invalidHandle handle => rfl
          | unknownHandle handle => rfl
          | directionMismatch handle expected actual => rfl

theorem deliverBy_none (giveUp : Handle → Journaled ν (Switchboard τ) Bool) {line : Line}
    (hcancels : line.cancelsOnFailure) : line.deliverBy Switchboard.claim giveUp none = (do
      log (.openFailed line.relay.direction line.relay.handle)
      let _ ← giveUp line.relay.handle
      pure (.error (.notOpened line.relay.handle line.relay.direction))) := by
  simp only [deliverBy, Relay.deliver, bind_assoc, pure_bind, hcancels, if_true]

/-- Give a request up, and note that as a step that starts. -/
def cancelNoted (index : Nat) (handle : Handle) : Journaled Note (Switchboard Target) Bool := do
  note (.started ⟨index, .cancel handle⟩)
  Switchboard.cancel handle

theorem startedIn_of_follows {α : Type} {act : Journaled Note (Switchboard Target) α}
    {w v : World Note (Switchboard Target)} {a : α} {course : Course (Switchboard Target) α}
    (hact : Follows act w.state course) (h : act w = .ok a v) :
    startedIn v.journal.events = startedIn w.journal.events := by
  obtain ⟨notices, hjournal⟩ := hact.journal_after
  rw [after_of_ok h] at hjournal
  rw [hjournal, Journal.writeAll, startedIn_append, startedIn_logged, List.append_nil]

theorem cancelNoted_of_cancel {handle : Handle} {found : Bool}
    {w v : World Note (Switchboard Target)} (h : Switchboard.cancel handle w = .ok found v)
    (index : Nat) :
    ∃ u, cancelNoted index handle w = .ok found u ∧ u.state = v.state ∧
      u.journal.notices = v.journal.notices ∧
      startedIn u.journal.events =
        startedIn w.journal.events ++ [⟨index, .cancel handle⟩] := by
  generalize hnoted : w.journal.add (.noted (.started ⟨index, .cancel handle⟩)) = journal
  have hnotices : journal.notices = w.journal.notices := by
    rw [← hnoted, Journal.notices_add_noted]
  have hstarted : startedIn journal.events =
      startedIn w.journal.events ++ [⟨index, .cancel handle⟩] := by
    rw [← hnoted]
    exact startedIn_append _ _
  have hact : cancelNoted index handle w = Switchboard.cancel handle ⟨w.state, journal⟩ := by
    rw [← hnoted]
    rfl
  cases hpending : w.state.isPending handle with
  | false =>
      rw [Switchboard.cancel_of_not_isPending hpending] at h
      rw [Switchboard.cancel_of_not_isPending (w := ⟨w.state, journal⟩) hpending] at hact
      cases h
      exact ⟨_, hact, rfl, hnotices, hstarted⟩
  | true =>
      rw [Switchboard.cancel_of_isPending hpending] at h
      rw [Switchboard.cancel_of_isPending (w := ⟨w.state, journal⟩) hpending] at hact
      split at h
      · cases h
      · next hsound =>
          cases h
          have hfails : journal.fails (.cancelled handle) =
              w.journal.fails (.cancelled handle) := by
            rw [Journal.fails, hnotices, ← hnoted]
            rfl
          rw [hfails, if_neg hsound] at hact
          refine ⟨_, hact, rfl, ?_, ?_⟩
          · rw [Journal.notices_write, Journal.notices_write, hnotices]
          · rw [← hstarted]
            exact (startedIn_append _ _).trans (List.append_nil _)

/-- The requests that a delivery itself gives up, noted as steps that start: its own,
if no device could be opened, and none otherwise. But for these notes the delivery goes
as without them. -/
theorem deliverBy_cancelNoted {line : Line} (hcancels : line.cancelsOnFailure)
    {device : Option Device} {w v : World Note (Switchboard Target)}
    {result : Except OpenError (Connection Target)} (h : line.deliver device w = .ok result v) :
    ∃ u, line.deliverBy Switchboard.claim (cancelNoted line.board) device w = .ok result u ∧
      u.state = v.state ∧ u.journal.notices = v.journal.notices ∧
      startedIn u.journal.events = startedIn w.journal.events ++
        if device.isNone then [⟨line.board, .cancel line.relay.handle⟩] else [] := by
  cases device with
  | some device =>
      rw [deliverBy_some]
      have hstarted := startedIn_of_follows (line.follows_deliver (some device) w.state) h
      exact ⟨v, h, rfl, rfl, by rw [hstarted]; simp⟩
  | none =>
      rw [deliver, deliverBy_none _ hcancels] at h
      obtain ⟨_, w', hlog, hrest⟩ := bind_eq_ok_iff.mp h
      obtain ⟨found, v', hcancel, hpure⟩ := bind_eq_ok_iff.mp hrest
      cases hpure
      obtain ⟨u, hnoted, hstate, hnotices, hstarted⟩ :=
        cancelNoted_of_cancel hcancel line.board
      have hlogged := startedIn_of_follows (.log _ w.state) hlog
      refine ⟨u, ?_, hstate, hnotices, by rw [hstarted, hlogged]; rfl⟩
      rw [deliverBy_none _ hcancels]
      simp only [bind_apply, hlog, hnoted, pure_apply]

end Line

end MidiConsole
