import MidiConsole.Proofs.Allocation
import MidiConsole.Proofs.Lock

namespace MidiConsole

open Journaled Exchange

namespace Course

variable {σ ρ α : Type}

theorem StopsAt.of_lift (put : ρ → σ) {course : Course ρ α} {notices : List Notice} {s : σ}
    (h : StopsAt (course.lift put).records notices s) :
    ∃ r, StopsAt course.records notices r ∧ s = put r := by
  obtain ⟨records, value, final⟩ := course
  simp only [lift] at h ⊢
  induction records generalizing notices with
  | nil => exact h.elim
  | cons record records ih =>
      rcases h with ⟨rfl, rfl⟩ | ⟨later, rfl, h⟩
      · exact ⟨record.2, Or.inl ⟨rfl, rfl⟩, rfl⟩
      · obtain ⟨r, hstops, rfl⟩ := ih h
        exact ⟨r, Or.inr ⟨later, rfl, hstops⟩, rfl⟩

theorem StopsAt.of_singleton {notice : Notice} {t s : σ} {notices : List Notice}
    (h : StopsAt [(notice, t)] notices s) : notices = [notice] ∧ s = t := by
  rcases h with h | ⟨later, -, h⟩
  · exact h
  · exact h.elim

end Course

namespace Switchboard

variable {τ : Type} {board r : Switchboard τ} {notices : List Notice}

theorem stopsAt_cancelCourse {handle : Handle}
    (h : Course.StopsAt (board.cancelCourse handle).records notices r) :
    board.isPending handle ∧ notices = [.cancelled handle] ∧ r = board.erase handle := by
  rw [cancelCourse] at h
  split at h
  · next hpending => exact ⟨hpending, h.of_singleton⟩
  · exact h.elim

theorem stopsAt_claimCourse {device : Device} {handle : Handle} {direction : Direction}
    (h : Course.StopsAt (board.claimCourse device handle direction).records notices r) :
    (∃ error, board.resolve handle direction = .error error ∧
        notices = [error.notice direction] ∧ r = board) ∨
      (∃ request, board.resolve handle direction = .ok request ∧
        notices = [.dispatching direction handle] ∧ r = board.erase handle) := by
  rw [claimCourse] at h
  split at h
  · next error hresolve => exact Or.inl ⟨error, hresolve, h.of_singleton⟩
  · next request hresolve => exact Or.inr ⟨request, hresolve, h.of_singleton⟩

end Switchboard

namespace Exchange

section

variable {s s' : Exchange Target} {index : Nat} {board : Switchboard Target}
  {notices : List Notice}

theorem stopsAt_cancelCourse {handle : Handle}
    (h : Course.StopsAt (cancelCourse index board handle s).records notices s') :
    board.isPending handle ∧ notices = [.cancelled handle] ∧
      s' = s.setBoard index (board.erase handle) := by
  obtain ⟨r, hstops, rfl⟩ := Course.StopsAt.of_lift (fun board => s.setBoard index board) h
  obtain ⟨hwaits, rfl, rfl⟩ := Switchboard.stopsAt_cancelCourse hstops
  exact ⟨hwaits, rfl, rfl⟩

theorem stopsAt_claimCourse (hboard : s.board? index = some board) {device : Device}
    {relay : Relay}
    (h : Course.StopsAt (claimCourse index board device relay s).records notices s') :
    (∃ error, board.resolve relay.handle relay.direction = .error error ∧
        notices = [error.notice relay.direction] ∧ s' = s) ∨
      (∃ request, board.resolve relay.handle relay.direction = .ok request ∧
        notices = [.dispatching relay.direction relay.handle] ∧
        s' = s.setBoard index (board.erase relay.handle)) := by
  obtain ⟨r, hstops, rfl⟩ := Course.StopsAt.of_lift (fun board => s.setBoard index board) h
  rcases Switchboard.stopsAt_claimCourse hstops with
    ⟨error, hresolve, rfl, rfl⟩ | ⟨request, hresolve, rfl, rfl⟩
  · exact Or.inl ⟨error, hresolve, rfl, setBoard_self hboard⟩
  · exact Or.inr ⟨request, hresolve, rfl, rfl⟩

end

/-- What has come of a step when its own log fails: the notices that it has logged, the
level of the last, at which the log has failed, and the exchange that is left. -/
inductive Interrupted (s : Exchange Target) :
    Step Target → List Notice → Level → Exchange Target → Prop
  /-- The handle is used up, and nothing waits under it. -/
  | preparing {index : Nat} {board : Switchboard Target} (hboard : s.board? index = some board)
      (direction : Direction) (target : Target) :
      Interrupted s ⟨index, .prepare direction target⟩ [.preparing direction board.next] .debug
        (s.setBoard index board.advance)
  | cancelled {index : Nat} {board : Switchboard Target} (hboard : s.board? index = some board)
      {handle : Handle} (hwaits : board.isPending handle) :
      Interrupted s ⟨index, .cancel handle⟩ [.cancelled handle] .debug
        (s.setBoard index (board.erase handle))
  | lineCancelled {index number : Nat} {board : Switchboard Target} {line : Line}
      (hboard : s.board? index = some board) (hline : s.line? number = some line)
      (hwaits : board.isPending line.relay.handle) :
      Interrupted s ⟨index, .cancelLine number⟩ [.cancelled line.relay.handle] .debug
        (s.setBoard index (board.erase line.relay.handle))
  | turnedAway {index : Nat} {board : Switchboard Target} (hboard : s.board? index = some board)
      {relay : Relay} {error : OpenError}
      (hresolve : board.resolve relay.handle relay.direction = .error error) (device : Device) :
      Interrupted s ⟨index, .connect relay device⟩ [error.notice relay.direction]
        (error.notice relay.direction).level s
  /-- The request is gone, and its target never gets the device. -/
  | dispatching {index : Nat} {board : Switchboard Target} (hboard : s.board? index = some board)
      {relay : Relay} {request : Request Target}
      (hresolve : board.resolve relay.handle relay.direction = .ok request) (device : Device) :
      Interrupted s ⟨index, .connect relay device⟩
        [.dispatching relay.direction relay.handle] .debug
        (s.setBoard index (board.erase relay.handle))
  /-- The device is not brought to the board. -/
  | opened {host number : Nat} {line : Line} (hline : s.line? number = some line)
      (device : Device) :
      Interrupted s ⟨host, .deliver number (some device)⟩
        [.opened line.relay.direction line.relay.handle] .info s
  | openedTurnedAway {host number : Nat} {line : Line} {board : Switchboard Target}
      (hline : s.line? number = some line) (hboard : s.board? line.board = some board)
      {error : OpenError}
      (hresolve : board.resolve line.relay.handle line.relay.direction = .error error)
      (device : Device) :
      Interrupted s ⟨host, .deliver number (some device)⟩
        [.opened line.relay.direction line.relay.handle, error.notice line.relay.direction]
        (error.notice line.relay.direction).level s
  | openedDispatching {host number : Nat} {line : Line} {board : Switchboard Target}
      (hline : s.line? number = some line) (hboard : s.board? line.board = some board)
      {request : Request Target}
      (hresolve : board.resolve line.relay.handle line.relay.direction = .ok request)
      (device : Device) :
      Interrupted s ⟨host, .deliver number (some device)⟩
        [.opened line.relay.direction line.relay.handle,
          .dispatching line.relay.direction line.relay.handle] .debug
        (s.setBoard line.board (board.erase line.relay.handle))
  /-- A request that waits goes on waiting. -/
  | openFailed {host number : Nat} {line : Line} (hline : s.line? number = some line) :
      Interrupted s ⟨host, .deliver number none⟩
        [.openFailed line.relay.direction line.relay.handle] .error s
  | openFailedCancelled {host number : Nat} {line : Line} {board : Switchboard Target}
      (hline : s.line? number = some line) (hboard : s.board? line.board = some board)
      (hcancels : line.cancelsOnFailure) (hwaits : board.isPending line.relay.handle) :
      Interrupted s ⟨host, .deliver number none⟩
        [.openFailed line.relay.direction line.relay.handle, .cancelled line.relay.handle] .debug
        (s.setBoard line.board (board.erase line.relay.handle))

theorem interrupted_of_deliver {s s' : Exchange Target} {host number : Nat} {line : Line}
    {device : Option Device} {notices : List Notice} (hline : s.line? number = some line)
    (h : Course.StopsAt (deliverCourse line device s).records notices s') :
    ∃ level, notices.getLast?.map Notice.level = some level ∧
      Interrupted s ⟨host, .deliver number device⟩ notices level s' := by
  rw [deliverCourse] at h
  cases hboard : s.board? line.board with
  | none =>
      simp only [hboard] at h
      exact h.elim
  | some board =>
      simp only [hboard] at h
      obtain ⟨r, hstops, rfl⟩ :=
        Course.StopsAt.of_lift (fun board => s.setBoard line.board board) h
      have hself := setBoard_self hboard
      cases device with
      | some device =>
          rcases hstops with ⟨rfl, rfl⟩ | ⟨later, rfl, hstops⟩
          · rw [hself]
            exact ⟨_, rfl, .opened hline device⟩
          · rcases Switchboard.stopsAt_claimCourse hstops with
              ⟨error, hresolve, rfl, rfl⟩ | ⟨request, hresolve, rfl, rfl⟩
            · rw [hself]
              exact ⟨_, rfl, .openedTurnedAway hline hboard hresolve device⟩
            · exact ⟨_, rfl, .openedDispatching hline hboard hresolve device⟩
      | none =>
          rcases hstops with ⟨rfl, rfl⟩ | ⟨later, rfl, hstops⟩
          · rw [hself]
            exact ⟨_, rfl, .openFailed hline⟩
          · cases hcancels : line.cancelsOnFailure with
            | false =>
                rw [hcancels] at hstops
                exact hstops.elim
            | true =>
                rw [hcancels] at hstops
                obtain ⟨hwaits, rfl, rfl⟩ := Switchboard.stopsAt_cancelCourse hstops
                exact ⟨_, rfl, .openFailedCancelled hline hboard hcancels hwaits⟩

theorem interrupted_of_stopsAt {s s' : Exchange Target} {step : Step Target}
    {notices : List Notice} (h : Course.StopsAt (course step s).records notices s') :
    ∃ level, notices.getLast?.map Notice.level = some level ∧
      Interrupted s step notices level s' := by
  obtain ⟨index, command⟩ := step
  rw [course] at h
  cases hboard : s.board? index with
  | none =>
      simp only [hboard] at h
      exact h.elim
  | some board =>
      simp only [hboard] at h
      cases command with
      | prepare direction target =>
          obtain ⟨rfl, rfl⟩ := h.of_singleton
          exact ⟨_, rfl, .preparing hboard direction target⟩
      | connect relay device =>
          rcases stopsAt_claimCourse hboard h with
            ⟨error, hresolve, rfl, rfl⟩ | ⟨request, hresolve, rfl, rfl⟩
          · exact ⟨_, rfl, .turnedAway hboard hresolve device⟩
          · exact ⟨_, rfl, .dispatching hboard hresolve device⟩
      | cancel handle =>
          obtain ⟨hwaits, rfl, rfl⟩ := stopsAt_cancelCourse h
          exact ⟨_, rfl, .cancelled hboard hwaits⟩
      | deliver number device =>
          rw [courseOn, withLineCourse] at h
          split at h
          · exact h.elim
          · next line hline => exact interrupted_of_deliver hline h
      | cancelLine number =>
          rw [courseOn, withLineCourse] at h
          split at h
          · exact h.elim
          · next line hline =>
              obtain ⟨hwaits, rfl, rfl⟩ := stopsAt_cancelCourse h
              exact ⟨_, rfl, .lineCancelled hboard hline hwaits⟩
      | addBoard | addLine relay | count | inspect spread => exact h.elim
      | describeLine number | dropLine number =>
          rw [courseOn, withLineCourse] at h
          split at h <;> exact h.elim
      | inspectLine number =>
          rw [courseOn, withLineCourse] at h
          split at h
          · exact h.elim
          · split at h <;> exact h.elim
      | cloneLine number =>
          rw [courseOn, withLineCourse] at h
          split at h
          · exact h.elim
          · split at h <;> exact h.elim

end Exchange

namespace Occurrence

/-- An exchange to which the steps of a run have led is the same as itself: no board
keeps two requests under one handle. -/
theorem sameOn_leave {os : List Occurrence} (h : Linked {} os) (handles : Set Handle) :
    (leave {} os).SameOn handles (leave {} os) where
  lines_eq := rfl
  boards := by
    refine List.forall₂_same.mpr fun board hmem => ?_
    obtain ⟨index, hboard⟩ := List.mem_iff_getElem?.mp hmem
    have haccounts := accounts_of_linked h index
    have hboard : (leave {} os).board? index = some board := hboard
    have hfirst : ((({} : Exchange Target).board? index).getD {}) = {} := by
      cases index <;> rfl
    rw [hboard, Accounts, hfirst] at haccounts
    exact .refl haccounts.1.nodup_pending

/-- A step whose own log fails, at any moment of a run, is interrupted as `Interrupted`
says: it is cut short, and no target gets a device. The exchange that it leaves is fit
for use. All runs have the same outcomes from it as from any exchange with the same lines,
next handles and requests. If the requests of a board are kept under a lock, all sessions
come to the same on it, whether or not the lock has been spoilt. -/
theorem usable_after_log_failure {past : List Occurrence} (h : Moment past) {o : Occurrence}
    (hstate : o.before.state = leave {} past) (hfailed : o.LogFailed) :
    (perform o.step o.before = .error .sink o.after ∧
        invokedIn o.after.journal.events = invokedIn o.before.journal.events ∧
        ∃ earlier notice, o.notices = earlier ++ [notice] ∧
          o.before.journal.sink (o.before.journal.notices ++ earlier) notice = true ∧
          o.before.state.Interrupted o.step o.notices notice.level o.after.state) ∧
      (o.after.state.SameOn Set.univ o.after.state ∧
        ∀ other, o.after.state.SameOn Set.univ other → ∀ calls,
          List.Forall₂ (SameOutcome (SameOn Set.univ)) (history perform o.after.state calls)
            (history perform other calls)) ∧
      ∀ index board, o.after.state.board? index = some board → ∀ spoilt : Bool,
        (∀ calls, List.Forall₂ (SameOutcome Lock.StandsFor)
          (history (ν := Note) LockedBoard.desk.run ⟨board, spoilt⟩ calls)
          (history Switchboard.desk.run board calls)) ∧
        ∀ other, board.SameOn Set.univ other → ∀ calls,
          List.Forall₂ (SameOutcome LockedBoard.Same)
            (history (ν := Note) LockedBoard.desk.run ⟨board, spoilt⟩ calls)
            (history LockedBoard.desk.run ⟨other, false⟩ calls) := by
  refine ⟨⟨hfailed.perform_eq, ?_, ?_⟩, ⟨?_, ?_⟩, ?_⟩
  · have hnone : o.dispatch? = none := by rw [dispatch?, hfailed.begun?_eq, Option.bind_none]
    rw [o.invokedIn_after, hnone]
    exact List.append_nil _
  · obtain ⟨earlier, notice, hnotices, hsink, hstops⟩ := hfailed.stops
    obtain ⟨level, hlevel, hinterrupted⟩ := interrupted_of_stopsAt hstops
    refine ⟨earlier, notice, hnotices, hsink, ?_⟩
    rw [hnotices, List.getLast?_append_cons] at hlevel
    obtain rfl := Option.some.inj hlevel
    exact hinterrupted
  · have hlinked : Linked {} (past ++ [o]) := linked_append.mpr ⟨h.linked, hstate, trivial⟩
    have hsame := sameOn_leave hlinked Set.univ
    rwa [leave_append] at hsame
  · intro other hsame calls
    exact same_history (fun step _ _ h => agree_perform h step) calls hsame
  · intro index board _ spoilt
    constructor
    · intro calls
      refine same_history (fun session _ _ h => Desk.agree_run ?_ session h) calls rfl
      rintro operation lock board rfl
      exact LockedBoard.agree_carryOut lock operation
    · intro other hsame calls
      refine same_history (fun session _ _ h => Desk.agree_run ?_ session h) calls hsame
      exact fun operation _ _ h => h.agree_carryOut operation

theorem usable_after_firstRequest_lost :
    let o : Occurrence := ⟨⟨0, .connect ⟨.nth 1, .output⟩ "synth"⟩,
      ⟨leave {} [firstRequest], { sink := Sink.failingAt (some .debug) }⟩⟩
    let cancelled : Exchange Target :=
      ⟨[⟨.nth 2, []⟩], [some ⟨0, ⟨.nth 1, .output⟩, true⟩]⟩
    perform o.step o.before = .error .sink o.after ∧
      (∀ calls, List.Forall₂ (SameOutcome (SameOn Set.univ)) (history perform o.after.state calls)
        (history perform cancelled calls)) ∧
      ∀ calls : List (Call (Desk.Session Target)), List.Forall₂ (SameOutcome LockedBoard.Same)
        (history (ν := Note) LockedBoard.desk.run ⟨⟨.nth 2, []⟩, true⟩ calls)
        (history LockedBoard.desk.run ⟨⟨.nth 2, []⟩, false⟩ calls) := by
  intro o cancelled
  have hstate : o.after.state = cancelled := rfl
  obtain ⟨⟨hperform, -⟩, ⟨hself, hruns⟩, hlocked⟩ :=
    usable_after_log_failure moment_firstRequest (o := o) rfl ⟨_, rfl⟩
  refine ⟨hperform, hruns cancelled (hstate ▸ hself), ?_⟩
  exact (hlocked 0 ⟨.nth 2, []⟩ rfl true).2 _ (.refl List.nodup_nil)

end Occurrence

end MidiConsole
