import MidiConsole.Proofs.Allocation
import MidiConsole.Proofs.Tally

namespace MidiConsole

open Journaled Exchange

namespace Switchboard

variable {τ : Type}

/-- The reasons for which a board turns away a device that is brought for a handle and a
direction, with the level of the notice. -/
inductive TurnsAway (board : Switchboard τ) (relay : Relay) : OpenError → Level → Prop
  | invalidHandle (hinvalid : relay.handle = .invalid) :
      TurnsAway board relay (.invalidHandle relay.handle) .error
  | unknownHandle (hvalid : relay.handle ≠ .invalid)
      (hnone : board.isPending relay.handle = false) :
      TurnsAway board relay (.unknownHandle relay.handle) .warn
  | directionMismatch (hvalid : relay.handle ≠ .invalid) {request : Request τ}
      (hwaits : board.request? relay.handle = some request)
      (hdiffers : request.direction ≠ relay.direction) :
      TurnsAway board relay
        (.directionMismatch relay.handle request.direction relay.direction) .error

theorem TurnsAway.level_notice {board : Switchboard τ} {relay : Relay} {error : OpenError}
    {level : Level} (h : board.TurnsAway relay error level) :
    (error.notice relay.direction).level = level := by
  cases h <;> rfl

theorem resolve_eq_error_iff {board : Switchboard τ} {relay : Relay} {error : OpenError} :
    board.resolve relay.handle relay.direction = .error error ↔
      ∃ level, board.TurnsAway relay error level := by
  constructor
  · intro h
    unfold resolve at h
    split at h
    · next hvalid =>
        have hvalid : relay.handle ≠ .invalid := by simpa [Handle.isValid] using hvalid
        split at h
        · next hnone =>
            cases h
            exact ⟨_, .unknownHandle hvalid (by rw [isPending, hnone]; rfl)⟩
        · next request hwaits =>
            split at h
            · cases h
            · next hdiffers =>
                cases h
                exact ⟨_, .directionMismatch hvalid hwaits hdiffers⟩
    · next hinvalid =>
        cases h
        exact ⟨_, .invalidHandle (by simpa [Handle.isValid] using hinvalid)⟩
  · rintro ⟨level, hinvalid | ⟨hvalid, hnone⟩ | ⟨hvalid, hwaits, hdiffers⟩⟩
    · rw [resolve, if_neg (by simp [Handle.isValid, hinvalid])]
    · have hnone : board.request? relay.handle = none := by
        simpa [isPending] using hnone
      rw [resolve, if_pos (by simp [Handle.isValid, hvalid]), hnone]
    · rw [resolve, if_pos (by simp [Handle.isValid, hvalid]), hwaits]
      exact if_neg hdiffers

end Switchboard

namespace Target

variable {fault : Option String} {steps : List (Step Target)}
  {w w' : World Note (Exchange Target)} {ending : Option Fault}

/-- How a target goes on from a world with what is left of its script, and how it ends. It
carries out the steps one after another, as a host does, and notes that each is done. A step
that is cut short cuts the target short. After the last step the target returns, or it
raises its fault. -/
inductive GoesOn : Option String → List (Step Target) → World Note (Exchange Target) →
    Option Fault → World Note (Exchange Target) → Prop
  | returns (w : World Note (Exchange Target)) : GoesOn none [] w none w
  | raises (text : String) (w : World Note (Exchange Target)) :
      GoesOn (some text) [] w (some (.raised text)) w
  | cutShort {fault : Option String} {step : Step Target} {steps : List (Step Target)}
      {w w' : World Note (Exchange Target)} {cut : Fault}
      (hcut : perform step w = .error cut w') : GoesOn fault (step :: steps) w (some cut) w'
  | step {fault : Option String} {step : Step Target} {steps : List (Step Target)}
      {w w' final : World Note (Exchange Target)} {reply : Reply} {ending : Option Fault}
      (hstep : perform step w = .ok reply w')
      (hrest : GoesOn fault steps
        { w' with journal := w'.journal.add (.noted (.completed step reply)) } ending final) :
      GoesOn fault (step :: steps) w ending final

/-- How a target that has its device ends. -/
def Ends (target : Target) (w : World Note (Exchange Target)) (ending : Option Fault)
    (w' : World Note (Exchange Target)) : Prop :=
  GoesOn target.fault target.script w ending w'

theorem goesOn_iff : GoesOn fault steps w ending w' ↔
    drain (steps.map .perform ++ fault.toList.map .raise) w =
      match ending with
      | none => .ok () w'
      | some cut => .error cut w' := by
  induction steps generalizing w with
  | nil =>
      -- What is left on the agenda is the target's own fault, if it has one.
      rw [List.map_nil, List.nil_append]
      constructor
      · rintro (_ | _)
        · exact drain_nil _
        · exact drain_cons_of_error rfl []
      · intro h
        rcases fault with _ | text
        · rw [Option.toList_none, List.map_nil, drain_nil] at h
          rcases ending with _ | cut <;> cases h
          exact .returns _
        · rw [Option.toList_some, List.map_singleton, drain_cons_of_error rfl] at h
          rcases ending with _ | cut <;> cases h
          exact .raises text _
  | cons step steps ih =>
      rw [List.map_cons, List.cons_append, drain_perform_cons, bind_apply]
      constructor
      · rintro (_ | _ | hcut | ⟨hstep, hrest⟩)
        · rw [hcut]
        · rw [hstep]
          exact ih.mp hrest
      · intro h
        cases hperform : perform step w with
        | error cut u =>
            rw [hperform] at h
            rcases ending with _ | other <;> cases h
            exact .cutShort hperform
        | ok reply u =>
            rw [hperform] at h
            exact .step hperform (ih.mpr h)

theorem ends_iff {target : Target} : target.Ends w ending w' ↔ drain target.tasks w =
    match ending with
    | none => .ok () w'
    | some cut => .error cut w' :=
  goesOn_iff

theorem exists_ends (target : Target) (w : World Note (Exchange Target)) :
    ∃ ending w', target.Ends w ending w' := by
  rcases hdrain : drain target.tasks w with ⟨_, w'⟩ | ⟨cut, w'⟩
  · exact ⟨none, w', ends_iff.mpr hdrain⟩
  · exact ⟨some cut, w', ends_iff.mpr hdrain⟩

end Target

namespace Occurrence

variable {o : Occurrence} {index : Nat} {board : Switchboard Target} {relay : Relay}
  {device : Device}

def LogSound (o : Occurrence) : Prop :=
  ∀ earlier notice, o.before.journal.sink earlier notice = false

theorem LogSound.comes (h : o.LogSound) :
    o.Comes (some o.course.value) o.course.notices o.course.final := by
  rcases o.comes with hcomes | ⟨earlier, notice, s, -, hsink, -⟩
  · exact hcomes
  · rw [h] at hsink
    cases hsink

theorem Comes.events_after {begun : Option (Begun Target)} {logged : List Notice}
    {exchange : Exchange Target} (h : o.Comes begun logged exchange) :
    o.after.journal.events = o.before.journal.events ++ .noted (.started o.step) ::
      (logged.map .logged ++ (o.dispatch?.map fun d => .noted (.invoked d)).toList) := by
  obtain ⟨logged', hnotices, hjournal⟩ := o.journal_after
  rw [hjournal, ← Occurrence.notices_eq hnotices, h.notices_eq]

variable {begun : Begun Target} {target : Target}

theorem outcome_iff_of_begun? (h : o.begun? = some begun) (htasks : begun.tasks = target.tasks)
    (ending : Option Fault) (w : World Note (Exchange Target)) :
    perform o.step o.before =
        (match ending with
          | none => .ok begun.reply w
          | some cut => .error cut w) ↔
      target.Ends o.after ending w := by
  rw [perform_of_begun? h, htasks, Target.ends_iff]
  cases drain target.tasks o.after <;> cases ending <;> simp

/-- A device that was turned away. Its step returns the reason, and has done nothing but log
one notice. -/
structure TurnedAway (o : Occurrence) (relay : Relay) (error : OpenError) (level : Level) :
    Prop where
  returns : perform o.step o.before = .ok (.opened (.error error)) o.after
  state_eq : o.after.state = o.before.state
  events_eq : o.after.journal.events = o.before.journal.events ++
    [.noted (.started o.step), .logged (error.notice relay.direction)]
  level_eq : (error.notice relay.direction).level = level

/-- A device that was connected. Its request, and nothing else, is gone from the board before
the one notice and before the target gets the device. The target then goes through its script
and ends; the step returns if the target does, and is cut short by what cuts the target
short. -/
structure Served (o : Occurrence) (index : Nat) (board : Switchboard Target) (relay : Relay)
    (device : Device) (request : Request Target) : Prop where
  waits : board.request? relay.handle = some request
  state_eq : o.after.state = { o.before.state with
    boards := o.before.state.boards.set index (board.erase relay.handle) }
  request?_eq : ∀ handle, (board.erase relay.handle).request? handle =
    if handle = relay.handle then none else board.request? handle
  pendingCount_eq : (board.erase relay.handle).pendingCount + 1 = board.pendingCount
  next_eq : (board.erase relay.handle).next = board.next
  events_eq : o.after.journal.events = o.before.journal.events ++
    [.noted (.started o.step), .logged (.dispatching relay.direction relay.handle),
      .noted (.invoked ⟨index, ⟨relay.handle, relay.direction, device, request.target⟩⟩)]
  level_eq : (Notice.dispatching relay.direction relay.handle).level = .debug
  ends : ∃ ending w, request.target.Ends o.after ending w
  returns_iff : ∀ w, perform o.step o.before = .ok (.opened (.ok ())) w ↔
    request.target.Ends o.after none w
  cutShort_iff : ∀ cut w, perform o.step o.before = .error cut w ↔
    request.target.Ends o.after (some cut) w

section

variable (hstep : o.step = ⟨index, .connect relay device⟩)
  (hboard : o.before.state.board? index = some board)

include hstep hboard

theorem course_of_connect :
    o.course = Exchange.claimCourse index board device relay o.before.state := by
  rw [course, hstep]
  simp only [Exchange.course, hboard, courseOn]

variable (hsound : o.LogSound)

include hsound

theorem turnedAway_of_resolve {error : OpenError}
    (hresolve : board.resolve relay.handle relay.direction = .error error) :
    o.TurnedAway relay error (error.notice relay.direction).level := by
  have hcomes := hsound.comes
  have hself := setBoard_self hboard
  rw [course_of_connect hstep hboard, Exchange.claimCourse, Switchboard.claimCourse, hresolve]
    at hcomes
  have hdispatch : o.dispatch? = none := hcomes.dispatch_eq
  refine ⟨?_, hcomes.state_eq.trans hself, ?_, rfl⟩
  · exact perform_of_tasks_eq_nil hcomes.begun_eq rfl
  · rw [hcomes.events_after, hdispatch]
    rfl

theorem served_of_resolve (hnodup : (board.pending.map Prod.fst).Nodup)
    {request : Request Target}
    (hresolve : board.resolve relay.handle relay.direction = .ok request) :
    o.Served index board relay device request := by
  have hcomes := hsound.comes
  obtain ⟨hvalid, hwaits, hdirection⟩ := Switchboard.resolve_eq_ok_iff.mp hresolve
  rw [course_of_connect hstep hboard, Exchange.claimCourse, Switchboard.claimCourse, hresolve]
    at hcomes
  have hdispatch : o.dispatch? =
      some ⟨index, ⟨relay.handle, relay.direction, device, request.target⟩⟩ := hcomes.dispatch_eq
  constructor
  · exact hwaits
  · exact hcomes.state_eq
  · intro handle
    split
    · next heq =>
        rw [heq]
        exact Switchboard.request?_erase_self board relay.handle
    · next hne => exact Switchboard.request?_erase_of_ne hne board
  · exact Switchboard.pendingCount_erase hnodup (Option.isSome_of_eq_some hwaits)
  · rfl
  · rw [hcomes.events_after, hdispatch]
    rfl
  · rfl
  · exact request.target.exists_ends o.after
  · exact outcome_iff_of_begun? hcomes.begun_eq rfl none
  · intro cut
    exact outcome_iff_of_begun? hcomes.begun_eq rfl (some cut)

theorem turnedAway_of_turnsAway {error : OpenError} {level : Level}
    (hturns : board.TurnsAway relay error level) : o.TurnedAway relay error level := by
  have hresolve := Switchboard.resolve_eq_error_iff.mpr ⟨level, hturns⟩
  exact hturns.level_notice ▸ turnedAway_of_resolve hstep hboard hsound hresolve

variable (hnodup : (board.pending.map Prod.fst).Nodup)

include hnodup

theorem served_of_not_turnsAway (hnone : ∀ error level, ¬board.TurnsAway relay error level) :
    ∃ request, request.direction = relay.direction ∧
      o.Served index board relay device request := by
  rcases hresolve : board.resolve relay.handle relay.direction with error | request
  · obtain ⟨level, hturns⟩ := Switchboard.resolve_eq_error_iff.mp hresolve
    exact absurd hturns (hnone error level)
  · exact ⟨request, (Switchboard.resolve_eq_ok_iff.mp hresolve).2.2,
      served_of_resolve hstep hboard hsound hnodup hresolve⟩

/-- A device for which no reason applies is connected, and its step returns no reason even if
the target ends with a fault. -/
theorem returns_error_iff {error : OpenError} :
    (∃ w, perform o.step o.before = .ok (.opened (.error error)) w) ↔
      ∃ level, board.TurnsAway relay error level := by
  constructor
  · rintro ⟨w, hperform⟩
    rcases hresolve : board.resolve relay.handle relay.direction with other | request
    · have hreturns := (turnedAway_of_resolve hstep hboard hsound hresolve).returns
      rw [hperform] at hreturns
      cases hreturns
      exact Switchboard.resolve_eq_error_iff.mp hresolve
    · have hserved := served_of_resolve hstep hboard hsound hnodup hresolve
      obtain ⟨_ | cut, v, hends⟩ := hserved.ends
      · have hreturns := (hserved.returns_iff v).mpr hends
        rw [hperform] at hreturns
        cases hreturns
      · have hcut := (hserved.cutShort_iff cut v).mpr hends
        rw [hperform] at hcut
        cases hcut
  · rintro ⟨level, hturns⟩
    exact ⟨_, (turnedAway_of_turnsAway hstep hboard hsound hturns).returns⟩

end

/-- At every moment of a run, a device that is brought to a board, with a log that takes all
notices, is turned away for one of the reasons of `TurnsAway`, or else it is connected, and
what comes of the step is what comes of the target. A request of the other direction goes on
waiting, and the next device of its own direction is connected. A board never says that a
device could not be opened. -/
theorem device_gets_one_verdict {past : List Occurrence} (h : Moment past)
    (hboard : (leave {} past).board? index = some board)
    (hstate : o.before.state = leave {} past) (hsound : o.LogSound)
    (hstep : o.step = ⟨index, .connect relay device⟩) :
    (∀ error, (∃ w, perform o.step o.before = .ok (.opened (.error error)) w) ↔
        ∃ level, board.TurnsAway relay error level) ∧
      (∀ error level, board.TurnsAway relay error level → o.TurnedAway relay error level) ∧
      ((∀ error level, ¬board.TurnsAway relay error level) →
        ∃ request, request.direction = relay.direction ∧
          o.Served index board relay device request) ∧
      (∀ request, board.request? relay.handle = some request → relay.handle ≠ .invalid →
        request.direction ≠ relay.direction →
        ∀ (later : Occurrence) (other : Device), later.before.state = o.after.state →
          later.LogSound →
          later.step = ⟨index, .connect ⟨relay.handle, request.direction⟩ other⟩ →
          later.Served index board ⟨relay.handle, request.direction⟩ other request) ∧
      ∀ handle direction w,
        perform o.step o.before ≠ .ok (.opened (.error (.notOpened handle direction))) w := by
  have hnodup := (h.leads hboard).1.nodup_pending
  rw [← hstate] at hboard
  refine ⟨?_, ?_, ?_, ?_, ?_⟩
  · intro error
    exact returns_error_iff hstep hboard hsound hnodup
  · intro error level hturns
    exact turnedAway_of_turnsAway hstep hboard hsound hturns
  · intro hnone
    exact served_of_not_turnsAway hstep hboard hsound hnodup hnone
  · intro request hwaits hvalid hdiffers later other hlater hlog hconnect
    have haway := turnedAway_of_turnsAway hstep hboard hsound
      (.directionMismatch hvalid hwaits hdiffers)
    rw [← haway.state_eq, ← hlater] at hboard
    refine served_of_resolve hconnect hboard hlog hnodup ?_
    exact Switchboard.resolve_eq_ok_iff.mpr ⟨by simpa [Handle.isValid] using hvalid, hwaits, rfl⟩
  · intro handle direction w hperform
    obtain ⟨level, hturns⟩ := (returns_error_iff hstep hboard hsound hnodup).mp ⟨w, hperform⟩
    cases hturns

/-- A target that asks for a further request when it has its device. -/
def asking : Target :=
  .mk "asking" [⟨0, .prepare .input (.mk "idle" [] none)⟩] none

def failing : Target :=
  .mk "failing" [] (some "out of order")

def twoRequests : List (Call (Step Target)) :=
  [⟨⟨0, .prepare .output asking⟩, Sink.sound⟩, ⟨⟨0, .prepare .input failing⟩, Sink.sound⟩]

def twoWaiting : Exchange Target where
  boards := [⟨.nth 3, [(.nth 2, ⟨.input, failing⟩), (.nth 1, ⟨.output, asking⟩)]⟩]
  lines := [some ⟨0, ⟨.nth 1, .output⟩, true⟩, some ⟨0, ⟨.nth 2, .input⟩, true⟩]

theorem leave_twoRequests : leave {} (chronicle {} twoRequests) = twoWaiting := by
  rw [twoRequests, chronicle_cons_of_dispatch?_eq_none rfl rfl,
    chronicle_cons_of_dispatch?_eq_none rfl rfl]
  rfl

/-- Devices are brought without a handle, for a handle that nobody waits under, for an input
where an output is waited for, and for both requests. -/
theorem verdicts_on_twoWaiting :
    let brought : Relay → Occurrence := fun relay =>
      ⟨⟨0, .connect relay "synth"⟩, ⟨twoWaiting, {}⟩⟩
    let outcome := fun relay => perform (brought relay).step (brought relay).before
    let board : Switchboard Target :=
      ⟨.nth 3, [(.nth 2, ⟨.input, failing⟩), (.nth 1, ⟨.output, asking⟩)]⟩
    (brought ⟨.invalid, .input⟩).TurnedAway ⟨.invalid, .input⟩ (.invalidHandle .invalid) .error ∧
      (brought ⟨.nth 7, .output⟩).TurnedAway ⟨.nth 7, .output⟩ (.unknownHandle (.nth 7)) .warn ∧
      (brought ⟨.nth 1, .input⟩).TurnedAway ⟨.nth 1, .input⟩
        (.directionMismatch (.nth 1) .output .input) .error ∧
      ((brought ⟨.nth 1, .output⟩).Served 0 board ⟨.nth 1, .output⟩ "synth" ⟨.output, asking⟩ ∧
        ∃ w, outcome ⟨.nth 1, .output⟩ = .ok (.opened (.ok ())) w ∧
          w.state.board? 0 = some
            ⟨.nth 4, [(.nth 3, ⟨.input, .mk "idle" [] none⟩), (.nth 2, ⟨.input, failing⟩)]⟩) ∧
      ((brought ⟨.nth 2, .input⟩).Served 0 board ⟨.nth 2, .input⟩ "synth" ⟨.input, failing⟩ ∧
        ∃ w, outcome ⟨.nth 2, .input⟩ = .error (.raised "out of order") w ∧
          w.state.board? 0 = some ⟨.nth 3, [(.nth 1, ⟨.output, asking⟩)]⟩) := by
  intro brought outcome board
  have hmoment : Moment (chronicle {} twoRequests) := ⟨twoRequests, [], (List.append_nil _).symm⟩
  have hboard : (leave {} (chronicle {} twoRequests)).board? 0 = some board := by
    rw [leave_twoRequests]
    rfl
  have hverdict (relay : Relay) := device_gets_one_verdict (o := brought relay)
    hmoment hboard leave_twoRequests.symm (fun _ _ => rfl) rfl
  have hserved : ∀ (relay : Relay) (request : Request Target), relay.handle ≠ .invalid →
      board.request? relay.handle = some request → request.direction = relay.direction →
      (brought relay).Served 0 board relay "synth" request := by
    intro relay request hvalid hwaits hdirection
    obtain ⟨found, -, hserved⟩ := (hverdict relay).2.2.1 (by
      rintro error level (hinvalid | ⟨-, hnone⟩ | ⟨-, hother, hdiffers⟩)
      · exact hvalid hinvalid
      · rw [Switchboard.isPending, hwaits] at hnone
        cases hnone
      · rw [hwaits] at hother
        cases hother
        exact hdiffers hdirection)
    obtain rfl := Option.some.inj (hwaits.symm.trans hserved.waits)
    exact hserved
  have hasking := hserved ⟨.nth 1, .output⟩ ⟨.output, asking⟩ (by decide) rfl rfl
  have hfailing := hserved ⟨.nth 2, .input⟩ ⟨.input, failing⟩ (by decide) rfl rfl
  refine ⟨?_, ?_, ?_, ⟨hasking, ?_⟩, ⟨hfailing, ?_⟩⟩
  · exact (hverdict _).2.1 _ _ (.invalidHandle rfl)
  · exact (hverdict _).2.1 _ _ (.unknownHandle (by decide) rfl)
  · have hwaits : board.request? (Relay.mk (.nth 1) .input).handle = some ⟨.output, asking⟩ := rfl
    exact (hverdict _).2.1 _ _ (.directionMismatch (by decide) hwaits (by decide))
  · have hstep := perform_of_tasks_eq_nil
      (o := ⟨⟨0, .prepare .input (.mk "idle" [] none)⟩, (brought ⟨.nth 1, .output⟩).after⟩) rfl rfl
    exact ⟨_, (hasking.returns_iff _).mpr (.step hstep (.returns _)), rfl⟩
  · exact ⟨_, (hfailing.cutShort_iff _ _).mpr (.raises _ _), rfl⟩

end Occurrence

end MidiConsole
