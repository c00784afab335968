import MidiConsole.Proofs.Conservation
import MidiConsole.Proofs.Delivery
import MidiConsole.Proofs.StepCourse

namespace MidiConsole

open Journaled Exchange

namespace Exchange

variable {τ : Type}

theorem onBoard_apply {ν α : Type} (index : Nat) (board : Switchboard τ)
    (act : Journaled ν (Switchboard τ) α) (w : World ν (Exchange τ)) :
    onBoard index board act w =
      match act ⟨board, w.journal⟩ with
      | .ok a v => .ok a ⟨w.state.setBoard index v.state, v.journal⟩
      | .error fault v => .error fault ⟨w.state.setBoard index v.state, v.journal⟩ := by
  simp only [onBoard, Journaled.within]
  cases act ⟨board, w.journal⟩ <;> rfl

/-- The lines of an exchange keep their places in another one, unless they are dropped. -/
structure LinesStay (s t : Exchange τ) : Prop where
  length_le : s.lines.length ≤ t.lines.length
  line?_eq : ∀ number < s.lines.length,
    t.line? number = none ∨ t.line? number = s.line? number

namespace LinesStay

variable {s t u : Exchange τ}

theorem of_eq (h : t.lines = s.lines) : s.LinesStay t where
  length_le := by rw [h]
  line?_eq number _ := Or.inr (by rw [line?, h, line?])

theorem of_eq_append {line : Line} (h : t.lines = s.lines ++ [some line]) : s.LinesStay t where
  length_le := by simp [h]
  line?_eq number hlt := Or.inr (by rw [line?, h, List.getElem?_append_left hlt, line?])

theorem of_eq_set {dropped : Nat} (h : t.lines = s.lines.set dropped none) : s.LinesStay t where
  length_le := by simp [h]
  line?_eq number hlt := by
    by_cases heq : dropped = number
    · subst heq
      exact Or.inl (by rw [line?, h, List.getElem?_set_self hlt, Option.join_some])
    · exact Or.inr (by rw [line?, h, List.getElem?_set_ne heq, line?])

theorem trans (h : s.LinesStay t) (h' : t.LinesStay u) : s.LinesStay u where
  length_le := h.length_le.trans h'.length_le
  line?_eq number hlt := by
    rcases h'.line?_eq number (hlt.trans_le h.length_le) with hnone | heq
    · exact Or.inl hnone
    · rw [heq]
      exact h.line?_eq number hlt

end LinesStay

theorem linesStay_course (step : Step τ) (s : Exchange τ) :
    (course step s).Keeps s.LinesStay := by
  have hs : s.LinesStay s := .of_eq rfl
  have hset : ∀ index board, s.LinesStay (s.setBoard index board) := fun _ _ => .of_eq rfl
  obtain ⟨index, command⟩ := step
  rw [course]
  cases s.board? index with
  | none => exact keeps_quietCourse hs .noBoard
  | some board =>
      cases command with
      | addBoard => exact keeps_quietCourse (.of_eq rfl) _
      | prepare direction target =>
          refine ⟨fun record hrecord => ?_, .of_eq_append rfl⟩
          obtain rfl := List.mem_singleton.mp hrecord
          exact .of_eq rfl
      | addLine relay => exact keeps_quietCourse (.of_eq_append rfl) _
      | deliver number device =>
          exact keeps_withLineCourse hs (keeps_deliverCourse hset hs · device) number .noLine
      | connect relay device => exact keeps_claimCourse hset index board device relay
      | cancel handle => exact keeps_cancelCourse hset index board handle
      | cancelLine number =>
          exact keeps_withLineCourse hs (fun line => keeps_cancelCourse hset index board _)
            number .noLine
      | count | inspect spread => exact keeps_quietCourse hs _
      | describeLine number =>
          exact keeps_withLineCourse hs (fun _ => keeps_quietCourse hs _) number .noLine
      | inspectLine number =>
          refine keeps_withLineCourse hs (fun line => ?_) number .noLine
          cases s.board? line.board <;> exact keeps_quietCourse hs _
      | cloneLine number =>
          refine keeps_withLineCourse hs (fun line => ?_) number .noLine
          cases line.cancelsOnFailure with
          | true => exact keeps_quietCourse hs _
          | false => exact keeps_quietCourse (.of_eq_append rfl) _
      | dropLine number =>
          refine keeps_withLineCourse hs (fun _ => ?_) number (.flag false)
          exact keeps_quietCourse (.of_eq_set rfl) _

end Exchange

namespace Occurrence

variable {o : Occurrence} {past : List Occurrence} {index number : Nat} {relay : Relay}
  {target : Target} {board : Switchboard Target}

theorem linesStay_leave {s : Exchange Target} {os : List Occurrence} (h : Linked s os) :
    s.LinesStay (leave s os) := by
  induction os generalizing s with
  | nil => exact .of_eq rfl
  | cons o os ih =>
      obtain ⟨rfl, hrest⟩ := h
      exact (state_of_keeps (linesStay_course o.step o.before.state)).trans (ih hrest)

/-- A step hands out the relay of a new request for a target. The relay has a number
among the lines. -/
structure HandsOut (o : Occurrence) (index number : Nat) (relay : Relay) (target : Target) :
    Prop where
  step_eq : o.step = ⟨index, .prepare relay.direction target⟩
  begun?_eq : o.begun? = some ⟨.prepared number relay, none⟩

theorem HandsOut.comes (h : o.HandsOut index number relay target) :
    ∃ board, o.before.state.board? index = some board ∧
      number = o.before.state.lines.length ∧
      o.notices = [.preparing relay.direction relay.handle] ∧
      o.after.state = (o.before.state.setBoard index
        (board.advance.insert relay.handle ⟨relay.direction, target⟩)).addLine
          ⟨index, relay, true⟩ := by
  obtain ⟨hvalue, hcomes⟩ := comes_of_begun? h.begun?_eq
  obtain ⟨handle, direction⟩ := relay
  have hcourse : o.course = Exchange.course ⟨index, .prepare direction target⟩ o.before.state := by
    rw [course, h.step_eq]
  rw [hcourse, Exchange.course] at hvalue hcomes
  cases hboard : o.before.state.board? index with
  | none =>
      simp only [hboard] at hvalue
      cases hvalue
  | some board =>
      simp only [hboard] at hvalue hcomes
      cases hvalue
      exact ⟨board, rfl, rfl, hcomes.notices_eq, hcomes.state_eq⟩

theorem HandsOut.deed?_eq (h : o.HandsOut index number relay target) :
    o.board = index ∧ o.deed? = some (.inserted relay.handle ⟨relay.direction, target⟩) := by
  obtain ⟨board, -, -, hnotices, -⟩ := h.comes
  constructor
  · simp [Occurrence.board, h.step_eq]
  · simp [deed?, hnotices, h.begun?_eq, h.step_eq]

def HandedOut (past : List Occurrence) (index number : Nat) (relay : Relay)
    (target : Target) : Prop :=
  ∃ o ∈ past, o.HandsOut index number relay target

theorem HandedOut.mem_deedsOn (h : HandedOut past index number relay target) :
    .inserted relay.handle ⟨relay.direction, target⟩ ∈ deedsOn index past := by
  obtain ⟨o, ho, hout⟩ := h
  obtain ⟨hindex, hdeed⟩ := hout.deed?_eq
  exact List.mem_filterMap.mpr ⟨o, ho, by rw [if_pos hindex, hdeed]⟩

theorem HandedOut.mem_handlesOn (h : HandedOut past index number relay target) :
    relay.handle ∈ handlesOn index past := by
  rw [handlesOn_eq]
  exact List.mem_filterMap.mpr ⟨_, h.mem_deedsOn, rfl⟩

theorem HandedOut.line?_leave {s : Exchange Target} (hlinked : Linked s past)
    (h : HandedOut past index number relay target) :
    (leave s past).line? number = none ∨
      (leave s past).line? number = some ⟨index, relay, true⟩ := by
  obtain ⟨o, ho, hout⟩ := h
  obtain ⟨earlier, later, rfl⟩ := List.append_of_mem ho
  obtain ⟨-, -, hlater⟩ := linked_append.mp hlinked
  obtain ⟨board, -, rfl, -, hafter⟩ := hout.comes
  have hlines : o.after.state.lines = o.before.state.lines ++ [some ⟨index, relay, true⟩] := by
    rw [hafter]
    rfl
  have hline : o.after.state.line? o.before.state.lines.length =
      some ⟨index, relay, true⟩ := by
    simp [Exchange.line?, hlines]
  have hstay := (linesStay_leave hlater).line?_eq o.before.state.lines.length (by simp [hlines])
  rw [leave_append, leave]
  rwa [hline] at hstay

/-- The request that waits under the handle of a relay is the one that the relay came
with. -/
theorem Moment.request?_eq_of_handedOut (h : Moment past)
    (hout : HandedOut past index number relay target) (hbound : preparations index past < 2 ^ 64)
    (hboard : (leave {} past).board? index = some board) {request : Request Target}
    (hwaits : board.request? relay.handle = some request) :
    request = ⟨relay.direction, target⟩ := by
  obtain ⟨hleads, hcount⟩ := h.leads hboard
  have habout := hleads.about_of_request? (hcount ▸ hbound) hwaits
  have hmem : .inserted relay.handle ⟨relay.direction, target⟩ ∈
      Switchboard.about relay.handle (deedsOn index past) :=
    List.mem_filter.mpr ⟨hout.mem_deedsOn, by simp [Deed.handle]⟩
  rw [habout, List.mem_singleton] at hmem
  exact (Deed.inserted.inj hmem).2.symm

section

variable {host : Nat} {device : Option Device}
  (hstep : o.step = ⟨host, .deliver number device⟩)
  (hhost : (o.before.state.board? host).isSome)
  (hline : o.before.state.line? number = some ⟨index, relay, true⟩)
  (hboard : o.before.state.board? index = some board)

include hstep hhost hline hboard

theorem course_of_deliver : o.course =
    (((Line.mk index relay true).deliverCourse board device).lift fun board =>
      o.before.state.setBoard index board).map (settle index) := by
  obtain ⟨other, hhost⟩ := Option.isSome_iff_exists.mp hhost
  rw [course, hstep]
  simp only [Exchange.course, hhost, courseOn, withLineCourse, hline, Exchange.deliverCourse,
    hboard]

theorem deliver_of_begun? {begun : Begun Target} (h : o.begun? = some begun) :
    ∃ result v, (Line.mk index relay true).deliver device ⟨board, o.entry.journal⟩ =
        .ok result v ∧ begun = settle index result ∧
      o.after.state = o.before.state.setBoard index v.state := by
  obtain ⟨other, hhost⟩ := Option.isSome_iff_exists.mp hhost
  have hbegin : begin o.step o.entry =
      (settle index <$> onBoard index board ((Line.mk index relay true).deliver device))
        o.entry := by
    have hon : begin ⟨host, .deliver number device⟩ o.entry =
        beginOn host other (.deliver number device) o.entry := begin_of_board?_eq_some hhost
    have hto : o.entry.state.board? (Line.mk index relay true).board = some board := hboard
    rw [hstep, hon, beginOn, withLine_of_line?_eq_some (w := o.entry) hline]
    exact deliver_of_board?_eq_some hto device
  rw [map_apply, onBoard_apply] at hbegin
  cases hdeliver : (Line.mk index relay true).deliver device ⟨board, o.entry.journal⟩ with
  | error fault v =>
      simp only [hdeliver] at hbegin
      rw [begun?_of_begin_error hbegin] at h
      cases h
  | ok result v =>
      simp only [hdeliver] at hbegin
      rw [begun?_of_begin_ok hbegin] at h
      cases h
      refine ⟨result, v, rfl, rfl, ?_⟩
      rw [state_after, after_of_ok hbegin]
      rfl

end

/-- What comes of a delivery that has returned, through the relay of a request that waits
for a target, or has waited for it, on a board. An opened device is for the target of the
request if that still waits. If no device could be opened, the request does not wait any
more, and nothing else has changed. -/
inductive Delivered (o : Occurrence) (w : World Note (Exchange Target)) (index : Nat)
    (board : Switchboard Target) (relay : Relay) (target : Target) :
    Option Device → Reply → Prop
  | served (device : Device) (hwaits : board.isPending relay.handle)
      (hstate : o.after.state = o.before.state.setBoard index (board.erase relay.handle))
      (hinvoked : invokedIn o.after.journal.events = invokedIn o.before.journal.events ++
        [⟨index, ⟨relay.handle, relay.direction, device, target⟩⟩]) :
      Delivered o w index board relay target (some device) (.opened (.ok ()))
  | unknown (device : Device) (hgone : board.isPending relay.handle = false)
      (hstate : w.state = o.before.state)
      (hinvoked : invokedIn w.journal.events = invokedIn o.before.journal.events) :
      Delivered o w index board relay target (some device)
        (.opened (.error (.unknownHandle relay.handle)))
  | failed (board' : Switchboard Target) (hgone : board'.isPending relay.handle = false)
      (hothers : ∀ handle ≠ relay.handle, board'.request? handle = board.request? handle)
      (hnext : board'.next = board.next)
      (hstate : w.state = o.before.state.setBoard index board')
      (hinvoked : invokedIn w.journal.events = invokedIn o.before.journal.events) :
      Delivered o w index board relay target none
        (.opened (.error (.notOpened relay.handle relay.direction)))

theorem isPending_erase_self (board : Switchboard Target) (handle : Handle) :
    (board.erase handle).isPending handle = false := by
  rw [Switchboard.isPending, Switchboard.request?_erase_self]
  rfl

theorem final_cancelCourse (handle : Handle) (board : Switchboard Target) :
    (board.cancelCourse handle).final = board.erase handle := by
  rw [Switchboard.cancelCourse]
  cases hpending : board.isPending handle with
  | true => rfl
  | false =>
      have hnone : board.request? handle = none := by
        simpa [Switchboard.isPending] using hpending
      exact (Switchboard.erase_of_request?_eq_none hnone).symm

theorem delivered_of_perform_ok {host : Nat} {device : Option Device}
    (hstep : o.step = ⟨host, .deliver number device⟩)
    (hhost : (o.before.state.board? host).isSome)
    (hline : o.before.state.line? number = some ⟨index, relay, true⟩)
    (hboard : o.before.state.board? index = some board) (hvalid : relay.handle.isValid)
    (hagrees : ∀ request, board.request? relay.handle = some request →
      request = ⟨relay.direction, target⟩)
    {reply : Reply} {w : World Note (Exchange Target)}
    (hperform : perform o.step o.before = .ok reply w) :
    o.Delivered w index board relay target device reply := by
  obtain ⟨begun, hbegun, rfl⟩ := begun?_of_perform_ok hperform
  obtain ⟨hvalue, hcomes⟩ := comes_of_begun? hbegun
  have hself := setBoard_self hboard
  have hcourse := course_of_deliver hstep hhost hline hboard
  have hinvoked := o.invokedIn_after
  rw [hcomes.dispatch_eq] at hinvoked
  have hstate := hcomes.state_eq
  rw [hcourse] at hvalue hstate
  -- Without a connection the step is done when it has begun.
  have hdone : begun.dispatch = none → w = o.after := by
    intro hnone
    have hreturns := perform_of_tasks_eq_nil hbegun (by rw [Begun.tasks, hnone])
    exact (EStateM.Result.ok.inj (hperform.symm.trans hreturns)).2
  cases device with
  | none =>
      obtain rfl := hvalue
      obtain rfl := hdone rfl
      refine .failed (board.erase relay.handle) (isPending_erase_self board relay.handle)
        (fun handle hne => Switchboard.request?_erase_of_ne hne board) rfl ?_ ?_
      · rw [hstate, ← final_cancelCourse]
        rfl
      · rw [hinvoked]
        exact List.append_nil _
  | some device =>
      cases hrequest : board.request? relay.handle with
      | none =>
          rw [Line.deliverCourse, Switchboard.claimCourse_of_request?_eq_none hvalid hrequest]
            at hvalue hstate
          obtain rfl := hvalue
          obtain rfl := hdone rfl
          refine .unknown device ?_ (hstate.trans hself) ?_
          · rw [Switchboard.isPending, hrequest]
            rfl
          · rw [hinvoked]
            exact List.append_nil _
      | some request =>
          obtain rfl := hagrees request hrequest
          rw [Line.deliverCourse, Switchboard.claimCourse_of_request?_eq_some hvalid hrequest]
            at hvalue hstate
          obtain rfl := hvalue
          exact .served device (Option.isSome_of_eq_some hrequest) hstate hinvoked

/-- A delivery through a relay can be told as one that notes the requests it gives up
itself: its own, if no device could be opened, and none otherwise. -/
structure NotesGivenUp (o : Occurrence) (index : Nat) (board : Switchboard Target) (relay : Relay)
    (device : Option Device) (result : Except OpenError (Connection Target))
    (v : World Note (Switchboard Target)) : Prop where
  deliverBy_eq : (Line.mk index relay true).deliverBy Switchboard.claim (Line.cancelNoted index)
    device ⟨board, o.entry.journal⟩ = .ok result v
  begun?_eq : o.begun? = some (settle index result)
  state_eq : o.after.state = o.before.state.setBoard index v.state
  startedIn_eq : startedIn v.journal.events = startedIn o.entry.journal.events ++
    if device.isNone then [⟨index, .cancel relay.handle⟩] else []

theorem exists_notesGivenUp {host : Nat} {device : Option Device}
    (hstep : o.step = ⟨host, .deliver number device⟩)
    (hhost : (o.before.state.board? host).isSome)
    (hline : o.before.state.line? number = some ⟨index, relay, true⟩)
    (hboard : o.before.state.board? index = some board) {begun : Begun Target}
    (hbegun : o.begun? = some begun) :
    ∃ result v, o.NotesGivenUp index board relay device result v := by
  obtain ⟨result, v, hdeliver, rfl, hstate⟩ := deliver_of_begun? hstep hhost hline hboard hbegun
  obtain ⟨u, hnoted, hsame, -, hstarted⟩ := Line.deliverBy_cancelNoted rfl hdeliver
  exact ⟨result, u, hnoted, hbegun, by rw [hstate, hsame], hstarted⟩

/-- As long as fewer than `2 ^ 64` requests are asked for, a relay that was handed out
with a request agrees with its board on the direction and the target of what waits under
its handle, and its line is in place unless it was dropped. A delivery through it that
returns comes to what `Delivered` says. It has itself given a request up if, and only if,
no device could be opened. -/
theorem relay_agrees_with_board {past : List Occurrence} (h : Moment past)
    (hout : HandedOut past index number relay target)
    (hbound : preparations index past < 2 ^ 64) :
    ∃ board, (leave {} past).board? index = some board ∧
      (∀ request, board.request? relay.handle = some request →
        request = ⟨relay.direction, target⟩) ∧
      ((leave {} past).line? number = none ∨
        (leave {} past).line? number = some ⟨index, relay, true⟩) ∧
      ∀ (o : Occurrence) (host : Nat) (device : Option Device),
        o.before.state = leave {} past → o.step = ⟨host, .deliver number device⟩ →
        (o.before.state.board? host).isSome → (o.before.state.line? number).isSome →
        ∀ reply w, perform o.step o.before = .ok reply w →
          o.Delivered w index board relay target device reply ∧
            ∃ result v, o.NotesGivenUp index board relay device result v := by
  have hmem := hout.mem_handlesOn
  obtain ⟨board, hboard⟩ := h.exists_board hmem
  have hagrees : ∀ request, board.request? relay.handle = some request →
      request = ⟨relay.direction, target⟩ :=
    fun _ => h.request?_eq_of_handedOut hout hbound hboard
  have hplace := hout.line?_leave h.linked
  refine ⟨board, hboard, hagrees, hplace, ?_⟩
  intro o host device hstate hstep hhost hthere reply w hperform
  have hline : o.before.state.line? number = some ⟨index, relay, true⟩ := by
    rw [hstate] at hthere ⊢
    rcases hplace with hnone | hsome
    · rw [hnone] at hthere
      cases hthere
    · exact hsome
  have hboard' : o.before.state.board? index = some board := by rw [hstate, hboard]
  obtain ⟨begun, hbegun, -⟩ := begun?_of_perform_ok hperform
  constructor
  · exact delivered_of_perform_ok hstep hhost hline hboard'
      (h.isValid_of_mem_handlesOn hbound hmem) hagrees hperform
  · exact exists_notesGivenUp hstep hhost hline hboard' hbegun

theorem relay_of_firstRequest_agrees :
    let opened : Occurrence :=
      ⟨⟨0, .deliver 0 (some "synth")⟩, ⟨leave {} [firstRequest], {}⟩⟩
    let failed : Occurrence := ⟨⟨0, .deliver 0 none⟩, ⟨leave {} [firstRequest], {}⟩⟩
    perform opened.step opened.before = .ok (.opened (.ok ())) opened.after ∧
      perform failed.step failed.before =
        .ok (.opened (.error (.notOpened (.nth 1) .output))) failed.after ∧
      ∃ board, (leave {} [firstRequest]).board? 0 = some board ∧
        opened.Delivered opened.after 0 board ⟨.nth 1, .output⟩ (.mk "idle" [] none)
          (some "synth") (.opened (.ok ())) ∧
        ∃ result v, failed.NotesGivenUp 0 board ⟨.nth 1, .output⟩ none result v := by
  intro opened failed
  have hout : HandedOut [firstRequest] 0 0 ⟨.nth 1, .output⟩ (.mk "idle" [] none) :=
    ⟨firstRequest, List.mem_singleton_self _, rfl, rfl⟩
  have hopened : opened.begun? = some ⟨.opened (.ok ()),
      some ⟨0, ⟨.nth 1, .output, "synth", .mk "idle" [] none⟩⟩⟩ := rfl
  have hfailed : failed.begun? =
      some ⟨.opened (.error (.notOpened (.nth 1) .output)), none⟩ := rfl
  have hopened := perform_of_tasks_eq_nil hopened rfl
  have hfailed := perform_of_tasks_eq_nil hfailed rfl
  obtain ⟨board, hboard, -, -, hdeliver⟩ :=
    relay_agrees_with_board moment_firstRequest hout (by decide)
  refine ⟨hopened, hfailed, board, hboard, ?_, ?_⟩
  · exact (hdeliver opened 0 _ rfl rfl rfl rfl _ _ hopened).1
  · exact (hdeliver failed 0 _ rfl rfl rfl rfl _ _ hfailed).2

end Occurrence

end MidiConsole
