import MidiConsole.Proofs.Conservation
import MidiConsole.Proofs.StepCourse

namespace MidiConsole

open Journaled Exchange

namespace Switchboard

variable {τ : Type}

theorem about_append (handle : Handle) (first second : List (Deed τ)) :
    about handle (first ++ second) = about handle first ++ about handle second :=
  List.filter_append ..

theorem about_ne_nil_of_mem_handedOut {deeds : List (Deed τ)} {handle : Handle}
    (h : handle ∈ handedOut deeds) : about handle deeds ≠ [] := by
  obtain ⟨deed, hdeed, htakes⟩ := List.mem_filterMap.mp h
  have hhandle := Deed.handle_of_handedOut? htakes
  exact List.ne_nil_of_mem (List.mem_filter.mpr ⟨hdeed, decide_eq_true hhandle⟩)

/-- A handle that has been handed out, and under which nothing waits, is not waited
under again, whatever is done to the board. -/
theorem Leads.request?_stays_none {past late : List (Deed τ)} {board board' : Switchboard τ}
    (h : Leads {} past board) (h' : Leads {} (past ++ late) board')
    (hbound : (handedOut (past ++ late)).length < 2 ^ 64) {handle : Handle}
    (hmem : handle ∈ handedOut past) (hnone : board.request? handle = none) :
    board'.request? handle = none := by
  by_contra hsome
  obtain ⟨request, hwaits⟩ := Option.ne_none_iff_exists'.mp hsome
  have hlife := h.life (by rw [handedOut_append, List.length_append] at hbound; omega) handle
  have habout := h'.about_of_request? hbound hwaits
  rw [about_append] at habout
  -- The insertion belongs to the past, so the request would still wait after it.
  rcases List.append_eq_singleton_iff.mp habout with ⟨hnil, -⟩ | ⟨hinserted, -⟩
  · exact about_ne_nil_of_mem_handedOut hmem hnil
  · rw [hinserted, hnone] at hlife
    cases hlife

end Switchboard

namespace Occurrence

/-- A step that leaves the exchange as it is and lets no target have a device: it
returns an answer after some notices, unless its log fails at one of them. -/
structure Inert (o : Occurrence) (reply : Reply) (notices : List Notice) : Prop where
  state_eq : o.after.state = o.before.state
  invoked_eq : invokedIn o.after.journal.events = invokedIn o.before.journal.events
  returns : (o.notices = notices ∧ perform o.step o.before = .ok reply o.after) ∨
    (o.notices <+: notices ∧ o.LogFailed ∧ perform o.step o.before = .error .sink o.after)

theorem inert_of_course {o : Occurrence} {reply : Reply} {notices : List Notice}
    (h : o.course =
      ⟨notices.map fun notice => (notice, o.before.state), ⟨reply, none⟩, o.before.state⟩) :
    o.Inert reply notices := by
  have hnotices : o.course.records.map Prod.fst = notices := by simp [h, Function.comp_def]
  rcases o.comes with hcomes | ⟨earlier, notice, s, hstops, -, hcomes⟩
  · rw [h] at hcomes
    refine ⟨hcomes.state_eq, ?_, Or.inl ⟨?_, ?_⟩⟩
    · rw [o.invokedIn_after, hcomes.dispatch_eq]
      exact List.append_nil _
    · rw [hcomes.notices_eq, ← h]
      exact hnotices
    · exact perform_of_tasks_eq_nil hcomes.begun_eq rfl
  · have hmem := hstops.last_mem
    have hstate : s = o.before.state := by
      rw [h] at hmem
      obtain ⟨_, -, heq⟩ := List.mem_map.mp hmem
      exact (Prod.mk.inj heq).2.symm
    have hfailed := hcomes.logFailed rfl
    refine ⟨hcomes.state_eq.trans hstate, ?_, Or.inr ⟨?_, hfailed, hfailed.perform_eq⟩⟩
    · rw [o.invokedIn_after, hcomes.dispatch_eq]
      exact List.append_nil _
    · rw [hcomes.notices_eq, ← hnotices]
      exact hstops.prefix_notices

/-- The steps that bring a device for a handle of a board, or give the handle up, with
what they answer and log when nothing waits under it. -/
inductive Late (index : Nat) (handle : Handle) (s : Exchange Target) :
    Step Target → Reply → List Notice → Prop
  | connect (direction : Direction) (device : Device) :
      Late index handle s ⟨index, .connect ⟨handle, direction⟩ device⟩
        (.opened (.error (.unknownHandle handle))) [.unknownHandle handle]
  | cancel : Late index handle s ⟨index, .cancel handle⟩ (.flag false) []
  | cancelLine {number : Nat} {line : Line} (hline : s.line? number = some line)
      (hhandle : line.relay.handle = handle) :
      Late index handle s ⟨index, .cancelLine number⟩ (.flag false) []
  | opened {number host : Nat} {line : Line} (hhost : (s.board? host).isSome)
      (hline : s.line? number = some line) (hboard : line.board = index)
      (hhandle : line.relay.handle = handle) (device : Device) :
      Late index handle s ⟨host, .deliver number (some device)⟩
        (.opened (.error (.unknownHandle handle)))
        [.opened line.relay.direction handle, .unknownHandle handle]
  | openFailed {number host : Nat} {line : Line} (hhost : (s.board? host).isSome)
      (hline : s.line? number = some line) (hboard : line.board = index)
      (hhandle : line.relay.handle = handle) :
      Late index handle s ⟨host, .deliver number none⟩
        (.opened (.error (.notOpened handle line.relay.direction)))
        [.openFailed line.relay.direction handle]

theorem Late.inert {o : Occurrence} {index : Nat} {handle : Handle} {reply : Reply}
    {notices : List Notice} {board : Switchboard Target}
    (h : Late index handle o.before.state o.step reply notices)
    (hboard : o.before.state.board? index = some board) (hvalid : handle.isValid)
    (hnone : board.request? handle = none) : o.Inert reply notices := by
  apply inert_of_course
  obtain ⟨step, s, journal⟩ := o
  have hself := setBoard_self hboard
  have hclaim := Switchboard.claimCourse_of_request?_eq_none hvalid hnone
  have hcancel := Switchboard.cancelCourse_of_request?_eq_none hnone
  cases h with
  | connect direction device =>
      simp only [course, Exchange.course, hboard, courseOn, Exchange.claimCourse, hclaim]
      simp [Course.map, Course.lift, settle, hself]
  | cancel =>
      simp only [course, Exchange.course, hboard, courseOn, Exchange.cancelCourse, hcancel]
      simp [Course.map, Course.lift, hself]
  | cancelLine hline hhandle =>
      simp only [course, Exchange.course, hboard, courseOn, withLineCourse, hline, hhandle,
        Exchange.cancelCourse, hcancel]
      simp [Course.map, Course.lift, hself]
  | opened hhost hline hindex hhandle device =>
      obtain ⟨other, hhost⟩ := Option.isSome_iff_exists.mp hhost
      simp only [course, Exchange.course, hhost, courseOn, withLineCourse, hline,
        Exchange.deliverCourse, hindex, hboard, Line.deliverCourse, hhandle, hclaim]
      simp [Course.map, Course.lift, Course.following, settle, hself]
  | openFailed hhost hline hindex hhandle =>
      obtain ⟨other, hhost⟩ := Option.isSome_iff_exists.mp hhost
      simp only [course, Exchange.course, hhost, courseOn, withLineCourse, hline,
        Exchange.deliverCourse, hindex, hboard, Line.deliverCourse, hhandle, hcancel]
      simp [Course.map, Course.lift, Course.following, settle, hself]

/-- A handle that a board has handed out, and under which nothing waits at some
moment, is inert at that moment and for ever after, as long as fewer than `2 ^ 64`
requests are asked for: nothing waits under it, and a step that brings a device for
it, or gives it up, leaves the exchange as it is and lets no target have a device. Such
a step returns what `Late` says, unless its own log fails. -/
theorem resolved_handle_stays_inert {past late : List Occurrence} (h : Moment (past ++ late))
    {index : Nat} (hbound : preparations index (past ++ late) < 2 ^ 64)
    {board : Switchboard Target} (hboard : (leave {} past).board? index = some board)
    {handle : Handle} (hobtained : handle ∈ handlesOn index past)
    (hresolved : board.isPending handle = false) :
    (∃ board', (leave {} (past ++ late)).board? index = some board' ∧
        board'.isPending handle = false) ∧
      (∀ o : Occurrence, o.before.state = leave {} (past ++ late) →
        ∀ reply notices, Late index handle o.before.state o.step reply notices →
          o.Inert reply notices) ∧
      (Notice.unknownHandle handle).level = .warn := by
  have hmem : handle ∈ handlesOn index (past ++ late) := by
    rw [handlesOn_append]
    exact List.mem_append_left _ hobtained
  obtain ⟨board', hboard'⟩ := h.exists_board hmem
  have hnone : board'.request? handle = none := by
    obtain ⟨hleads, -⟩ := h.earlier.leads hboard
    obtain ⟨hleads', hcount⟩ := h.leads hboard'
    rw [hcount, deedsOn_append] at hbound
    rw [deedsOn_append] at hleads'
    rw [handlesOn_eq] at hobtained
    have hpast : board.request? handle = none := by
      simpa [Switchboard.isPending] using hresolved
    exact hleads.request?_stays_none hleads' hbound hobtained hpast
  refine ⟨⟨board', hboard', ?_⟩, ?_, rfl⟩
  · rw [Switchboard.isPending, hnone]
    rfl
  · intro o hstate reply notices hlate
    have hvalid := h.isValid_of_mem_handlesOn hbound hmem
    exact hlate.inert (by rw [hstate, hboard']) hvalid hnone

/-- In the troubled run the first request is connected by the second step. Later the
platform reports to its relay that no device could be opened, and another device is
brought for its handle. -/
theorem firstHandle_of_troubledRun_inert :
    let s := leave {} (chronicle {} troubledRun)
    ((s.board? 0).map fun board => board.isPending (.nth 1)) = some false ∧
      (∀ sink, Inert ⟨⟨0, .deliver 0 none⟩, ⟨s, { sink }⟩⟩
        (.opened (.error (.notOpened (.nth 1) .input))) [.openFailed .input (.nth 1)]) ∧
      ∀ sink, Inert ⟨⟨0, .connect ⟨.nth 1, .output⟩ "late"⟩, ⟨s, { sink }⟩⟩
        (.opened (.error (.unknownHandle (.nth 1)))) [.unknownHandle (.nth 1)] := by
  intro s
  generalize hpast : (chronicle {} troubledRun).take 2 = past
  generalize hlate : (chronicle {} troubledRun).drop 2 = late
  have hrun : past ++ late = chronicle {} troubledRun := by
    rw [← hpast, ← hlate]
    exact List.take_append_drop 2 _
  have hmoment : Moment (past ++ late) := hrun ▸ moment_troubledRun
  have hcount : preparations 0 (past ++ late) = 6 := by
    rw [hrun]
    decide +kernel
  have hresolved : (((leave {} past).board? 0).map fun board => board.isPending (.nth 1)) =
      some false := by
    rw [← hpast]
    decide +kernel
  have hobtained : .nth 1 ∈ handlesOn 0 past := by
    rw [← hpast]
    decide +kernel
  obtain ⟨board, hboard, hnot⟩ := Option.map_eq_some_iff.mp hresolved
  obtain ⟨⟨board', hboard', hnot'⟩, hinert, -⟩ :=
    resolved_handle_stays_inert hmoment (by rw [hcount]; decide) hboard hobtained hnot
  rw [hrun] at hboard' hinert
  have hline : s.line? 0 = some ⟨0, ⟨.nth 1, .input⟩, true⟩ := by decide +kernel
  refine ⟨by rw [hboard', Option.map_some, hnot'], fun sink => ?_, fun sink => ?_⟩
  · exact hinert _ rfl _ _ (.openFailed (Option.isSome_of_eq_some hboard') hline rfl rfl)
  · exact hinert _ rfl _ _ (.connect .output "late")

end Occurrence

end MidiConsole
