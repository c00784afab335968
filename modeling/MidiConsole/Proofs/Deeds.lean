import MidiConsole.Proofs.Ledger
import MidiConsole.Proofs.Occurrence

namespace MidiConsole

open Journaled

/-- A notice that a step logs last when it has done something to a board. -/
def Notice.tellsOfDeed : Notice → Bool
  | .preparing .. | .cancelled .. | .dispatching .. => true
  | _ => false

namespace Occurrence

def line? (o : Occurrence) (index : Nat) : Option Line :=
  o.before.state.line? index

def board (o : Occurrence) : Nat :=
  match o.step.command with
  | .deliver index _ => ((o.line? index).map Line.board).getD o.step.board
  | _ => o.step.board

/-- The deed of a step, read off the last notice that it has logged. -/
def deed? (o : Occurrence) : Option (Deed Target) :=
  match o.notices.getLast? with
  | some (.preparing direction handle) =>
      match o.begun?, o.step.command with
      | some _, .prepare _ target => some (.inserted handle ⟨direction, target⟩)
      | _, _ => some (.burnt handle)
  | some (.cancelled handle) => some (.cancelled handle)
  | some (.dispatching _ handle) =>
      match o.dispatch? with
      | some dispatch => some (.connected dispatch.connection)
      | none => some (.lost handle)
  | _ => none

theorem deed?_eq_none {o : Occurrence}
    (h : ∀ notice, o.notices.getLast? = some notice → notice.tellsOfDeed = false) :
    o.deed? = none := by
  unfold deed?
  split
  · next hlast => exact absurd (h _ hlast) (by simp [Notice.tellsOfDeed])
  · next hlast => exact absurd (h _ hlast) (by simp [Notice.tellsOfDeed])
  · next hlast => exact absurd (h _ hlast) (by simp [Notice.tellsOfDeed])
  · rfl

def deedsOn (index : Nat) (os : List Occurrence) : List (Deed Target) :=
  os.filterMap fun o => if o.board = index then o.deed? else none

def preparesOn (index : Nat) (o : Occurrence) : Bool :=
  match o.step.command with
  | .prepare _ _ => o.step.board = index && (o.before.state.board? index).isSome
  | _ => false

/-- The number of new requests that a board has been asked for. -/
def preparations (index : Nat) (os : List Occurrence) : Nat :=
  os.countP (preparesOn index)

/-- The device that a step brings to a board, and the relay that it comes for. -/
def delivery? (o : Occurrence) : Option (Device × Relay) :=
  match o.step.command with
  | .connect relay device => some (device, relay)
  | .deliver index (some device) => (o.line? index).map fun line => (device, line.relay)
  | _ => none

/-- The handle that a step gives up, directly or because no device could be
opened for it. -/
def givenUp? (o : Occurrence) : Option Handle :=
  match o.step.command with
  | .cancel handle => some handle
  | .cancelLine index => (o.line? index).map fun line => line.relay.handle
  | .deliver index none =>
      (o.line? index).bind fun line =>
        if line.cancelsOnFailure then some line.relay.handle else none
  | _ => none

/-- What a step must be to do a deed. -/
def Does (o : Occurrence) : Deed Target → Prop
  | .burnt _ => (∃ direction target, o.step.command = .prepare direction target) ∧ o.LogFailed
  | .inserted handle request =>
      o.step.command = .prepare request.direction request.target ∧
        ∃ index, o.begun? = some ⟨.prepared index ⟨handle, request.direction⟩, none⟩
  | .connected connection =>
      o.delivery? = some (connection.device, ⟨connection.handle, connection.direction⟩) ∧
        o.dispatch? = some ⟨o.board, connection⟩
  | .cancelled handle => o.givenUp? = some handle
  | .lost handle =>
      (∃ device direction, o.delivery? = some (device, ⟨handle, direction⟩)) ∧ o.LogFailed

open Exchange

variable {o : Occurrence} {index : Nat} {board : Switchboard Target}

/-- What the steps that do nothing to any board have in common. -/
structure Quiet (o : Occurrence) : Prop where
  deed_eq : o.deed? = none
  dispatch_eq : o.dispatch? = none
  prepares_eq : ∀ index, o.preparesOn index = false
  boards_eq : o.after.state.boards = o.before.state.boards ∨
    o.after.state.boards = o.before.state.boards ++ [({} : Switchboard Target)]

structure Acts (o : Occurrence) (board : Switchboard Target) (deed : Deed Target) : Prop where
  board_eq : o.before.state.board? o.board = some board
  deed_eq : o.deed? = some deed
  fits : deed.Fits board
  does : o.Does deed
  dispatch_eq : o.dispatch? = deed.connection?.map fun connection => ⟨o.board, connection⟩
  prepares_eq : ∀ index, o.preparesOn index = (o.board = index && deed.handedOut?.isSome)
  boards_eq : o.after.state.boards = o.before.state.boards.set o.board (deed.apply board)

theorem Comes.quiet {begun : Option (Begun Target)} {logged : List Notice}
    {exchange : Exchange Target} (h : o.Comes begun logged exchange)
    (hlast : ∀ notice, logged.getLast? = some notice → notice.tellsOfDeed = false)
    (hdispatch : begun.bind Begun.dispatch = none)
    (hprepares : ∀ index, o.preparesOn index = false)
    (hboards : exchange.boards = o.before.state.boards ∨
      exchange.boards = o.before.state.boards ++ [({} : Switchboard Target)]) : o.Quiet where
  deed_eq := deed?_eq_none (by rwa [h.notices_eq])
  dispatch_eq := h.dispatch_eq.trans hdispatch
  prepares_eq := hprepares
  boards_eq := by
    rw [h.state_eq]
    exact hboards

theorem Comes.quiet_of_failed {earlier : List Notice} {notice : Notice} {s : Exchange Target}
    (h : o.Comes none (earlier ++ [notice]) s) (htells : notice.tellsOfDeed = false)
    (hboards : s.boards = o.before.state.boards)
    (hprepares : ∀ index, o.preparesOn index = false) : o.Quiet := by
  refine h.quiet (fun other hlast => ?_) rfl hprepares (Or.inl hboards)
  rw [List.getLast?_concat] at hlast
  exact Option.some.inj hlast ▸ htells

theorem quiet_of_course
    (hrecords : ∀ record ∈ o.course.records,
      record.1.tellsOfDeed = false ∧ record.2.boards = o.before.state.boards)
    (hdispatch : o.course.value.dispatch = none)
    (hprepares : ∀ index, o.preparesOn index = false)
    (hboards : o.course.final.boards = o.before.state.boards ∨
      o.course.final.boards = o.before.state.boards ++ [({} : Switchboard Target)]) :
    o.Quiet := by
  rcases o.comes with hcomes | ⟨earlier, notice, s, hstops, -, hcomes⟩
  · refine hcomes.quiet (fun notice hlast => ?_) hdispatch hprepares hboards
    obtain ⟨record, hmem, rfl⟩ := List.mem_map.mp (List.mem_of_getLast? hlast)
    exact (hrecords record hmem).1
  · obtain ⟨htells, hsame⟩ := hrecords _ hstops.last_mem
    exact hcomes.quiet_of_failed htells hsame hprepares

theorem quiet_of_quietCourse {reply : Reply} {s : Exchange Target}
    (hcourse : o.course = quietCourse reply s) (hprepares : ∀ index, o.preparesOn index = false)
    (hboards : s.boards = o.before.state.boards) : o.Quiet := by
  apply quiet_of_course
  · rw [hcourse]
    exact List.forall_mem_nil _
  · rw [hcourse]
    rfl
  · exact hprepares
  · rw [hcourse]
    exact Or.inl hboards

theorem acts_of_prepare {direction : Direction} {target : Target}
    (hstep : o.step = ⟨index, .prepare direction target⟩)
    (hboard : o.before.state.board? index = some board) :
    ∃ deed, o.Acts board deed := by
  have hindex : o.board = index := by simp [Occurrence.board, hstep]
  have hprepares : ∀ other, o.preparesOn other = (o.board = other && true) := by
    intro other
    by_cases h : index = other
    · subst h
      simp [preparesOn, hstep, hindex, hboard]
    · simp [preparesOn, hstep, hindex, h]
  have hcourse : o.course = courseOn index board o.before.state (.prepare direction target) := by
    simp only [course, Exchange.course, hstep, hboard]
  rcases o.comes with h | ⟨earlier, notice, s, hstops, -, h⟩
  · rw [hcourse] at h
    exact ⟨.inserted board.next ⟨direction, target⟩,
      { board_eq := by rw [hindex, hboard]
        deed_eq := by simp [deed?, h.notices_eq, h.begun_eq, hstep, courseOn, Course.notices]
        fits := rfl
        does := ⟨by rw [hstep], _, h.begun_eq⟩
        dispatch_eq := h.dispatch_eq
        prepares_eq := hprepares
        boards_eq := by rw [h.state_eq, hindex]; rfl }⟩
  · have hlast := hstops.last_mem
    rw [hcourse] at hlast
    obtain ⟨rfl, rfl⟩ := Prod.mk.inj (List.mem_singleton.mp hlast)
    exact ⟨.burnt board.next,
      { board_eq := by rw [hindex, hboard]
        deed_eq := by simp [deed?, h.notices_eq, h.begun_eq]
        fits := rfl
        does := ⟨⟨direction, target, by rw [hstep]⟩, h.logFailed rfl⟩
        dispatch_eq := h.dispatch_eq
        prepares_eq := hprepares
        boards_eq := by rw [h.state_eq, hindex]; rfl }⟩

section

variable {earlier : List (Notice × Exchange Target)} {handle : Handle}
  (hindex : o.board = index) (hprepares : ∀ other, o.preparesOn other = false)
  (hboard : o.before.state.board? index = some board)
  (hearlier : ∀ record ∈ earlier,
    record.1.tellsOfDeed = false ∧ record.2 = o.before.state)

include hindex hprepares hboard hearlier

theorem acts_or_quiet_of_cancel (hgiven : o.givenUp? = some handle)
    (hrecords : o.course.records = earlier ++
      ((board.cancelCourse handle).lift fun board => o.before.state.setBoard index board).records)
    (hdispatch : o.course.value.dispatch = none)
    (hfinal : o.course.final =
      o.before.state.setBoard index (board.cancelCourse handle).final) :
    o.Quiet ∨ ∃ board deed, o.Acts board deed := by
  cases hpending : board.isPending handle with
  | false =>
      have hnone : board.request? handle = none := by
        simpa [Switchboard.isPending] using hpending
      rw [Switchboard.cancelCourse_of_request?_eq_none hnone] at hrecords hfinal
      rw [setBoard_self hboard] at hfinal
      refine Or.inl (quiet_of_course (fun record hmem => ?_) hdispatch hprepares ?_)
      · obtain ⟨htells, hsame⟩ := hearlier record (by simpa [hrecords, Course.lift] using hmem)
        exact ⟨htells, by rw [hsame]⟩
      · exact Or.inl (by rw [hfinal])
  | true =>
      rw [Switchboard.cancelCourse, if_pos hpending] at hrecords hfinal
      have hacts : o.notices.getLast? = some (.cancelled handle) → o.dispatch? = none →
          o.after.state = o.before.state.setBoard index (board.erase handle) →
          o.Acts board (.cancelled handle) := fun hlast hnone hstate =>
        { board_eq := by rw [hindex, hboard]
          deed_eq := by simp [deed?, hlast]
          fits := hpending
          does := hgiven
          dispatch_eq := hnone
          prepares_eq := fun other => by simp [hprepares, Deed.handedOut?]
          boards_eq := by rw [hstate, hindex]; rfl }
      rcases o.comes with h | ⟨before, notice, s, hstops, -, h⟩
      · refine Or.inr ⟨board, _, hacts ?_ (h.dispatch_eq.trans hdispatch) ?_⟩
        · simp [h.notices_eq, Course.notices, hrecords, Course.lift]
        · rw [h.state_eq, hfinal]
      · have hlast := hstops.last_mem
        rw [hrecords] at hlast
        rcases List.mem_append.mp hlast with hmem | hmem
        · obtain ⟨htells, hsame⟩ := hearlier _ hmem
          exact Or.inl (h.quiet_of_failed htells (congrArg boards hsame) hprepares)
        · obtain ⟨rfl, rfl⟩ := Prod.mk.inj (List.mem_singleton.mp hmem)
          refine Or.inr ⟨board, _, hacts ?_ h.dispatch_eq h.state_eq⟩
          rw [h.notices_eq, List.getLast?_concat]

theorem acts_or_quiet_of_claim {device : Device} {direction : Direction}
    (hdelivery : o.delivery? = some (device, ⟨handle, direction⟩))
    (hrecords : o.course.records = earlier ++
      ((board.claimCourse device handle direction).lift fun board =>
        o.before.state.setBoard index board).records)
    (hvalue : o.course.value = settle index (board.claimCourse device handle direction).value)
    (hfinal : o.course.final =
      o.before.state.setBoard index (board.claimCourse device handle direction).final) :
    o.Quiet ∨ ∃ board deed, o.Acts board deed := by
  cases hresolve : board.resolve handle direction with
  | error error =>
      simp only [Switchboard.claimCourse, hresolve] at hrecords hvalue hfinal
      rw [setBoard_self hboard] at hfinal
      have htells : (error.notice direction).tellsOfDeed = false := by cases error <;> rfl
      refine Or.inl (quiet_of_course (fun record hmem => ?_) ?_ hprepares ?_)
      · rw [hrecords] at hmem
        rcases List.mem_append.mp hmem with hmem | hmem
        · obtain ⟨htells, hsame⟩ := hearlier record hmem
          exact ⟨htells, by rw [hsame]⟩
        · obtain rfl := List.mem_singleton.mp hmem
          exact ⟨htells, congrArg boards (setBoard_self hboard)⟩
      · rw [hvalue]
        rfl
      · exact Or.inl (by rw [hfinal])
  | ok request =>
      simp only [Switchboard.claimCourse, hresolve] at hrecords hvalue hfinal
      obtain ⟨hvalid, hwaits, rfl⟩ := Switchboard.resolve_eq_ok_iff.mp hresolve
      rcases o.comes with h | ⟨before, notice, s, hstops, -, h⟩
      · have hdispatch := h.dispatch_eq
        rw [hvalue] at hdispatch
        have hlast : o.notices.getLast? = some (.dispatching request.direction handle) := by
          simp [h.notices_eq, Course.notices, hrecords, Course.lift]
        exact Or.inr ⟨board, .connected ⟨handle, request.direction, device, request.target⟩,
          { board_eq := by rw [hindex, hboard]
            deed_eq := by simp [deed?, hlast, hdispatch, settle]
            fits := ⟨hvalid, hwaits⟩
            does := ⟨hdelivery, by rw [hdispatch, hindex]; rfl⟩
            dispatch_eq := by rw [hdispatch, hindex]; rfl
            prepares_eq := fun other => by simp [hprepares, Deed.handedOut?]
            boards_eq := by rw [h.state_eq, hfinal, hindex]; rfl }⟩
      · have hlast := hstops.last_mem
        rw [hrecords] at hlast
        rcases List.mem_append.mp hlast with hmem | hmem
        · obtain ⟨htells, hsame⟩ := hearlier _ hmem
          exact Or.inl (h.quiet_of_failed htells (congrArg boards hsame) hprepares)
        · obtain ⟨rfl, rfl⟩ := Prod.mk.inj (List.mem_singleton.mp hmem)
          exact Or.inr ⟨board, .lost handle,
            { board_eq := by rw [hindex, hboard]
              deed_eq := by simp [deed?, h.notices_eq, h.dispatch_eq]
              fits := Option.isSome_of_eq_some hwaits
              does := ⟨⟨device, request.direction, hdelivery⟩, h.logFailed rfl⟩
              dispatch_eq := h.dispatch_eq
              prepares_eq := fun other => by simp [hprepares, Deed.handedOut?]
              boards_eq := by rw [h.state_eq, hindex]; rfl }⟩

end

theorem acts_or_quiet_of_deliver {number : Nat} {line : Line} {device : Option Device}
    (hstep : o.step = ⟨index, .deliver number device⟩)
    (hline : o.before.state.line? number = some line)
    (hcourse : o.course = deliverCourse line device o.before.state) :
    o.Quiet ∨ ∃ board deed, o.Acts board deed := by
  have hindex : o.board = line.board := by
    simp [Occurrence.board, hstep, Occurrence.line?, hline]
  have hprepares : ∀ other, o.preparesOn other = false := by simp [preparesOn, hstep]
  rw [deliverCourse] at hcourse
  cases hboard : o.before.state.board? line.board with
  | none =>
      rw [hboard] at hcourse
      exact Or.inl (quiet_of_quietCourse hcourse hprepares rfl)
  | some board =>
      simp only [hboard] at hcourse
      have hself := setBoard_self hboard
      cases device with
      | some device =>
          have hdelivery : o.delivery? = some (device, line.relay) := by
            simp [delivery?, hstep, Occurrence.line?, hline]
          have hquiet : ∀ record ∈ [(Notice.opened line.relay.direction line.relay.handle,
              o.before.state.setBoard line.board board)],
              record.1.tellsOfDeed = false ∧ record.2 = o.before.state :=
            List.forall_mem_singleton.mpr ⟨rfl, hself⟩
          exact acts_or_quiet_of_claim hindex hprepares hboard hquiet hdelivery
            (by rw [hcourse]; rfl) (by rw [hcourse]; rfl) (by rw [hcourse]; rfl)
      | none =>
          have hquiet : ∀ record ∈ [(Notice.openFailed line.relay.direction line.relay.handle,
              o.before.state.setBoard line.board board)],
              record.1.tellsOfDeed = false ∧ record.2 = o.before.state :=
            List.forall_mem_singleton.mpr ⟨rfl, hself⟩
          cases hcancels : line.cancelsOnFailure with
          | true =>
              have hgiven : o.givenUp? = some line.relay.handle := by
                simp [givenUp?, hstep, Occurrence.line?, hline, hcancels]
              simp only [Line.deliverCourse, hcancels, if_true] at hcourse
              exact acts_or_quiet_of_cancel hindex hprepares hboard hquiet hgiven
                (by rw [hcourse]; rfl) (by rw [hcourse]; rfl) (by rw [hcourse]; rfl)
          | false =>
              simp only [Line.deliverCourse, hcancels, Bool.false_eq_true, if_false] at hcourse
              refine Or.inl (quiet_of_course (fun record hmem => ?_) ?_ hprepares (Or.inl ?_))
              · rw [hcourse] at hmem
                obtain ⟨htells, hsame⟩ := hquiet record hmem
                exact ⟨htells, by rw [hsame]⟩
              · rw [hcourse]
                rfl
              · rw [hcourse]
                exact congrArg boards hself

theorem preparesOn_of_board?_eq_none (hboard : o.before.state.board? o.step.board = none)
    (other : Nat) : o.preparesOn other = false := by
  unfold preparesOn
  split
  · by_cases h : o.step.board = other
    · subst h
      simp [hboard]
    · simp [h]
  · rfl

/-- A step does nothing to any board, or it does a deed to its own. -/
theorem acts_or_quiet (o : Occurrence) : o.Quiet ∨ ∃ board deed, o.Acts board deed := by
  obtain ⟨⟨index, command⟩, before⟩ := o
  generalize ho : Occurrence.mk ⟨index, command⟩ before = o
  have hstep : o.step = ⟨index, command⟩ := by rw [← ho]
  have hcourse : o.course = Exchange.course ⟨index, command⟩ o.before.state := by
    rw [course, hstep]
  rw [Exchange.course] at hcourse
  have hquiet : ∀ {reply s}, o.course = quietCourse reply s →
      (∀ other, o.preparesOn other = false) → s.boards = o.before.state.boards →
      o.Quiet ∨ ∃ board deed, o.Acts board deed :=
    fun hcourse hprepares hboards => Or.inl (quiet_of_quietCourse hcourse hprepares hboards)
  have hnone : ∀ record ∈ ([] : List (Notice × Exchange Target)),
      record.1.tellsOfDeed = false ∧ record.2 = o.before.state := List.forall_mem_nil _
  cases hboard : o.before.state.board? index with
  | none =>
      simp only [hboard] at hcourse
      exact hquiet hcourse (preparesOn_of_board?_eq_none (by rw [hstep]; exact hboard)) rfl
  | some board =>
      simp only [hboard] at hcourse
      cases command with
      | addBoard =>
          refine Or.inl (quiet_of_course ?_ ?_ (by simp [preparesOn, hstep]) (Or.inr ?_))
          all_goals rw [hcourse]
          · exact List.forall_mem_nil _
          · rfl
          · rfl
      | prepare direction target => exact Or.inr ⟨board, acts_of_prepare hstep hboard⟩
      | connect relay device =>
          have hdelivery : o.delivery? = some (device, relay) := by simp [delivery?, hstep]
          exact acts_or_quiet_of_claim (by simp [Occurrence.board, hstep])
            (by simp [preparesOn, hstep]) hboard hnone hdelivery
            (by rw [hcourse]; rfl) (by rw [hcourse]; rfl) (by rw [hcourse]; rfl)
      | cancel handle =>
          have hgiven : o.givenUp? = some handle := by simp [givenUp?, hstep]
          exact acts_or_quiet_of_cancel (by simp [Occurrence.board, hstep])
            (by simp [preparesOn, hstep]) hboard hnone hgiven
            (by rw [hcourse]; rfl) (by rw [hcourse]; rfl) (by rw [hcourse]; rfl)
      | deliver number device =>
          rw [courseOn, withLineCourse] at hcourse
          split at hcourse
          · exact hquiet hcourse (by simp [preparesOn, hstep]) rfl
          · next line hline => exact acts_or_quiet_of_deliver hstep hline hcourse
      | cancelLine number =>
          rw [courseOn, withLineCourse] at hcourse
          split at hcourse
          · exact hquiet hcourse (by simp [preparesOn, hstep]) rfl
          · next line hline =>
              have hgiven : o.givenUp? = some line.relay.handle := by
                simp [givenUp?, hstep, Occurrence.line?, hline]
              exact acts_or_quiet_of_cancel (by simp [Occurrence.board, hstep])
                (by simp [preparesOn, hstep]) hboard hnone hgiven
                (by rw [hcourse]; rfl) (by rw [hcourse]; rfl) (by rw [hcourse]; rfl)
      | addLine relay | count | inspect spread =>
          exact hquiet hcourse (by simp [preparesOn, hstep]) rfl
      | describeLine number | dropLine number =>
          rw [courseOn, withLineCourse] at hcourse
          split at hcourse <;> exact hquiet hcourse (by simp [preparesOn, hstep]) rfl
      | inspectLine number =>
          rw [courseOn, withLineCourse] at hcourse
          split at hcourse
          · exact hquiet hcourse (by simp [preparesOn, hstep]) rfl
          · split at hcourse <;> exact hquiet hcourse (by simp [preparesOn, hstep]) rfl
      | cloneLine number =>
          rw [courseOn, withLineCourse] at hcourse
          split at hcourse
          · exact hquiet hcourse (by simp [preparesOn, hstep]) rfl
          · split at hcourse <;> exact hquiet hcourse (by simp [preparesOn, hstep]) rfl

theorem exists_acts_of_preparesOn (h : o.preparesOn index) :
    ∃ board deed, o.Acts board deed := by
  rcases o.acts_or_quiet with hquiet | hacts
  · rw [hquiet.prepares_eq] at h
    cases h
  · exact hacts

end Occurrence

end MidiConsole
