import MidiConsole.Proofs.Accounts
import MidiConsole.Proofs.Sameness
import MidiConsole.Proofs.StepCourse

/-!
Requests do not interfere. When the steps for all handles but one are left out of a run,
the steps that remain come to the same. This is for runs of a host alone: the targets
carry out nothing, though they may fail, and no step looks at all requests at once.
-/

namespace MidiConsole

open Journaled Exchange

variable {handles : Set Handle}

namespace Switchboard.SameOn

variable {τ : Type} {board board' : Switchboard τ} (h : board.SameOn handles board')
  {handle : Handle} (hnot : handle ∉ handles)

include h hnot

theorem keeps_cancelCourse :
    (board.cancelCourse handle).Keeps fun board => board.SameOn handles board' := by
  have herase := h.erase_left hnot
  rw [cancelCourse]
  split
  · exact ⟨List.forall_mem_singleton.mpr herase, herase⟩
  · exact ⟨List.forall_mem_nil _, h⟩

theorem keeps_claimCourse (device : Device) (direction : Direction) :
    (board.claimCourse device handle direction).Keeps fun board => board.SameOn handles board' := by
  have herase := h.erase_left hnot
  rw [claimCourse]
  split
  · exact ⟨List.forall_mem_singleton.mpr h, h⟩
  · exact ⟨List.forall_mem_singleton.mpr herase, herase⟩

end Switchboard.SameOn

theorem Line.keeps_deliverCourse {τ : Type} {board board' : Switchboard τ}
    (h : board.SameOn handles board') (line : Line) (hnot : line.relay.handle ∉ handles)
    (device : Option Device) :
    (line.deliverCourse board device).Keeps fun board => board.SameOn handles board' := by
  cases device with
  | some device =>
      obtain ⟨hrecords, hfinal⟩ := h.keeps_claimCourse hnot device line.relay.direction
      exact ⟨List.forall_mem_cons.mpr ⟨h, hrecords⟩, hfinal⟩
  | none =>
      rw [deliverCourse]
      split
      · obtain ⟨hrecords, hfinal⟩ := h.keeps_cancelCourse hnot
        exact ⟨List.forall_mem_cons.mpr ⟨h, hrecords⟩, hfinal⟩
      · exact ⟨List.forall_mem_singleton.mpr h, h⟩

namespace Exchange

variable {τ : Type} {s s' : Exchange τ}

theorem SameOn.keeps_lift {α : Type} {index : Nat} {board' : Switchboard τ}
    (h : s.SameOn handles s') (hboard' : s'.board? index = some board')
    {course : Course (Switchboard τ) α}
    (hcourse : course.Keeps fun board => board.SameOn handles board') :
    (course.lift fun board => s.setBoard index board).Keeps fun t => t.SameOn handles s' := by
  refine hcourse.lift fun board hboard => ?_
  have hset := h.setBoard hboard index
  rwa [setBoard_self hboard'] at hset

theorem SameOn.keeps_course (h : s.SameOn handles s') {step : Step τ} {handle : Handle}
    (hsubject : s.subject? step.command = some handle) (hnot : handle ∉ handles) :
    (course step s).Keeps fun t => t.SameOn handles s' := by
  obtain ⟨index, command⟩ := step
  have hquiet : (quietCourse .noBoard s).Keeps fun t => t.SameOn handles s' :=
    keeps_quietCourse (P := fun t => t.SameOn handles s') h .noBoard
  rw [course]
  rcases h.board?_cases index with ⟨hnone, -⟩ | ⟨board, board', hboard, hboard', hsame⟩
  · rw [hnone]
    exact hquiet
  rw [hboard]
  cases command with
  | connect relay device =>
      obtain rfl := Option.some.inj hsubject
      exact (h.keeps_lift hboard' (hsame.keeps_claimCourse hnot device relay.direction)).map _
  | cancel other =>
      obtain rfl := Option.some.inj hsubject
      exact (h.keeps_lift hboard' (hsame.keeps_cancelCourse hnot)).map _
  | deliver number device =>
      obtain ⟨line, hline, rfl⟩ := Option.map_eq_some_iff.mp hsubject
      simp only [courseOn, withLineCourse, hline, deliverCourse]
      rcases h.board?_cases line.board with ⟨hnone, -⟩ | ⟨board, board', hboard, hboard', hsame⟩
      · rw [hnone]
        exact hquiet
      · rw [hboard]
        exact (h.keeps_lift hboard' (line.keeps_deliverCourse hsame hnot device)).map _
  | cancelLine number =>
      obtain ⟨line, hline, rfl⟩ := Option.map_eq_some_iff.mp hsubject
      simp only [courseOn, withLineCourse, hline]
      exact (h.keeps_lift hboard' (hsame.keeps_cancelCourse hnot)).map _
  | addBoard | prepare direction target | addLine relay | count | inspect spread
  | describeLine number | inspectLine number | cloneLine number | dropLine number =>
      cases hsubject

end Exchange

/-- No target that waits on a board carries out anything. -/
def Switchboard.Idle (board : Switchboard Target) : Prop :=
  ∀ handle request, board.request? handle = some request → request.target.script = []

namespace Switchboard.Idle

variable {board : Switchboard Target}

theorem erase (h : board.Idle) (erased : Handle) : (board.erase erased).Idle := by
  intro handle request hwaits
  by_cases heq : handle = erased
  · rw [heq, request?_erase_self] at hwaits
    cases hwaits
  · rw [request?_erase_of_ne heq] at hwaits
    exact h handle request hwaits

theorem insert (h : board.Idle) (inserted : Handle) {request : Request Target}
    (hscript : request.target.script = []) : (board.insert inserted request).Idle := by
  intro handle found hwaits
  by_cases heq : handle = inserted
  · rw [heq, request?_insert_self] at hwaits
    obtain rfl := Option.some.inj hwaits
    exact hscript
  · rw [request?_insert_of_ne heq] at hwaits
    exact h handle found hwaits

end Switchboard.Idle

/-- A step of a host whose targets carry out nothing. It does not look at all requests
at once. -/
def Step.isPlain (step : Step Target) : Bool :=
  match step.command with
  | .prepare _ target => target.script.isEmpty
  | command => !command.counts

theorem Step.counts_of_isPlain {step : Step Target} (h : step.isPlain) :
    step.command.counts = false := by
  rw [isPlain] at h
  split at h
  · next hprepare =>
      rw [hprepare]
      rfl
  · simpa using h

theorem Step.script_of_isPlain {step : Step Target} (h : step.isPlain) {direction : Direction}
    {target : Target} (hprepare : step.command = .prepare direction target) :
    target.script = [] := by
  rw [isPlain, hprepare] at h
  exact List.isEmpty_iff.mp h

def Task.Raises (task : Task) : Prop :=
  ∃ text, task = .raise text

namespace Exchange

def Idle (s : Exchange Target) : Prop :=
  ∀ board ∈ s.boards, board.Idle

theorem agree_drain_of_raises {s s' : Exchange Target} (h : s.SameOn handles s')
    {tasks : List Task} (htasks : ∀ task ∈ tasks, task.Raises) :
    Agree (SameOn handles) s s' (drain tasks) (drain tasks) := by
  intro journal
  cases tasks with
  | nil =>
      rw [drain_nil, drain_nil]
      exact .ok () journal h
  | cons task tasks =>
      obtain ⟨text, rfl⟩ := htasks task List.mem_cons_self
      rw [drain_cons, drain_cons]
      exact .error (.raised text) journal h

theorem occurrences_of_raises {tasks : List Task} (htasks : ∀ task ∈ tasks, task.Raises)
    (w : World Note (Exchange Target)) : occurrences tasks w = [] := by
  cases tasks with
  | nil => exact occurrences_nil w
  | cons task tasks =>
      obtain ⟨text, rfl⟩ := htasks task List.mem_cons_self
      exact occurrences_cons_of_error rfl tasks

end Exchange

namespace Occurrence

variable {o : Occurrence}

theorem idle_after (h : o.before.state.Idle) (hplain : o.step.isPlain) : o.after.state.Idle := by
  intro board hmem
  rcases o.acts_or_quiet with hquiet | ⟨found, deed, hacts⟩
  · rcases hquiet.boards_eq with hboards | hboards
    · exact h board (hboards ▸ hmem)
    · rw [hboards] at hmem
      rcases List.mem_append.mp hmem with hmem | hmem
      · exact h board hmem
      · obtain rfl := List.mem_singleton.mp hmem
        intro handle request hwaits
        cases hwaits
  · rw [hacts.boards_eq] at hmem
    have hfound : found.Idle := h found (List.mem_of_getElem? hacts.board_eq)
    rcases List.mem_or_eq_of_mem_set hmem with hmem | rfl
    · exact h board hmem
    · have hdoes := hacts.does
      cases deed with
      | burnt handle => exact hfound
      | inserted handle request =>
          exact Switchboard.Idle.insert hfound handle (Step.script_of_isPlain hplain hdoes.1)
      | connected connection => exact hfound.erase connection.handle
      | cancelled handle => exact hfound.erase handle
      | lost handle => exact hfound.erase handle

theorem raises_of_mem_tasks (h : o.before.state.Idle) {begun : Begun Target}
    (hbegun : o.begun? = some begun) : ∀ task ∈ begun.tasks, task.Raises := by
  have hdispatch : o.dispatch? = begun.dispatch := by rw [dispatch?, hbegun]; rfl
  rw [Begun.tasks]
  cases hconnected : begun.dispatch with
  | none => exact List.forall_mem_nil _
  | some dispatch =>
      rw [hconnected] at hdispatch
      rcases o.acts_or_quiet with hquiet | ⟨board, deed, hacts⟩
      · rw [hquiet.dispatch_eq] at hdispatch
        cases hdispatch
      · rw [hacts.dispatch_eq] at hdispatch
        obtain ⟨connection, hconnection, rfl⟩ := Option.map_eq_some_iff.mp hdispatch
        obtain rfl := Deed.eq_of_connection? hconnection
        have hidle : connection.target.script = [] :=
          h board (List.mem_of_getElem? hacts.board_eq) _ _ hacts.fits.2
        intro task htask
        simp only [Target.tasks, hidle, List.map_nil, List.nil_append] at htask
        obtain ⟨text, -, rfl⟩ := List.mem_map.mp htask
        exact ⟨text, rfl⟩

theorem state_attempt_of_idle {s : Exchange Target} (h : s.Idle) (step : Step Target)
    (sink : Sink) :
    (attempt (perform step) sink s).state = (Occurrence.mk step ⟨s, { sink }⟩).after.state := by
  generalize ho : Occurrence.mk step ⟨s, { sink }⟩ = o
  have htraces := traces_perform o.step o.before
  have hone : occurrencesOf o.step o.before = [o] := by
    rw [occurrencesOf]
    cases hstart : start o.step o.before with
    | error fault w => rfl
    | ok begun w =>
        have hbegun : o.begun? = some begun := by rw [begun?, hstart]
        have hidle : o.before.state.Idle := by rw [← ho]; exact h
        exact congrArg (o :: ·) (occurrences_of_raises (raises_of_mem_tasks hidle hbegun) w)
  have hleave := htraces.leave_eq
  rw [hone] at hleave
  subst ho
  rw [state_attempt]
  exact hleave.symm

end Occurrence

namespace Exchange

/-- Carrying out a step of a host alone comes to the same on exchanges that are the same
on the handle that it is for. -/
theorem agree_perform_of_idle {s s' : Exchange Target} (h : s.SameOn handles s')
    (hidle : s.Idle) {step : Step Target} (hlooks : s.LooksOnlyAt handles step.command) :
    Agree (SameOn handles) s s' (perform step) (perform step) := by
  refine .bind_of_ok (agree_start h hlooks) fun journal begun w hstart t' h => ?_
  have hbegun : Occurrence.begun? ⟨step, ⟨s, journal⟩⟩ = some begun := by
    rw [Occurrence.begun?, hstart]
  have hraises := Occurrence.raises_of_mem_tasks (o := ⟨step, ⟨s, journal⟩⟩) hidle hbegun
  exact .bind (agree_drain_of_raises h hraises) fun _ _ _ h => .pure h _

/-- Whether a step is for a given handle, or for none. -/
def concerns (handle : Handle) (s : Exchange Target) (command : Command Target) : Bool :=
  match s.subject? command with
  | none => true
  | some other => other = handle

/-- The calls of a run that are for a handle or for none, with their outcomes in the
run. -/
def remaining (handle : Handle) :
    Exchange Target → List (Call (Step Target)) →
      List (Call (Step Target) × Outcome Note (Exchange Target) Reply)
  | _, [] => []
  | s, call :: calls =>
      let outcome := attempt (perform call.command) call.sink s
      let rest := remaining handle outcome.state calls
      if s.concerns handle call.command.command then (call, outcome) :: rest else rest

theorem looksOnlyAt_of_concerns {handle : Handle} {s : Exchange Target} {step : Step Target}
    (hplain : step.isPlain) (h : s.concerns handle step.command) :
    s.LooksOnlyAt {handle} step.command where
  mem_of_subject other hsubject := by
    rw [concerns, hsubject] at h
    have heq : other = handle := of_decide_eq_true h
    exact heq
  eq_univ_of_counts hcounts := by
    rw [Step.counts_of_isPlain hplain] at hcounts
    cases hcounts

theorem sameOn_of_not_concerns {handle : Handle} {s s' : Exchange Target} {step : Step Target}
    (hidle : s.Idle) (h : s.SameOn {handle} s') (hnot : s.concerns handle step.command = false)
    (sink : Sink) : (attempt (perform step) sink s).state.SameOn {handle} s' := by
  rw [Occurrence.state_attempt_of_idle hidle]
  generalize ho : Occurrence.mk step ⟨s, { sink }⟩ = o
  rw [concerns] at hnot
  split at hnot
  · cases hnot
  · next other hsubject =>
      have hne : other ≠ handle := of_decide_eq_false hnot
      have hcourse : o.course = course step s := by rw [← ho]; rfl
      exact Occurrence.state_of_keeps (hcourse ▸ h.keeps_course hsubject hne)

/-- When the calls for all handles but one are left out of a run of a host alone, the
calls that remain come to the same, and in the end the exchanges are the same as far as
that handle goes. -/
theorem same_remaining (handle : Handle) {calls : List (Call (Step Target))}
    (hplain : ∀ call ∈ calls, call.command.isPlain) {s s' : Exchange Target} (hidle : s.Idle)
    (h : s.SameOn {handle} s') :
    List.Forall₂ (SameOutcome (SameOn {handle})) ((remaining handle s calls).map Prod.snd)
        (history perform s' ((remaining handle s calls).map Prod.fst)) ∧
      (leftBy s (history perform s calls)).SameOn {handle}
        (leftBy s' (history perform s' ((remaining handle s calls).map Prod.fst))) := by
  induction calls generalizing s s' with
  | nil => exact ⟨.nil, h⟩
  | cons call calls ih =>
      obtain ⟨hfirst, hrest⟩ := List.forall_mem_cons.mp hplain
      have hidle' : (attempt (perform call.command) call.sink s).state.Idle := by
        rw [Occurrence.state_attempt_of_idle hidle]
        exact Occurrence.idle_after hidle hfirst
      cases hconcerns : s.concerns handle call.command.command with
      | true =>
          have hlooks := looksOnlyAt_of_concerns hfirst hconcerns
          have hsame := (agree_perform_of_idle h hidle hlooks).attempt call.sink
          obtain ⟨hruns, hleft⟩ := ih hrest hidle' hsame.state
          simp only [remaining, hconcerns, if_true]
          exact ⟨.cons hsame hruns, hleft⟩
      | false =>
          have hsame := sameOn_of_not_concerns hidle h hconcerns call.sink
          simp only [remaining, hconcerns, Bool.false_eq_true, if_false]
          exact ih hrest hidle' hsame

theorem idle_empty : Idle {} := by
  intro board hmem
  obtain rfl := List.mem_singleton.mp hmem
  intro handle request hwaits
  cases hwaits

theorem sameOn_empty : SameOn (τ := Target) handles {} {} :=
  ⟨rfl, .cons (.refl List.nodup_nil) .nil⟩

theorem SameOn.request?_eq {s s' : Exchange Target} (h : s.SameOn handles s') {handle : Handle}
    (hmem : handle ∈ handles) (index : Nat) :
    ((s.board? index).bind fun board => board.request? handle) =
      (s'.board? index).bind fun board => board.request? handle := by
  rcases h.board?_cases index with ⟨hnone, hnone'⟩ | ⟨board, board', hboard, hboard', hsame⟩
  · rw [hnone, hnone']
  · rw [hboard, hboard']
    exact hsame.request?_eq handle hmem

/-- Requests do not interfere. When the calls that are for other handles are left out of
a run of a host alone, each call that remains has the same result, and its events are the
same: what is logged, and which targets get a device. In the end the same request waits
under the handle, if any. -/
theorem requests_do_not_interfere {calls : List (Call (Step Target))}
    (hplain : ∀ call ∈ calls, call.command.isPlain) (handle : Handle) :
    let kept := remaining handle {} calls
    let alone := history perform {} (kept.map Prod.fst)
    alone.map Outcome.result = kept.map (fun entry => entry.2.result) ∧
      alone.map Outcome.events = kept.map (fun entry => entry.2.events) ∧
      ∀ index,
        (((leftBy {} alone).board? index).bind fun board => board.request? handle) =
          ((leftBy {} (history perform {} calls)).board? index).bind fun board =>
            board.request? handle := by
  intro kept alone
  obtain ⟨hruns, hleft⟩ := same_remaining handle hplain idle_empty sameOn_empty
  have hresults := results_eq_of_same hruns
  have hevents := events_eq_of_same hruns
  rw [List.map_map] at hresults hevents
  exact ⟨hresults.symm, hevents.symm, fun index => (hleft.request?_eq rfl index).symm⟩

/-- A run in which the target of the first request fails when it gets its device. The
second request is brought a device when the log fails, then one for the other direction,
and at last one that it can use. -/
def twoRequestsRun : List (Call (Step Target)) :=
  [⟨⟨0, .prepare .input (.mk "faulty" [] (some "out of order"))⟩, Sink.sound⟩,
    ⟨⟨0, .prepare .output (.mk "idle" [] none)⟩, Sink.sound⟩,
    ⟨⟨0, .connect ⟨.nth 1, .input⟩ "keys"⟩, Sink.sound⟩,
    ⟨⟨0, .deliver 1 (some "synth")⟩, Sink.failingAt (some .info)⟩,
    ⟨⟨0, .cancel (.nth 1)⟩, Sink.sound⟩,
    ⟨⟨0, .connect ⟨.nth 2, .input⟩ "keys"⟩, Sink.sound⟩,
    ⟨⟨0, .deliver 0 none⟩, Sink.sound⟩,
    ⟨⟨0, .deliver 1 (some "synth")⟩, Sink.sound⟩]

theorem twoRequestsRun_do_not_interfere :
    (∀ call ∈ twoRequestsRun, call.command.isPlain) ∧
      (remaining (.nth 2) {} twoRequestsRun).length = 5 ∧
      (history perform {} ((remaining (.nth 2) {} twoRequestsRun).map Prod.fst)).map
          Outcome.events =
        (remaining (.nth 2) {} twoRequestsRun).map fun entry => entry.2.events := by
  have hplain : ∀ call ∈ twoRequestsRun, call.command.isPlain := by decide
  exact ⟨hplain, by decide +kernel, (requests_do_not_interfere hplain (.nth 2)).2.1⟩

end Exchange

end MidiConsole
