import MidiConsole.Proofs.Occurrence

/-!
A run of an exchange, told by its steps. The steps that targets carry out stand
among the others, each where it starts, with the world that it finds.

The main statements are that each step of a run finds the exchange as the steps
before it have left it, however deep it is nested and however the steps around
it end, and that the notes of a run name the same steps and the same connected
targets in the same order.
-/

namespace MidiConsole

open Journaled

def Task.occurrence? (w : World Note (Exchange Target)) : Task → Option Occurrence
  | .perform step => some ⟨step, w⟩
  | .report _ _ => none
  | .raise _ => none

namespace Exchange

open Occurrence

/-- Induction on an agenda: a property of what is left to do holds if it holds
when nothing is left, when the next task is cut short, and whenever it holds
after the next task. -/
@[elab_as_elim]
theorem agenda_induction {motive : List Task → World Note (Exchange Target) → Prop}
    (nil : ∀ w, motive [] w)
    (error : ∀ task tasks w fault w', doTask task w = .error fault w' →
      motive (task :: tasks) w)
    (ok : ∀ task tasks w more w', doTask task w = .ok more w' → motive (more ++ tasks) w' →
      motive (task :: tasks) w)
    (tasks : List Task) (w : World Note (Exchange Target)) : motive tasks w := by
  cases tasks with
  | nil => exact nil w
  | cons task tasks =>
      cases h : doTask task w with
      | error fault w' => exact error task tasks w fault w' h
      | ok more w' =>
          exact ok task tasks w more w' h (agenda_induction nil error ok (more ++ tasks) w')
termination_by w.state.weight + Task.total tasks
decreasing_by
  have := weight_of_doTask h
  rw [Task.total_append, Task.total_cons]
  omega

/-- The steps that an agenda comes to, in the order in which they start. -/
def occurrences (tasks : List Task) (w : World Note (Exchange Target)) : List Occurrence :=
  match tasks with
  | [] => []
  | task :: tasks =>
      (task.occurrence? w).toList ++
        match _h : doTask task w with
        | .error _ _ => []
        | .ok more w' => occurrences (more ++ tasks) w'
termination_by w.state.weight + Task.total tasks
decreasing_by
  have := weight_of_doTask _h
  rw [Task.total_append, Task.total_cons]
  omega

theorem occurrences_nil (w : World Note (Exchange Target)) : occurrences [] w = [] := by
  rw [occurrences]

theorem occurrences_cons_of_error {task : Task} {w w' : World Note (Exchange Target)}
    {fault : Fault} (h : doTask task w = .error fault w') (tasks : List Task) :
    occurrences (task :: tasks) w = (task.occurrence? w).toList := by
  rw [occurrences]
  split <;> simp_all

theorem occurrences_cons_of_ok {task : Task} {w w' : World Note (Exchange Target)}
    {more : List Task} (h : doTask task w = .ok more w') (tasks : List Task) :
    occurrences (task :: tasks) w =
      (task.occurrence? w).toList ++ occurrences (more ++ tasks) w' := by
  rw [occurrences]
  split <;> simp_all

theorem drain_cons_of_error {task : Task} {w w' : World Note (Exchange Target)}
    {fault : Fault} (h : doTask task w = .error fault w') (tasks : List Task) :
    drain (task :: tasks) w = .error fault w' := by
  rw [drain_cons, h]

theorem drain_cons_of_ok {task : Task} {w w' : World Note (Exchange Target)}
    {more : List Task} (h : doTask task w = .ok more w') (tasks : List Task) :
    drain (task :: tasks) w = drain (more ++ tasks) w' := by
  rw [drain_cons, h]

end Exchange

/-- What a list of steps says about the way from one world to another: the steps
follow each other, and they are the ones that the notes on the way tell of. -/
structure Traces (w : World Note (Exchange Target)) (os : List Occurrence)
    (w' : World Note (Exchange Target)) : Prop where
  linked : Occurrence.Linked w.state os
  leave_eq : Occurrence.leave w.state os = w'.state
  started : startedIn w'.journal.events =
    startedIn w.journal.events ++ os.map Occurrence.step
  invoked : invokedIn w'.journal.events =
    invokedIn w.journal.events ++ os.filterMap Occurrence.dispatch?

namespace Traces

variable {w w' w'' : World Note (Exchange Target)} {os os' : List Occurrence}

theorem of_quiet (hstate : w'.state = w.state)
    (hstarted : startedIn w'.journal.events = startedIn w.journal.events)
    (hinvoked : invokedIn w'.journal.events = invokedIn w.journal.events) :
    Traces w [] w' where
  linked := trivial
  leave_eq := hstate.symm
  started := by simp [hstarted]
  invoked := by simp [hinvoked]

theorem refl (w : World Note (Exchange Target)) : Traces w [] w :=
  of_quiet rfl rfl rfl

theorem single (o : Occurrence) : Traces o.before [o] o.after where
  linked := ⟨rfl, trivial⟩
  leave_eq := rfl
  started := o.startedIn_after
  invoked := by
    rw [o.invokedIn_after]
    cases h : o.dispatch? <;> simp [h]

theorem trans (h : Traces w os w') (h' : Traces w' os' w'') : Traces w (os ++ os') w'' where
  linked := by
    rw [Occurrence.linked_append, h.leave_eq]
    exact ⟨h.linked, h'.linked⟩
  leave_eq := by rw [Occurrence.leave_append, h.leave_eq, h'.leave_eq]
  started := by rw [h'.started, h.started, List.map_append, List.append_assoc]
  invoked := by rw [h'.invoked, h.invoked, List.filterMap_append, List.append_assoc]

end Traces

namespace Exchange

theorem traces_doTask (task : Task) (w : World Note (Exchange Target)) :
    Traces w (task.occurrence? w).toList (Journaled.after (doTask task) w) := by
  cases task with
  | perform step =>
      have hafter : Journaled.after (doTask (.perform step)) w = Occurrence.after ⟨step, w⟩ := by
        simp only [Journaled.after, doTask, bind_apply, Occurrence.after]
        cases start step w <;> rfl
      rw [hafter]
      exact .single ⟨step, w⟩
  | report step reply =>
      refine .of_quiet rfl ?_ ?_
      · exact (startedIn_append _ _).trans (List.append_nil _)
      · exact (invokedIn_append _ _).trans (List.append_nil _)
  | raise text => exact .refl w

theorem traces_drain (tasks : List Task) (w : World Note (Exchange Target)) :
    Traces w (occurrences tasks w) (Journaled.after (drain tasks) w) := by
  induction tasks, w using agenda_induction with
  | nil w =>
      rw [occurrences_nil, after_of_ok (drain_nil w)]
      exact .refl w
  | error task tasks w fault w' h =>
      rw [occurrences_cons_of_error h, after_of_error (drain_cons_of_error h tasks),
        ← after_of_error h]
      exact traces_doTask task w
  | ok task tasks w more w' h ih =>
      have hdrain : Journaled.after (drain (task :: tasks)) w =
          Journaled.after (drain (more ++ tasks)) w' := by
        unfold Journaled.after
        rw [drain_cons_of_ok h]
      rw [occurrences_cons_of_ok h, hdrain]
      have hfirst := traces_doTask task w
      rw [after_of_ok h] at hfirst
      exact hfirst.trans ih

/-- The steps that carrying out a step comes to: the step itself, and those of
the target that it connects. -/
def occurrencesOf (step : Step Target) (w : World Note (Exchange Target)) :
    List Occurrence :=
  ⟨step, w⟩ ::
    match start step w with
    | .ok begun w' => occurrences begun.tasks w'
    | .error _ _ => []

theorem occurrencesOf_eq_singleton {o : Occurrence} (h : o.dispatch? = none) :
    occurrencesOf o.step o.before = [o] := by
  unfold Occurrence.dispatch? Occurrence.begun? at h
  unfold occurrencesOf
  cases hstart : start o.step o.before with
  | error fault w => rfl
  | ok begun w =>
      rw [hstart] at h
      have hnone : begun.dispatch = none := h
      have htasks : begun.tasks = [] := by rw [Begun.tasks, hnone]
      simp only [htasks, occurrences_nil]

theorem traces_perform (step : Step Target) (w : World Note (Exchange Target)) :
    Traces w (occurrencesOf step w) (Journaled.after (perform step) w) := by
  have hfirst := Traces.single ⟨step, w⟩
  unfold occurrencesOf
  cases h : start step w with
  | error fault w' =>
      have hperform : perform step w = .error fault w' := by
        rw [perform, bind_apply, h]
      rw [Occurrence.after, after_of_error h] at hfirst
      rw [after_of_error hperform]
      exact hfirst
  | ok begun w' =>
      have hperform : Journaled.after (perform step) w =
          Journaled.after (drain begun.tasks) w' := by
        simp only [Journaled.after, perform, bind_apply, h]
        cases drain begun.tasks w' <;> rfl
      rw [Occurrence.after, after_of_ok h] at hfirst
      rw [hperform]
      exact hfirst.trans (traces_drain begun.tasks w')

/-- A step of a target is carried out as any other step, from the world in which
it starts; only its completion is noted. -/
theorem drain_perform_cons (step : Step Target) (tasks : List Task) :
    drain (.perform step :: tasks) = (do
      let reply ← perform step
      note (.completed step reply)
      drain tasks) := by
  funext w
  rw [drain_cons, perform]
  simp only [doTask, bind_apply]
  cases start step w with
  | error fault w' => rfl
  | ok begun w' =>
      simp only [pure_apply]
      rw [List.append_assoc, drain_append, bind_apply]
      cases drain begun.tasks w' with
      | error fault w'' => rfl
      | ok _ w'' => simp [drain_cons, doTask]

/-- A step that has begun returns its answer as soon as the target that it has connected is
done, and ends with the fault of that target if there is one. -/
theorem perform_of_begun? {o : Occurrence} {begun : Begun Target} (h : o.begun? = some begun) :
    perform o.step o.before =
      match drain begun.tasks o.after with
      | .ok _ w => .ok begun.reply w
      | .error fault w => .error fault w := by
  rw [Occurrence.begun?] at h
  cases hstart : start o.step o.before with
  | error fault w =>
      rw [hstart] at h
      cases h
  | ok found w =>
      rw [hstart] at h
      obtain rfl : found = begun := Option.some.inj h
      rw [Occurrence.after, after_of_ok hstart]
      simp only [perform, bind_apply, hstart]
      cases drain found.tasks w <;> rfl

theorem perform_of_tasks_eq_nil {o : Occurrence} {begun : Begun Target}
    (h : o.begun? = some begun) (htasks : begun.tasks = []) :
    perform o.step o.before = .ok begun.reply o.after := by
  rw [perform_of_begun? h, htasks, drain_nil]

theorem begun?_of_perform_ok {o : Occurrence} {reply : Reply} {w : World Note (Exchange Target)}
    (h : perform o.step o.before = .ok reply w) :
    ∃ begun, o.begun? = some begun ∧ begun.reply = reply := by
  obtain ⟨begun, u, hstart, hrest⟩ := bind_eq_ok_iff.mp h
  obtain ⟨_, v, -, hpure⟩ := bind_eq_ok_iff.mp hrest
  cases hpure
  exact ⟨begun, by rw [Occurrence.begun?, hstart], rfl⟩

/-- All steps of a run, in the order in which they start. -/
def chronicle : Exchange Target → List (Call (Step Target)) → List Occurrence
  | _, [] => []
  | exchange, call :: calls =>
      occurrencesOf call.command ⟨exchange, { sink := call.sink }⟩ ++
        chronicle (attempt (perform call.command) call.sink exchange).state calls

theorem chronicle_cons (exchange : Exchange Target) (call : Call (Step Target))
    (calls : List (Call (Step Target))) :
    chronicle exchange (call :: calls) =
      occurrencesOf call.command ⟨exchange, { sink := call.sink }⟩ ++
        chronicle (Occurrence.leave exchange
          (occurrencesOf call.command ⟨exchange, { sink := call.sink }⟩)) calls := by
  have h := traces_perform call.command ⟨exchange, { sink := call.sink }⟩
  rw [chronicle, state_attempt, h.leave_eq]

theorem chronicle_cons_of_dispatch?_eq_none {exchange : Exchange Target}
    {call : Call (Step Target)} {o : Occurrence}
    (ho : o = ⟨call.command, ⟨exchange, { sink := call.sink }⟩⟩) (h : o.dispatch? = none)
    (calls : List (Call (Step Target))) :
    chronicle exchange (call :: calls) = o :: chronicle o.after.state calls := by
  subst ho
  have hone := occurrencesOf_eq_singleton h
  rw [chronicle_cons, hone]
  rfl

theorem linked_chronicle (exchange : Exchange Target) (calls : List (Call (Step Target))) :
    Occurrence.Linked exchange (chronicle exchange calls) := by
  induction calls generalizing exchange with
  | nil => trivial
  | cons call calls ih =>
      rw [chronicle_cons, Occurrence.linked_append]
      exact ⟨(traces_perform call.command ⟨exchange, { sink := call.sink }⟩).linked, ih _⟩

def startedBy (outcomes : List (Outcome Note (Exchange Target) Reply)) : List (Step Target) :=
  outcomes.flatMap fun outcome => startedIn outcome.events

def invokedBy (outcomes : List (Outcome Note (Exchange Target) Reply)) :
    List (Dispatch Target) :=
  outcomes.flatMap fun outcome => invokedIn outcome.events

def leftBy (exchange : Exchange Target)
    (outcomes : List (Outcome Note (Exchange Target) Reply)) : Exchange Target :=
  outcomes.foldl (fun _ outcome => outcome.state) exchange

theorem startedBy_history (exchange : Exchange Target) (calls : List (Call (Step Target))) :
    startedBy (history perform exchange calls) =
      (chronicle exchange calls).map Occurrence.step := by
  induction calls generalizing exchange with
  | nil => rfl
  | cons call calls ih =>
      have h := traces_perform call.command ⟨exchange, { sink := call.sink }⟩
      rw [history, startedBy, List.flatMap_cons, ← startedBy, ih, chronicle, List.map_append,
        events_attempt, h.started]
      rfl

theorem invokedBy_history (exchange : Exchange Target) (calls : List (Call (Step Target))) :
    invokedBy (history perform exchange calls) =
      (chronicle exchange calls).filterMap Occurrence.dispatch? := by
  induction calls generalizing exchange with
  | nil => rfl
  | cons call calls ih =>
      have h := traces_perform call.command ⟨exchange, { sink := call.sink }⟩
      rw [history, invokedBy, List.flatMap_cons, ← invokedBy, ih, chronicle,
        List.filterMap_append, events_attempt, h.invoked]
      rfl

theorem leftBy_history (exchange : Exchange Target) (calls : List (Call (Step Target))) :
    leftBy exchange (history perform exchange calls) =
      Occurrence.leave exchange (chronicle exchange calls) := by
  induction calls generalizing exchange with
  | nil => rfl
  | cons call calls ih =>
      have h := traces_perform call.command ⟨exchange, { sink := call.sink }⟩
      rw [chronicle, Occurrence.leave_append, h.leave_eq, ← state_attempt]
      exact ih _

theorem exists_occurrence_of_result (exchange : Exchange Target)
    (calls : List (Call (Step Target)))
    {earlier later : List (Outcome Note (Exchange Target) Reply)}
    {outcome : Outcome Note (Exchange Target) Reply} {reply : Reply}
    (h : history perform exchange calls = earlier ++ outcome :: later)
    (hresult : outcome.result = .ok reply) :
    ∃ o w, (chronicle exchange calls)[(startedBy earlier).length]? = some o ∧
      perform o.step o.before = .ok reply w := by
  induction calls generalizing exchange earlier with
  | nil => simp [history] at h
  | cons call calls ih =>
      have htraces := traces_perform call.command ⟨exchange, { sink := call.sink }⟩
      rw [history] at h
      rcases earlier with _ | ⟨first, earlier⟩
      · obtain ⟨houtcome, -⟩ := List.cons.inj h
        refine ⟨⟨call.command, ⟨exchange, { sink := call.sink }⟩⟩, ?_⟩
        rw [← houtcome, attempt] at hresult
        cases hperform : perform call.command ⟨exchange, { sink := call.sink }⟩ with
        | ok found w =>
            rw [hperform] at hresult
            obtain rfl : found = reply := Except.ok.inj hresult
            exact ⟨w, rfl, rfl⟩
        | error fault w =>
            rw [hperform] at hresult
            cases hresult
      · obtain ⟨hfirst, hrest⟩ := List.cons.inj h
        obtain ⟨o, w, ho, hperform⟩ := ih _ hrest
        refine ⟨o, w, ?_, hperform⟩
        -- The steps of the first call come before those of the others.
        have hstarted : startedIn first.events =
            (occurrencesOf call.command ⟨exchange, { sink := call.sink }⟩).map
              Occurrence.step := by
          rw [← hfirst, events_attempt, htraces.started]
          rfl
        rw [chronicle, startedBy, List.flatMap_cons, List.length_append, hstarted,
          List.length_map, List.getElem?_append_right (Nat.le_add_right _ _),
          Nat.add_sub_cancel_left]
        exact ho

end Exchange

end MidiConsole
