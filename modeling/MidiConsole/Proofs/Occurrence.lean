import MidiConsole.Proofs.StepCourse
import MidiConsole.Switchboard.Dispatch

/-!
A step that starts, with the world that it finds. When it has begun, the exchange
has changed, and its notices and notes stand in the journal; nothing but the target
that it connects acts after that.

The main statement is that a step comes to the end of its course, or stops at the notice
at which its log fails.
-/

namespace MidiConsole

open Journaled

def startedIn (events : List (Event Note)) : List (Step Target) :=
  events.filterMap fun
    | .noted (.started step) => some step
    | _ => none

def invokedIn (events : List (Event Note)) : List (Dispatch Target) :=
  events.filterMap fun
    | .noted (.invoked dispatch) => some dispatch
    | _ => none

theorem startedIn_append (first second : List (Event Note)) :
    startedIn (first ++ second) = startedIn first ++ startedIn second :=
  List.filterMap_append

theorem invokedIn_append (first second : List (Event Note)) :
    invokedIn (first ++ second) = invokedIn first ++ invokedIn second :=
  List.filterMap_append

theorem startedIn_logged (notices : List Notice) :
    startedIn (notices.map .logged) = [] := by
  simp [startedIn]

theorem invokedIn_logged (notices : List Notice) :
    invokedIn (notices.map .logged) = [] := by
  simp [invokedIn]

/-- A step that starts, with the world that it finds. -/
structure Occurrence where
  step : Step Target
  before : World Note (Exchange Target)

namespace Occurrence

/-- The world when the step has begun. Nothing but the target that it connects
acts after that. -/
def after (o : Occurrence) : World Note (Exchange Target) :=
  Journaled.after (Exchange.start o.step) o.before

/-- What the step comes to, unless its log has failed. -/
def begun? (o : Occurrence) : Option (Exchange.Begun Target) :=
  match Exchange.start o.step o.before with
  | .ok begun _ => some begun
  | .error _ _ => none

def dispatch? (o : Occurrence) : Option (Dispatch Target) :=
  o.begun?.bind Exchange.Begun.dispatch

def notices (o : Occurrence) : List Notice :=
  o.after.journal.notices.drop o.before.journal.notices.length

def entry (o : Occurrence) : World Note (Exchange Target) :=
  ⟨o.before.state, o.before.journal.add (.noted (.started o.step))⟩

@[simp] theorem notices_entry (o : Occurrence) :
    o.entry.journal.notices = o.before.journal.notices :=
  Journal.notices_add_noted _ _

def announced (begun : Exchange.Begun Target) (journal : Journal Note) : Journal Note :=
  match begun.dispatch with
  | none => journal
  | some dispatch => journal.add (.noted (.invoked dispatch))

theorem start_eq (o : Occurrence) :
    Exchange.start o.step o.before =
      match Exchange.begin o.step o.entry with
      | .ok begun w => .ok begun ⟨w.state, announced begun w.journal⟩
      | .error fault w => .error fault w := by
  simp only [Exchange.start, bind_apply, note_apply, entry]
  generalize Exchange.begin o.step
    ⟨o.before.state, o.before.journal.add (.noted (.started o.step))⟩ = result
  cases result with
  | ok begun w =>
      obtain ⟨reply, none | dispatch⟩ := begun <;> rfl
  | error fault w => rfl

theorem begun?_of_begin_ok {o : Occurrence} {begun : Exchange.Begun Target}
    {w : World Note (Exchange Target)} (h : Exchange.begin o.step o.entry = .ok begun w) :
    o.begun? = some begun := by
  rw [begun?, start_eq, h]

theorem begun?_of_begin_error {o : Occurrence} {fault : Fault}
    {w : World Note (Exchange Target)} (h : Exchange.begin o.step o.entry = .error fault w) :
    o.begun? = none := by
  rw [begun?, start_eq, h]

theorem state_after (o : Occurrence) :
    o.after.state = (Journaled.after (Exchange.begin o.step) o.entry).state := by
  unfold after Journaled.after
  rw [start_eq]
  cases Exchange.begin o.step o.entry <;> rfl

/-- A step notes its start, then logs, and then notes the connection that it
has made. -/
theorem journal_after (o : Occurrence) :
    ∃ logged : List Notice,
      (Journaled.after (Exchange.begin o.step) o.entry).journal.notices =
          o.before.journal.notices ++ logged ∧
      o.after.journal = { o.before.journal with
        events := o.before.journal.events ++ .noted (.started o.step) ::
          (logged.map .logged ++ (o.dispatch?.map fun d => .noted (.invoked d)).toList) } := by
  obtain ⟨logged, hlogged⟩ :=
    Follows.journal_after (w := o.entry) (Exchange.follows_begin o.step o.before.state)
  refine ⟨logged, ?_, ?_⟩
  · rw [hlogged, Journal.notices_writeAll, notices_entry]
  · unfold after dispatch? begun?
    unfold Journaled.after at hlogged ⊢
    rw [start_eq]
    cases h : Exchange.begin o.step o.entry with
    | error fault w =>
        simp only [h] at hlogged
        simp [hlogged, entry, Journal.writeAll, Journal.add]
    | ok begun w =>
        simp only [h] at hlogged
        obtain ⟨reply, none | dispatch⟩ := begun <;>
          simp [hlogged, entry, announced, Journal.writeAll, Journal.add]

theorem notices_eq {o : Occurrence} {logged : List Notice}
    (h : (Journaled.after (Exchange.begin o.step) o.entry).journal.notices =
      o.before.journal.notices ++ logged) : o.notices = logged := by
  obtain ⟨logged', hlogged, hjournal⟩ := o.journal_after
  obtain rfl : logged = logged' := List.append_cancel_left (h.symm.trans hlogged)
  have hnotices : o.after.journal.notices = o.before.journal.notices ++ logged := by
    rw [hjournal, Journal.notices, List.filterMap_append, List.filterMap_cons,
      Event.notice?, List.filterMap_append, filterMap_notice?_logged]
    cases o.dispatch? <;> simp [Journal.notices, Event.notice?]
  rw [notices, hnotices, List.drop_left]

theorem startedIn_after (o : Occurrence) :
    startedIn o.after.journal.events = startedIn o.before.journal.events ++ [o.step] := by
  obtain ⟨logged, _, hjournal⟩ := o.journal_after
  rw [hjournal]
  dsimp only
  rw [startedIn_append, ← List.singleton_append, startedIn_append, startedIn_append,
    startedIn_logged]
  cases o.dispatch? <;> rfl

theorem invokedIn_after (o : Occurrence) :
    invokedIn o.after.journal.events =
      invokedIn o.before.journal.events ++ o.dispatch?.toList := by
  obtain ⟨logged, _, hjournal⟩ := o.journal_after
  rw [hjournal]
  dsimp only
  rw [invokedIn_append, ← List.singleton_append, invokedIn_append, invokedIn_append,
    invokedIn_logged]
  cases o.dispatch? <;> rfl

def leave : Exchange Target → List Occurrence → Exchange Target
  | exchange, [] => exchange
  | _, o :: os => leave o.after.state os

/-- Each step of a list finds what the steps before it have left. -/
def Linked : Exchange Target → List Occurrence → Prop
  | _, [] => True
  | exchange, o :: os => o.before.state = exchange ∧ Linked o.after.state os

theorem leave_append (exchange : Exchange Target) (first second : List Occurrence) :
    leave exchange (first ++ second) = leave (leave exchange first) second := by
  induction first generalizing exchange with
  | nil => rfl
  | cons o os ih => exact ih o.after.state

theorem linked_append {exchange : Exchange Target} {first second : List Occurrence} :
    Linked exchange (first ++ second) ↔
      Linked exchange first ∧ Linked (leave exchange first) second := by
  induction first generalizing exchange with
  | nil => simp [Linked, leave]
  | cons o os ih => simp only [List.cons_append, Linked, leave, ih, and_assoc]

def LogFailed (o : Occurrence) : Prop :=
  ∃ w, Exchange.start o.step o.before = .error .sink w

/-- What a step comes to: its answer, unless its log has failed, its notices and
the exchange that it leaves. -/
structure Comes (o : Occurrence) (begun : Option (Exchange.Begun Target))
    (logged : List Notice) (exchange : Exchange Target) : Prop where
  begun_eq : o.begun? = begun
  notices_eq : o.notices = logged
  state_eq : o.after.state = exchange
  logFailed : begun = none → o.LogFailed

variable {o : Occurrence}

theorem Comes.dispatch_eq {begun : Option (Exchange.Begun Target)} {logged : List Notice}
    {exchange : Exchange Target} (h : o.Comes begun logged exchange) :
    o.dispatch? = begun.bind Exchange.Begun.dispatch := by
  rw [dispatch?, h.begun_eq]

theorem comes_of_ok {begun : Exchange.Begun Target} {w : World Note (Exchange Target)}
    {logged : List Notice} (h : Exchange.begin o.step o.entry = .ok begun w)
    (hlogged : w.journal.notices = o.before.journal.notices ++ logged) :
    o.Comes (some begun) logged w.state where
  begun_eq := begun?_of_begin_ok h
  notices_eq := notices_eq (by rw [after_of_ok h, hlogged])
  state_eq := by rw [state_after, after_of_ok h]
  logFailed := by simp

theorem comes_of_error {w : World Note (Exchange Target)} {logged : List Notice}
    (h : Exchange.begin o.step o.entry = .error .sink w)
    (hlogged : w.journal.notices = o.before.journal.notices ++ logged) :
    o.Comes none logged w.state where
  begun_eq := begun?_of_begin_error h
  notices_eq := notices_eq (by rw [after_of_error h, hlogged])
  state_eq := by rw [state_after, after_of_error h]
  logFailed := fun _ => ⟨w, by rw [start_eq, h]⟩

def course (o : Occurrence) : Course (Exchange Target) (Exchange.Begun Target) :=
  Exchange.course o.step o.before.state

/-- A step comes to the end of its course, or its log fails at one of the notices. -/
theorem comes (o : Occurrence) :
    o.Comes (some o.course.value) o.course.notices o.course.final ∨
      ∃ earlier notice s, Course.StopsAt o.course.records (earlier ++ [notice]) s ∧
        o.before.journal.sink (o.before.journal.notices ++ earlier) notice = true ∧
        o.Comes none (earlier ++ [notice]) s := by
  have hbegin : Exchange.begin o.step o.entry = o.course.run o.entry.journal :=
    Exchange.follows_begin o.step o.before.state o.entry.journal
  rcases o.course.run_cases o.entry.journal with h | ⟨earlier, notice, s, hstops, hsink, h⟩
  · exact Or.inl (comes_of_ok (hbegin.trans h) (by simp))
  · rw [notices_entry] at hsink
    exact Or.inr ⟨earlier, notice, s, hstops, hsink, comes_of_error (hbegin.trans h) (by simp)⟩

theorem state_of_keeps {o : Occurrence} {P : Exchange Target → Prop} (h : o.course.Keeps P) :
    P o.after.state := by
  rcases o.comes with hcomes | ⟨earlier, notice, s, hstops, -, hcomes⟩
  · rw [hcomes.state_eq]
    exact h.2
  · rw [hcomes.state_eq]
    exact h.1 _ hstops.last_mem

theorem comes_of_begun? {o : Occurrence} {begun : Exchange.Begun Target}
    (h : o.begun? = some begun) :
    o.course.value = begun ∧ o.Comes (some begun) o.course.notices o.course.final := by
  rcases o.comes with hcomes | ⟨earlier, notice, s, -, -, hcomes⟩
  · obtain rfl : o.course.value = begun := Option.some.inj (hcomes.begun_eq.symm.trans h)
    exact ⟨rfl, hcomes⟩
  · have hnone := hcomes.begun_eq
    rw [h] at hnone
    cases hnone

theorem LogFailed.begun?_eq {o : Occurrence} (h : o.LogFailed) : o.begun? = none := by
  obtain ⟨w, hstart⟩ := h
  rw [begun?, hstart]

theorem LogFailed.perform_eq {o : Occurrence} (h : o.LogFailed) :
    Exchange.perform o.step o.before = .error .sink o.after := by
  obtain ⟨w, hstart⟩ := h
  rw [after, after_of_error hstart, Exchange.perform, bind_apply, hstart]

theorem LogFailed.stops {o : Occurrence} (h : o.LogFailed) :
    ∃ earlier notice, o.notices = earlier ++ [notice] ∧
      o.before.journal.sink (o.before.journal.notices ++ earlier) notice = true ∧
      Course.StopsAt o.course.records o.notices o.after.state := by
  rcases o.comes with hcomes | ⟨earlier, notice, s, hstops, hsink, hcomes⟩
  · have hbegun := hcomes.begun_eq
    rw [h.begun?_eq] at hbegun
    cases hbegun
  · refine ⟨earlier, notice, hcomes.notices_eq, hsink, ?_⟩
    rwa [hcomes.notices_eq, hcomes.state_eq]

end Occurrence

end MidiConsole
