import MidiConsole.Proofs.Conservation
import MidiConsole.Proofs.Retargeting

namespace MidiConsole

open Journaled Exchange

/-- The target of the same name that does nothing when it has its device. -/
def Target.silent (target : Target) : Target :=
  .mk target.name [] none

namespace Exchange

theorem Begun.tasks_map_silent (begun : Begun Target) : (begun.map Target.silent).tasks = [] := by
  obtain ⟨reply, none | dispatch⟩ := begun <;> rfl

/-- A run in which the host itself carries out the steps of another run, in the
order in which they start, with silent targets. -/
def flatRun (exchange : Exchange Target) (steps : List (Step Target)) :
    List (Outcome Note (Exchange Target) Reply) :=
  history perform (exchange.map Target.silent)
    (steps.map fun step => { command := step.map Target.silent })

theorem doTask_of_logFailed {task : Task} {w : World Note (Exchange Target)} {o : Occurrence}
    (ho : task.occurrence? w = some o) (h : o.LogFailed) :
    ∃ w', doTask task w = .error .sink w' := by
  obtain ⟨w', hstart⟩ := h
  cases task with
  | perform step =>
      cases ho
      exact ⟨w', by rw [doTask, bind_apply, hstart]⟩
  | report step reply => cases ho
  | raise text => cases ho

theorem drain_of_logFailed {tasks : List Task} {w : World Note (Exchange Target)}
    {o : Occurrence} (ho : o ∈ occurrences tasks w) (h : o.LogFailed) :
    ∃ w', drain tasks w = .error .sink w' := by
  induction tasks, w using agenda_induction with
  | nil w => simp [occurrences_nil] at ho
  | error task tasks w fault w' hdo =>
      rw [occurrences_cons_of_error hdo, Option.mem_toList] at ho
      obtain ⟨u, hfailed⟩ := doTask_of_logFailed ho h
      exact ⟨u, drain_cons_of_error hfailed tasks⟩
  | ok task tasks w more w' hdo ih =>
      rw [occurrences_cons_of_ok hdo, List.mem_append, Option.mem_toList] at ho
      rcases ho with ho | ho
      · obtain ⟨u, hfailed⟩ := doTask_of_logFailed ho h
        rw [hdo] at hfailed
        cases hfailed
      · rw [drain_cons_of_ok hdo]
        exact ih ho

theorem perform_of_logFailed {step : Step Target} {w : World Note (Exchange Target)}
    {o : Occurrence} (ho : o ∈ occurrencesOf step w) (h : o.LogFailed) :
    ∃ w', perform step w = .error .sink w' := by
  rcases List.mem_cons.mp ho with rfl | ho
  · obtain ⟨w', hstart⟩ := h
    exact ⟨w', by rw [perform, bind_apply, hstart]⟩
  · cases hstart : start step w with
    | error fault w' => simp [hstart] at ho
    | ok begun w' =>
        rw [hstart] at ho
        obtain ⟨u, hdrain⟩ := drain_of_logFailed ho h
        exact ⟨u, by simp only [perform, bind_apply, hstart, hdrain]⟩

theorem not_logFailed_of_mem_chronicle {exchange : Exchange Target}
    {calls : List (Call (Step Target))}
    (h : ∀ outcome ∈ history perform exchange calls, outcome.result ≠ .error .sink)
    {o : Occurrence} (ho : o ∈ chronicle exchange calls) : ¬o.LogFailed := by
  intro hfailed
  induction calls generalizing exchange with
  | nil => cases ho
  | cons call calls ih =>
      rw [chronicle, List.mem_append] at ho
      rcases ho with ho | ho
      · obtain ⟨w, hperform⟩ := perform_of_logFailed ho hfailed
        refine h _ List.mem_cons_self ?_
        rw [attempt, hperform]
      · exact ih (fun outcome houtcome => h outcome (List.mem_cons_of_mem _ houtcome)) ho

end Exchange

namespace Occurrence

def silent (o : Occurrence) : Occurrence :=
  ⟨o.step.map Target.silent, ⟨o.before.state.map Target.silent, {}⟩⟩

theorem begin_silent (o : Occurrence) :
    (∃ w, begin o.step o.entry = .error .sink w) ∨
      ∃ begun w w', begin o.step o.entry = .ok begun w ∧
        begin o.silent.step o.silent.entry = .ok (begun.map Target.silent) w' ∧
        w'.state = w.state.map Target.silent := by
  rcases mirrors_begin Target.silent o.step o.before.state o.entry.journal
      o.silent.entry.journal rfl with hfailed | ⟨begun, t, notices, hbegin, hbegin'⟩
  · exact Or.inl hfailed
  · exact Or.inr ⟨begun, _, _, hbegin, hbegin', rfl⟩

theorem begun?_silent {o : Occurrence} (h : ¬o.LogFailed) :
    ∃ begun, o.begun? = some begun ∧ o.silent.begun? = some (begun.map Target.silent) ∧
      o.silent.after.state = o.after.state.map Target.silent := by
  rcases o.begin_silent with ⟨w, hfailed⟩ | ⟨begun, w, w', hbegin, hbegin', hstate⟩
  · exact absurd ⟨w, by rw [start_eq, hfailed]⟩ h
  · refine ⟨begun, begun?_of_begin_ok hbegin, begun?_of_begin_ok hbegin', ?_⟩
    rw [state_after, state_after, after_of_ok hbegin, after_of_ok hbegin', hstate]

theorem attempt_silent {o : Occurrence} (h : ¬o.LogFailed) :
    ∃ begun, o.begun? = some begun ∧
      attempt (perform (o.step.map Target.silent)) Sink.sound
          (o.before.state.map Target.silent) =
        ⟨.ok begun.reply, o.silent.after.journal.events, o.after.state.map Target.silent⟩ ∧
      invokedIn o.silent.after.journal.events =
        (o.dispatch?.map (Dispatch.map Target.silent)).toList := by
  obtain ⟨begun, hbegun, hbegun', hstate⟩ := begun?_silent h
  refine ⟨begun, hbegun, ?_, ?_⟩
  · have hperform := perform_of_tasks_eq_nil hbegun' begun.tasks_map_silent
    change perform (o.step.map Target.silent) ⟨o.before.state.map Target.silent, {}⟩ = _
      at hperform
    rw [attempt, hperform, ← hstate]
    rfl
  · rw [o.silent.invokedIn_after, dispatch?, dispatch?, hbegun, hbegun']
    rfl

/-- In the flat run each step of the other run comes to the same, from the
exchange that it found there. -/
theorem flatRun_eq {exchange : Exchange Target} {os : List Occurrence}
    (hlinked : Linked exchange os) (hsound : ∀ o ∈ os, ¬o.LogFailed) :
    flatRun exchange (os.map step) = os.map fun o =>
      attempt (perform (o.step.map Target.silent)) Sink.sound
        (o.before.state.map Target.silent) := by
  induction os generalizing exchange with
  | nil => rfl
  | cons o os ih =>
      obtain ⟨hstate, hrest⟩ := hlinked
      obtain ⟨begun, -, hattempt, -⟩ := attempt_silent (hsound o List.mem_cons_self)
      have htail := ih hrest fun o' ho' => hsound o' (List.mem_cons_of_mem _ ho')
      rw [flatRun] at htail ⊢
      rw [List.map_cons, List.map_cons, List.map_cons, history, ← hstate, ← htail]
      simp only [hattempt]

theorem invokedBy_flatRun {exchange : Exchange Target} {os : List Occurrence}
    (hlinked : Linked exchange os) (hsound : ∀ o ∈ os, ¬o.LogFailed) :
    invokedBy (flatRun exchange (os.map step)) =
      (os.filterMap dispatch?).map (Dispatch.map Target.silent) := by
  rw [flatRun_eq hlinked hsound, invokedBy, List.flatMap_map, List.map_filterMap,
    List.filterMap_eq_flatMap_toList]
  refine List.flatMap_congr fun o ho => ?_
  obtain ⟨begun, -, hattempt, hinvoked⟩ := attempt_silent (hsound o ho)
  rw [hattempt, hinvoked]

theorem leftBy_flatRun {exchange : Exchange Target} {os : List Occurrence}
    (hlinked : Linked exchange os) (hsound : ∀ o ∈ os, ¬o.LogFailed) :
    leftBy (exchange.map Target.silent) (flatRun exchange (os.map step)) =
      (leave exchange os).map Target.silent := by
  rw [flatRun_eq hlinked hsound, leftBy, List.foldl_map]
  clear hlinked
  induction os generalizing exchange with
  | nil => rfl
  | cons o os ih =>
      obtain ⟨begun, -, hattempt, -⟩ := attempt_silent (hsound o List.mem_cons_self)
      rw [List.foldl_cons, hattempt, leave]
      exact ih fun o' ho' => hsound o' (List.mem_cons_of_mem _ ho')

theorem result_flatRun {exchange : Exchange Target} {os : List Occurrence}
    (hlinked : Linked exchange os) (hsound : ∀ o ∈ os, ¬o.LogFailed) {i : Nat}
    {o : Occurrence} (ho : os[i]? = some o) {reply : Reply} {w : World Note (Exchange Target)}
    (h : perform o.step o.before = .ok reply w) :
    ((flatRun exchange (os.map step))[i]?).map Outcome.result = some (.ok reply) := by
  obtain ⟨begun, hbegun, hattempt, -⟩ :=
    attempt_silent (hsound o (List.mem_of_getElem? ho))
  obtain ⟨found, hfound, hreply⟩ := begun?_of_perform_ok h
  obtain rfl : begun = found := Option.some.inj (hbegun.symm.trans hfound)
  rw [flatRun_eq hlinked hsound, List.getElem?_map, ho, Option.map_some, Option.map_some,
    hattempt, hreply]

/-- A run in which no log fails comes to the same as its flat run: a step that
returns, of the host or of a target, returns the same answer; the same connections
are made in the same order; and the same exchange is left, whether or not targets
have failed. In between, from the moment when a target gets its device, its request
does not wait any more. A target carries out its steps as the host does, by
`drain_perform_cons`. -/
theorem flatRun_comes_to_the_same {calls : List (Call (Step Target))}
    (h : ∀ outcome ∈ history perform {} calls, outcome.result ≠ .error .sink) :
    let nested := history perform {} calls
    let flat := flatRun {} (startedBy nested)
    startedBy nested = (chronicle {} calls).map step ∧
      (∀ (i : Nat) (o : Occurrence), (chronicle {} calls)[i]? = some o →
        ∀ reply w, perform o.step o.before = .ok reply w →
          (flat[i]?).map Outcome.result = some (.ok reply)) ∧
      (∀ earlier outcome later, nested = earlier ++ outcome :: later →
        ∀ reply, outcome.result = .ok reply →
          (flat[(startedBy earlier).length]?).map Outcome.result = some (.ok reply)) ∧
      invokedBy flat = (invokedBy nested).map (Dispatch.map Target.silent) ∧
      leftBy {} flat = (leftBy {} nested).map Target.silent ∧
      ∀ index, preparations index (chronicle {} calls) < 2 ^ 64 →
        ∀ earlier o later rest, chronicle {} calls = earlier ++ o :: later ++ rest →
          ∀ connection, o.dispatch? = some ⟨index, connection⟩ →
            ∀ board, (leave {} (earlier ++ o :: later)).board? index = some board →
              board.isPending connection.handle = false := by
  intro nested flat
  have hsound : ∀ o ∈ chronicle {} calls, ¬o.LogFailed :=
    fun o ho => not_logFailed_of_mem_chronicle h ho
  have hlinked := linked_chronicle {} calls
  have hstarted : startedBy nested = (chronicle {} calls).map step := startedBy_history {} calls
  have hflat : flat = flatRun {} ((chronicle {} calls).map step) := congrArg (flatRun {}) hstarted
  have hresult : ∀ (i : Nat) (o : Occurrence), (chronicle {} calls)[i]? = some o →
      ∀ reply w, perform o.step o.before = .ok reply w →
        (flat[i]?).map Outcome.result = some (.ok reply) := by
    intro i o ho reply w hperform
    rw [hflat]
    exact result_flatRun hlinked hsound ho hperform
  refine ⟨hstarted, hresult, ?_, ?_, ?_, ?_⟩
  · intro earlier outcome later hsplit reply houtcome
    obtain ⟨o, w, ho, hperform⟩ := exists_occurrence_of_result {} calls hsplit houtcome
    exact hresult _ o ho reply w hperform
  · rw [hflat, invokedBy_flatRun hlinked hsound, ← invokedBy_history]
  · have hleft := leftBy_flatRun hlinked hsound
    rw [← leftBy_history, ← hflat] at hleft
    exact hleft
  · intro index hbound earlier o later rest hsplit connection hdispatch board hboard
    have hmoment : Moment (earlier ++ o :: later) := ⟨calls, rest, hsplit⟩
    refine hmoment.not_isPending_of_dispatch? ?_ hdispatch hboard
    rw [hsplit, preparations_append] at hbound
    exact Nat.lt_of_le_of_lt (Nat.le_add_right _ _) hbound

/-- A run in which a target connects another one, which is brought a device for
the first one's handle and fails, so that the first one does not come to its last
step. -/
def nestedRun : List (Call (Step Target)) :=
  let inner := Target.mk "inner" [⟨0, .connect ⟨.nth 1, .input⟩ "again"⟩] (some "out of order")
  let outer := Target.mk "outer"
    [⟨0, .prepare .output inner⟩, ⟨0, .connect ⟨.nth 2, .output⟩ "synth"⟩, ⟨0, .cancel (.nth 2)⟩]
    none
  [⟨⟨0, .prepare .input outer⟩, Sink.failingAt (some .trace)⟩,
    ⟨⟨0, .deliver 0 (some "keys")⟩, Sink.failingAt (some .trace)⟩,
    ⟨⟨0, .prepare .input outer⟩, Sink.sound⟩]

theorem flatRun_of_nestedRun :
    (∀ outcome ∈ history perform {} nestedRun, outcome.result ≠ .error .sink) ∧
      (startedBy (history perform {} nestedRun)).length = 6 ∧
      (invokedBy (history perform {} nestedRun)).length = 2 ∧
      invokedBy (flatRun {} (startedBy (history perform {} nestedRun))) =
        (invokedBy (history perform {} nestedRun)).map (Dispatch.map Target.silent) ∧
      leftBy {} (flatRun {} (startedBy (history perform {} nestedRun))) =
        (leftBy {} (history perform {} nestedRun)).map Target.silent ∧
      ((leftBy {} (history perform {} nestedRun)).board? 0).map Switchboard.pendingCount =
        some 1 := by
  have hfaults : ∀ outcome ∈ history perform {} nestedRun,
      outcome.result.map (fun _ => ()) ≠ .error .sink := by
    decide +kernel
  have hsound : ∀ outcome ∈ history perform {} nestedRun, outcome.result ≠ .error .sink := by
    intro outcome houtcome hresult
    refine hfaults outcome houtcome ?_
    rw [hresult]
    rfl
  obtain ⟨-, -, -, hinvoked, hleft, -⟩ := flatRun_comes_to_the_same hsound
  refine ⟨hsound, ?_, ?_, hinvoked, hleft, ?_⟩
  · decide +kernel
  · decide +kernel
  · decide +kernel

end Occurrence

end MidiConsole
