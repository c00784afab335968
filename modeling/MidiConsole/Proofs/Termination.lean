import MidiConsole.Proofs.Conservation

/-!
Steps carried out by plain recursion: a target that gets its device carries out
its script, and each step of the script may connect another target. The depth of
the recursion is bounded from outside, and nothing comes of a step whose bound is
too small.

The main statement is that the work on the boards bounds the depth and the number
of the steps, even when targets bring devices for each other or for themselves, and
that a step connects no more targets than waited before it or were asked for in it.
-/

namespace MidiConsole

open Journaled Exchange

namespace Exchange

/-- Actions of an exchange that may come to nothing. -/
abbrev Bounded (α : Type) : Type :=
  ExceptT Fault (StateT (World Note (Exchange Target)) Option) α

def finished {α : Type} (act : Act α) : Bounded α :=
  fun w =>
    match act w with
    | .ok a w' => some (.ok a, w')
    | .error fault w' => some (.error fault, w')

/-- Carry out the steps of a script in a given way. -/
def scriptBy (act : Step Target → Bounded Reply) : List (Step Target) → Bounded Unit
  | [] => pure ()
  | step :: steps => do
      let reply ← act step
      finished (note (.completed step reply))
      scriptBy act steps

def serveBy (act : Step Target → Bounded Reply) (target : Target) : Bounded Unit := do
  scriptBy act target.script
  match target.fault with
  | none => pure ()
  | some text => finished (raise text)

def followBy (act : Step Target → Bounded Reply) (begun : Begun Target) : Bounded Unit :=
  match begun.dispatch with
  | none => pure ()
  | some dispatch => serveBy act dispatch.connection.target

/-- Carry out a step, and all that follows from it, by recursion of a bounded
depth. -/
def performWithin : Nat → Step Target → Bounded Reply
  | 0, _ => fun _ => none
  | depth + 1, step => do
      let begun ← finished (start step)
      followBy (performWithin depth) begun
      pure begun.reply

theorem isSome_finished {α : Type} (act : Act α) (w : World Note (Exchange Target)) :
    (finished act w).isSome := by
  rw [finished]
  cases act w <;> rfl

theorem bind_eq_finished {α β : Type} {x : Bounded α} {act : Act α} {k : α → Bounded β}
    {next : α → Act β} {w : World Note (Exchange Target)} (hx : x w = finished act w)
    (hk : ∀ a w', act w = .ok a w' → k a w' = finished (next a) w') :
    (x >>= k) w = finished (act >>= next) w := by
  change (x w).bind _ = _
  rw [hx, finished, finished, bind_apply]
  cases hact : act w with
  | error fault w' => rfl
  | ok a w' => exact hk a w' hact

theorem weight_of_drain {tasks : List Task} {w w' : World Note (Exchange Target)}
    (h : drain tasks w = .ok () w') : w'.state.weight ≤ w.state.weight + Task.total tasks := by
  induction tasks, w using agenda_induction with
  | nil w =>
      rw [drain_nil] at h
      cases h
      exact Nat.le_add_right _ _
  | error task tasks w fault u hdo =>
      rw [drain_cons_of_error hdo] at h
      cases h
  | ok task tasks w more u hdo ih =>
      rw [drain_cons_of_ok hdo] at h
      have hrest := ih h
      have htask := weight_of_doTask hdo
      rw [Task.total_append] at hrest
      rw [Task.total_cons]
      omega

theorem weight_of_perform {step : Step Target} {w w' : World Note (Exchange Target)}
    {reply : Reply} (h : perform step w = .ok reply w') :
    w'.state.weight ≤ w.state.weight + Target.commandWeight step.command := by
  obtain ⟨begun, u, hstart, hrest⟩ := bind_eq_ok_iff.mp h
  obtain ⟨_, v, hdrain, hpure⟩ := bind_eq_ok_iff.mp hrest
  cases hpure
  have hbegun := weight_of_start hstart
  have htasks := begun.total_tasks_le
  have := weight_of_drain hdrain
  omega

theorem stepWeight_eq (step : Step Target) :
    Target.stepWeight step = Target.commandWeight step.command + 2 := by
  cases step
  rfl

section

variable {act : Step Target → Bounded Reply} {bound : Nat}
  (hact : ∀ step w, w.state.weight + Target.commandWeight step.command < bound →
    act step w = finished (perform step) w)

include hact

theorem scriptBy_eq (steps : List (Step Target)) (w : World Note (Exchange Target))
    (hbound : w.state.weight + Target.scriptWeight steps ≤ bound) :
    scriptBy act steps w = finished (drain (steps.map .perform)) w := by
  induction steps generalizing w with
  | nil =>
      simp only [scriptBy, finished, List.map_nil, drain_nil]
      rfl
  | cons step steps ih =>
      rw [Target.scriptWeight, stepWeight_eq] at hbound
      rw [scriptBy, List.map_cons, drain_perform_cons]
      refine bind_eq_finished (hact step w (by omega)) fun reply w' hperform => ?_
      refine bind_eq_finished rfl fun _ w'' hnote => ?_
      cases hnote
      have hweight := weight_of_perform hperform
      refine ih _ ?_
      dsimp only
      omega

theorem serveBy_eq (target : Target) (w : World Note (Exchange Target))
    (hbound : w.state.weight + target.weight ≤ bound) :
    serveBy act target w = finished (drain target.tasks) w := by
  obtain ⟨name, script, fault⟩ := target
  rw [Target.weight] at hbound
  have hdrain : drain (Target.mk name script fault).tasks =
      (do
        drain (script.map .perform)
        drain (fault.toList.map .raise)) := by
    funext w
    exact drain_append _ _ w
  rw [serveBy, hdrain]
  refine bind_eq_finished (scriptBy_eq hact script w (by omega)) fun _ w' _ => ?_
  cases fault with
  | none =>
      simp only [Target.fault, finished, Option.toList_none, List.map_nil, drain_nil]
      rfl
  | some text =>
      simp only [Target.fault, finished, Option.toList_some, List.map_singleton, drain_cons,
        doTask, raise_apply]

theorem followBy_eq (begun : Begun Target) (w : World Note (Exchange Target))
    (hbound : w.state.weight + begun.weight ≤ bound) :
    followBy act begun w = finished (drain begun.tasks) w := by
  obtain ⟨reply, none | dispatch⟩ := begun
  · simp only [followBy, Begun.tasks, finished, drain_nil]
    rfl
  · exact serveBy_eq hact dispatch.connection.target w hbound

end

/-- The recursion comes to an end as soon as its depth may be greater than the work
on the boards and the work of the step. -/
theorem performWithin_eq {depth : Nat} (step : Step Target) (w : World Note (Exchange Target))
    (hdepth : w.state.weight + Target.commandWeight step.command < depth) :
    performWithin depth step w = finished (perform step) w := by
  induction depth generalizing step w with
  | zero => omega
  | succ depth ih =>
      rw [performWithin, perform]
      refine bind_eq_finished rfl fun begun w' hstart => ?_
      -- The work of the target has left its board, so one level less is enough for it.
      have hweight := weight_of_start hstart
      exact bind_eq_finished (followBy_eq ih begun w' (by omega)) fun _ _ _ => rfl

theorem length_occurrence?_le (task : Task) (w : World Note (Exchange Target)) :
    (task.occurrence? w).toList.length ≤ task.weight := by
  cases task with
  | perform step =>
      rw [Task.weight, stepWeight_eq]
      exact Nat.le_add_left 1 _
  | report step reply => exact Nat.zero_le _
  | raise text => exact Nat.zero_le _

theorem length_occurrence?_le_one (task : Task) (w : World Note (Exchange Target)) :
    (task.occurrence? w).toList.length ≤ 1 := by
  cases task.occurrence? w with
  | none => exact Nat.zero_le _
  | some o => exact Nat.le_refl _

theorem length_occurrences_le (tasks : List Task) (w : World Note (Exchange Target)) :
    (occurrences tasks w).length ≤ w.state.weight + Task.total tasks := by
  induction tasks, w using agenda_induction with
  | nil w => simp [occurrences_nil]
  | error task tasks w fault w' hdo =>
      have htask := length_occurrence?_le task w
      rw [occurrences_cons_of_error hdo, Task.total_cons]
      omega
  | ok task tasks w more w' hdo ih =>
      have htask := length_occurrence?_le_one task w
      have hless := weight_of_doTask hdo
      rw [Task.total_append] at ih
      rw [occurrences_cons_of_ok hdo, List.length_append, Task.total_cons]
      omega

theorem length_occurrencesOf_le (step : Step Target) (w : World Note (Exchange Target)) :
    (occurrencesOf step w).length ≤
      w.state.weight + Target.commandWeight step.command + 1 := by
  rw [occurrencesOf, List.length_cons]
  cases hstart : start step w with
  | error fault w' => exact Nat.succ_le_succ (Nat.zero_le _)
  | ok begun w' =>
      have hweight := weight_of_start hstart
      have htasks := begun.total_tasks_le
      have := length_occurrences_le begun.tasks w'
      dsimp only
      omega

end Exchange

namespace Occurrence

def waiting (index : Nat) (exchange : Exchange Target) : Nat :=
  ((exchange.board? index).map Switchboard.pendingCount).getD 0

/-- Steps that follow each other connect no more targets of a board than waited on
it or were asked for in them. -/
theorem length_connectionsOn_le {exchange : Exchange Target} {os : List Occurrence}
    (h : Linked exchange os) (index : Nat) :
    (connectionsOn index os).length ≤ waiting index exchange + preparations index os := by
  have haccounts := accounts_of_linked h index
  rw [connectionsOn_eq, ← Switchboard.countP_isConnected]
  cases hboard : (leave exchange os).board? index with
  | none =>
      rw [hboard] at haccounts
      obtain ⟨-, hdeeds, -⟩ := haccounts
      rw [hdeeds]
      exact Nat.zero_le _
  | some board =>
      rw [hboard] at haccounts
      obtain ⟨hleads, hcount⟩ := haccounts
      have hconnected := hleads.countP_isConnected_le
      have hinserted := Switchboard.countP_isInserted_le (deedsOn index os)
      have hfirst : ((exchange.board? index).getD {}).pendingCount = waiting index exchange := by
        rw [waiting]
        cases exchange.board? index <;> rfl
      omega

/-- A step comes to an end, whatever waits on the boards: by recursion of any depth
greater than the work there, and of no more steps than that. It lets no more targets
of a board have their devices than waited there before, or were asked for in it. -/
theorem perform_comes_to_an_end (step : Step Target) (w : World Note (Exchange Target)) :
    (∀ depth, w.state.weight + Target.commandWeight step.command < depth →
      (performWithin depth step w).isSome ∧
        performWithin depth step w = finished (perform step) w) ∧
      (occurrencesOf step w).length ≤
        w.state.weight + Target.commandWeight step.command + 1 ∧
      startedIn (Journaled.after (perform step) w).journal.events =
        startedIn w.journal.events ++ (occurrencesOf step w).map Occurrence.step ∧
      invokedIn (Journaled.after (perform step) w).journal.events =
        invokedIn w.journal.events ++ (occurrencesOf step w).filterMap dispatch? ∧
      ∀ index, (connectionsOn index (occurrencesOf step w)).length ≤
        waiting index w.state + preparations index (occurrencesOf step w) := by
  have htraces := traces_perform step w
  refine ⟨?_, length_occurrencesOf_le step w, htraces.started, htraces.invoked, ?_⟩
  · intro depth hdepth
    have heq := performWithin_eq step w hdepth
    exact ⟨heq ▸ isSome_finished (perform step) w, heq⟩
  · exact length_connectionsOn_le htraces.linked

/-- Two targets that wait, each of which brings a device for the other and then
one for itself. -/
def twoInCycle : Exchange Target :=
  let connect (number : Nat) : Step Target := ⟨0, .connect ⟨.nth number, .input⟩ "loop"⟩
  leftBy {} (history perform {}
    [⟨⟨0, .prepare .input (.mk "first" [connect 2, connect 1] none)⟩, Sink.sound⟩,
      ⟨⟨0, .prepare .input (.mk "second" [connect 1, connect 2] none)⟩, Sink.sound⟩])

theorem twoInCycle_comes_to_an_end :
    let step : Step Target := ⟨0, .connect ⟨.nth 1, .input⟩ "keys"⟩
    waiting 0 twoInCycle = 2 ∧
      (performWithin 11 step ⟨twoInCycle, {}⟩).isSome ∧
      (connectionsOn 0 (occurrencesOf step ⟨twoInCycle, {}⟩)).length ≤ 2 ∧
      (occurrencesOf step ⟨twoInCycle, {}⟩).length = 5 := by
  intro step
  have hwaiting : waiting 0 twoInCycle = 2 := by decide +kernel
  have hnone : preparations 0 (occurrencesOf step ⟨twoInCycle, {}⟩) = 0 := by decide +kernel
  have hwork : twoInCycle.weight + Target.commandWeight step.command < 11 := by decide +kernel
  obtain ⟨hends, -, -, -, hconnections⟩ := perform_comes_to_an_end step ⟨twoInCycle, {}⟩
  have hle := hconnections 0
  rw [hwaiting, hnone] at hle
  refine ⟨hwaiting, (hends 11 hwork).1, hle, ?_⟩
  decide +kernel

end Occurrence

end MidiConsole
