import MidiConsole.Switchboard.Weight

/-!
A connected target gets its device at once and carries out its script before
the step that connected it returns. What is left to do is kept as an agenda of
tasks. A fault ends the whole agenda and takes nothing back.

The agenda always runs out, because a step that connects a target has taken the
target's work off the boards.
-/

namespace MidiConsole

open Journaled

/-- What can be seen of an exchange besides its log: steps that start, targets
that get a device, and the steps of targets that are done. -/
inductive Note where
  | started (step : Step Target)
  | invoked (dispatch : Dispatch Target)
  | completed (step : Step Target) (reply : Reply)

inductive Task where
  | perform (step : Step Target)
  | report (step : Step Target) (reply : Reply)
  | raise (text : String)

namespace Task

def weight : Task → Nat
  | perform step => Target.stepWeight step
  | report _ _ => 1
  | raise _ => 1

def total (tasks : List Task) : Nat :=
  tasks.foldr (fun task work => task.weight + work) 0

theorem total_nil : total [] = 0 :=
  rfl

theorem total_cons (task : Task) (tasks : List Task) :
    total (task :: tasks) = task.weight + total tasks :=
  rfl

theorem total_append (first second : List Task) :
    total (first ++ second) = total first + total second := by
  induction first with
  | nil => rw [List.nil_append, total_nil, Nat.zero_add]
  | cons task first ih => rw [List.cons_append, total_cons, total_cons, ih, Nat.add_assoc]

end Task

/-- What a target does when it has its device. -/
def Target.tasks (target : Target) : List Task :=
  target.script.map .perform ++ target.fault.toList.map .raise

theorem Target.total_perform (steps : List (Step Target)) :
    Task.total (steps.map .perform) = Target.scriptWeight steps := by
  induction steps with
  | nil => rfl
  | cons step steps ih =>
      rw [List.map_cons, Task.total_cons, ih, Target.scriptWeight]
      rfl

theorem Target.total_tasks_le (target : Target) :
    Task.total target.tasks ≤ target.weight := by
  obtain ⟨name, steps, fault⟩ := target
  rw [tasks, Task.total_append, total_perform]
  cases fault <;> simp [script, Target.fault, weight, Task.total, Task.weight]

namespace Exchange

abbrev Act (α : Type) : Type :=
  Journaled Note (Exchange Target) α

def Begun.tasks (begun : Begun Target) : List Task :=
  match begun.dispatch with
  | none => []
  | some dispatch => dispatch.connection.target.tasks

theorem Begun.total_tasks_le (begun : Begun Target) :
    Task.total begun.tasks ≤ begun.weight := by
  obtain ⟨reply, none | dispatch⟩ := begun
  · exact Nat.le_refl _
  · exact Target.total_tasks_le _

def announce (begun : Begun Target) : Act Unit :=
  match begun.dispatch with
  | none => pure ()
  | some dispatch => note (.invoked dispatch)

def start (step : Step Target) : Act (Begun Target) := do
  note (.started step)
  let begun ← begin step
  announce begun
  pure begun

theorem weight_of_start {step : Step Target} {w w' : World Note (Exchange Target)}
    {begun : Begun Target} (h : start step w = .ok begun w') :
    w'.state.weight + begun.weight ≤
      w.state.weight + Target.commandWeight step.command := by
  obtain ⟨_, u, hu, h⟩ := bind_eq_ok_iff.1 h
  obtain ⟨found, v, hv, h⟩ := bind_eq_ok_iff.1 h
  cases hu
  have := weight_of_begin hv
  obtain ⟨reply, none | dispatch⟩ := found <;> cases h <;> exact this

/-- Do one task, and give the tasks that come next because of it. -/
def doTask : Task → Act (List Task)
  | .perform step => do
      let begun ← start step
      pure (begun.tasks ++ [.report step begun.reply])
  | .report step reply => do
      note (.completed step reply)
      pure []
  | .raise text => raise text

theorem weight_of_doTask {task : Task} {w w' : World Note (Exchange Target)}
    {more : List Task} (h : doTask task w = .ok more w') :
    w'.state.weight + Task.total more < w.state.weight + task.weight := by
  cases task with
  | perform step =>
      obtain ⟨begun, v, hv, h⟩ := bind_eq_ok_iff.1 h
      cases h
      have hw := weight_of_start hv
      have ht := begun.total_tasks_le
      have hs : Target.stepWeight step = Target.commandWeight step.command + 2 := by
        cases step
        rfl
      simp only [Task.total_append, Task.total_cons, Task.total_nil, Task.weight]
      omega
  | report step reply =>
      cases h
      exact Nat.lt_succ_self _
  | raise text => cases h

/-- Do all tasks of an agenda. The tasks that follow from one come before the
rest. -/
def drain (tasks : List Task) : Act Unit :=
  fun w =>
    match tasks with
    | [] => .ok () w
    | task :: tasks =>
        match _h : doTask task w with
        | .error fault w' => .error fault w'
        | .ok more w' => drain (more ++ tasks) w'
termination_by w => w.state.weight + Task.total tasks
decreasing_by
  have := weight_of_doTask _h
  rw [Task.total_append, Task.total_cons]
  omega

@[simp] theorem drain_nil (w : World Note (Exchange Target)) : drain [] w = .ok () w := by
  rw [drain]

theorem drain_cons (task : Task) (tasks : List Task) (w : World Note (Exchange Target)) :
    drain (task :: tasks) w =
      match doTask task w with
      | .error fault w' => .error fault w'
      | .ok more w' => drain (more ++ tasks) w' := by
  rw [drain]
  split <;> simp [*]

theorem drain_append (first second : List Task) (w : World Note (Exchange Target)) :
    drain (first ++ second) w = (drain first >>= fun _ => drain second) w := by
  cases first with
  | nil => simp
  | cons task tasks =>
      rw [List.cons_append, drain_cons, bind_apply, drain_cons]
      cases hd : doTask task w with
      | error fault w' => rfl
      | ok more w' =>
          have ih := drain_append (more ++ tasks) second w'
          rw [List.append_assoc, bind_apply] at ih
          exact ih
termination_by w.state.weight + Task.total first
decreasing_by
  have := weight_of_doTask hd
  rw [Task.total_append, Task.total_cons]
  omega

/-- Carry out a step, and all that follows from it. -/
def perform (step : Step Target) : Act Reply := do
  let begun ← start step
  drain begun.tasks
  pure begun.reply

end Exchange

end MidiConsole
