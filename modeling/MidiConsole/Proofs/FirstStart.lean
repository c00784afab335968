import MidiConsole.Engine.Basic

namespace MidiConsole

open Journaled

namespace Engine

variable {ν : Type}

theorem start_of_none (config : EngineConfig) {w : World ν EngineRoom}
    (h : w.state.engine = none) :
    start config w =
      let engine : Engine := ⟨w.state.made, config⟩
      let w' : World ν EngineRoom :=
        ⟨⟨w.state.made + 1, some engine⟩, w.journal.write (.started config)⟩
      if w.journal.fails (.started config) then .error .sink w' else .ok engine w' := by
  simp only [start, make, bind_apply, reading_apply, h, update_apply, pure_apply, log_apply]
  cases w.journal.fails (.started config) <;> rfl

theorem start_of_some (config : EngineConfig) {w : World ν EngineRoom} {engine : Engine}
    (h : w.state.engine = some engine) :
    start config w =
      let notice := Notice.configIgnored engine.config config
      if engine.config = config then .ok engine w
      else if w.journal.fails notice then .error .sink ⟨w.state, w.journal.write notice⟩
      else .ok engine ⟨w.state, w.journal.write notice⟩ := by
  simp only [start, bind_apply, reading_apply, h]
  split
  · rfl
  · simp only [bind_apply, log_apply]
    cases w.journal.fails (.configIgnored engine.config config) <;> rfl

end Engine

namespace EngineSession

def configOf? : Command → Option EngineConfig
  | .start config => some config
  | _ => none

/-- The configuration of the first start among some calls, whether or not it returns. -/
def firstConfig? (calls : List (Call Command)) : Option EngineConfig :=
  calls.findSome? fun call => configOf? call.command

theorem configOf?_eq_some_iff {command : Command} {config : EngineConfig} :
    configOf? command = some config ↔ command = .start config := by
  cases command <;> simp [configOf?]

theorem firstConfig?_append (calls others : List (Call Command)) :
    firstConfig? (calls ++ others) = (firstConfig? calls).or (firstConfig? others) :=
  List.findSome?_append

theorem firstConfig?_concat (calls : List (Call Command)) (call : Call Command) :
    firstConfig? (calls ++ [call]) = (firstConfig? calls).or (configOf? call.command) := by
  rw [firstConfig?_append, firstConfig?, firstConfig?, List.findSome?_singleton]

/-- What a start writes to the log. The first one writes that there is an engine now. A
later one writes that its configuration is ignored, if it is another one than the first. -/
def noticesOf : Option EngineConfig → EngineConfig → List Notice
  | none, config => [.started config]
  | some first, config => if first = config then [] else [.configIgnored first config]

/-- The room of the one engine of a run, which is there from the first start on. -/
def roomAfter (one : Engine) (past : List (Call Command)) : EngineRoom :=
  if (firstConfig? past).isSome then { made := 1, engine := some one } else {}

structure LeftBy (one : Engine) (past : List (Call Command)) (session : EngineSession) : Prop where
  room_eq : session.room = roomAfter one past
  first_eq : ∀ engine ∈ session.first, engine = one

/-- What comes of a call after some others, in a run with one engine. A start gives this
engine unless the log fails at what it writes, and the room is the same in either case. -/
structure Goes (one : Engine) (past : List (Call Command)) (call : Call Command)
    (outcome : Outcome Empty EngineSession Reply) : Prop where
  room_eq : outcome.state.room = roomAfter one (past ++ [call])
  get : call.command = .get →
    outcome.events = [] ∧
      outcome.result = .ok (.engine (if (firstConfig? past).isSome then some one else none))
  start : ∀ config, call.command = .start config →
    let notices := noticesOf (firstConfig? past) config
    outcome.events = notices.map .logged ∧
      outcome.result =
        if notices.any (call.sink []) then .error .sink else .ok (.started one true)

variable {one : Engine} {past : List (Call Command)} {session : EngineSession}

theorem roomAfter_of_none (h : firstConfig? past = none) : roomAfter one past = {} := by
  rw [roomAfter, h]
  rfl

theorem roomAfter_of_some {config : EngineConfig} (h : firstConfig? past = some config) :
    roomAfter one past = { made := 1, engine := some one } := by
  rw [roomAfter, h]
  rfl

def started (one : Engine) (notices : List Notice) (room : EngineRoom) (sink : Sink) :
    EStateM.Result Fault (World Empty EngineRoom) Engine :=
  let w : World Empty EngineRoom := ⟨room, ⟨sink, notices.map .logged⟩⟩
  if notices.any (sink []) then .error .sink w else .ok one w

theorem started_nil (room : EngineRoom) (sink : Sink) :
    started one [] room sink = .ok one ⟨room, { sink }⟩ :=
  rfl

theorem started_singleton (notice : Notice) (room : EngineRoom) (sink : Sink) :
    let journal : Journal Empty := { sink }
    started one [notice] room sink =
      if journal.fails notice then .error .sink ⟨room, journal.write notice⟩
      else .ok one ⟨room, journal.write notice⟩ := by
  simp only [started, List.any_cons, List.any_nil, Bool.or_false]
  rfl

theorem start_roomAfter {config : EngineConfig} {sink : Sink}
    (hone : ∀ first, firstConfig? (past ++ [⟨.start config, sink⟩]) = some first →
      one = ⟨0, first⟩) :
    Engine.start config ⟨roomAfter one past, { sink }⟩ =
      started one (noticesOf (firstConfig? past) config)
        (roomAfter one (past ++ [⟨.start config, sink⟩])) sink := by
  have hafter := firstConfig?_concat past ⟨.start config, sink⟩
  cases hpast : firstConfig? past with
  | none =>
      rw [hpast, Option.none_or] at hafter
      obtain rfl := hone config hafter
      rw [roomAfter_of_none hpast, roomAfter_of_some hafter, Engine.start_of_none config rfl,
        noticesOf, started_singleton]
  | some first =>
      rw [hpast, Option.some_or] at hafter
      obtain rfl := hone first hafter
      rw [roomAfter_of_some hpast, roomAfter_of_some hafter, Engine.start_of_some config rfl,
        noticesOf]
      by_cases hconfig : first = config
      · rw [if_pos hconfig, if_pos hconfig, started_nil]
      · rw [if_neg hconfig, if_neg hconfig, started_singleton]

theorem engine_roomAfter :
    (roomAfter one past).engine = if (firstConfig? past).isSome then some one else none := by
  rw [roomAfter]
  split <;> rfl

theorem start_apply (config : EngineConfig) (w : World Empty EngineSession) :
    start config w =
      match Engine.start config ⟨w.state.room, w.journal⟩ with
      | .ok engine v =>
          let first := w.state.first.getD engine
          .ok (.started engine (engine = first)) ⟨⟨v.state, some first⟩, v.journal⟩
      | .error fault v => .error fault ⟨⟨v.state, w.state.first⟩, v.journal⟩ := by
  simp only [start, bind_apply, Journaled.within]
  cases Engine.start config ⟨w.state.room, w.journal⟩ <;> rfl

theorem attempt_start {config : EngineConfig} {sink : Sink} {notices : List Notice}
    {room : EngineRoom} (hfirst : ∀ engine ∈ session.first, engine = one)
    (hstart : Engine.start config ⟨session.room, { sink }⟩ = started one notices room sink) :
    let outcome := attempt (perform (.start config)) sink session
    outcome.events = notices.map .logged ∧
      outcome.result =
        (if notices.any (sink []) then .error .sink else .ok (.started one true)) ∧
      outcome.state.room = room ∧ ∀ engine ∈ outcome.state.first, engine = one := by
  rw [attempt, perform, start_apply, hstart, started]
  cases notices.any (sink []) with
  | true => exact ⟨rfl, rfl, rfl, hfirst⟩
  | false =>
      -- The engine is compared with the one that was given first, or with itself.
      have hgiven : session.first.getD one = one := by
        cases hsession : session.first with
        | none => rfl
        | some engine => exact hfirst engine hsession
      have hsame : decide (one = session.first.getD one) = true := decide_eq_true hgiven.symm
      refine ⟨rfl, ?_, rfl, fun engine hengine => ?_⟩
      · exact congrArg (fun same => Except.ok (Reply.started one same)) hsame
      · exact (Option.some.inj hengine).symm.trans hgiven

theorem state_of_configOf?_eq_none {command : Command} (h : configOf? command = none)
    (sink : Sink) (session : EngineSession) :
    (attempt (perform command) sink session).state = session := by
  cases command with
  | start config => cases h
  | _ => rfl

theorem roomAfter_concat_of_none {call : Call Command} (h : configOf? call.command = none) :
    roomAfter one (past ++ [call]) = roomAfter one past := by
  rw [roomAfter, firstConfig?_concat, h, Option.or_none, roomAfter]

theorem LeftBy.goes {call : Call Command}
    (hone : ∀ first, firstConfig? (past ++ [call]) = some first → one = ⟨0, first⟩)
    (hleft : LeftBy one past session) :
    let outcome := attempt (perform call.command) call.sink session
    Goes one past call outcome ∧ LeftBy one (past ++ [call]) outcome.state := by
  intro outcome
  obtain ⟨command, sink⟩ := call
  cases hconfig : configOf? command with
  | none =>
      have hstate : outcome.state = session := state_of_configOf?_eq_none hconfig sink session
      have hroom : session.room = roomAfter one (past ++ [⟨command, sink⟩]) :=
        hleft.room_eq.trans (roomAfter_concat_of_none hconfig).symm
      refine ⟨⟨hstate ▸ hroom, ?_, ?_⟩, hstate ▸ ⟨hroom, hleft.first_eq⟩⟩
      · rintro rfl
        rw [← engine_roomAfter, ← hleft.room_eq]
        exact ⟨rfl, rfl⟩
      · rintro config rfl
        cases hconfig
  | some config =>
      obtain rfl := configOf?_eq_some_iff.mp hconfig
      have hstart := start_roomAfter hone
      rw [← hleft.room_eq] at hstart
      obtain ⟨hevents, hresult, hroom, hfirst⟩ := attempt_start hleft.first_eq hstart
      refine ⟨⟨hroom, by rintro ⟨⟩, ?_⟩, hroom, hfirst⟩
      rintro _ ⟨⟩
      exact ⟨hevents, hresult⟩

theorem goes_history {calls : List (Call Command)}
    (hone : ∀ first, firstConfig? (past ++ calls) = some first → one = ⟨0, first⟩)
    (hleft : LeftBy one past session) {k : Nat} {call : Call Command}
    (hcall : calls[k]? = some call) :
    ∃ outcome, (history perform session calls)[k]? = some outcome ∧
      Goes one (past ++ calls.take k) call outcome := by
  -- With each call that has gone, the past grows and the engine stays the one of the whole run.
  induction calls generalizing past session k with
  | nil => cases hcall
  | cons first calls ih =>
      have hnext : past ++ first :: calls = past ++ [first] ++ calls := List.append_cons _ _ _
      have honeFirst : ∀ config, firstConfig? (past ++ [first]) = some config →
          one = ⟨0, config⟩ := by
        intro config hconfig
        refine hone config ?_
        rw [hnext, firstConfig?_append, hconfig, Option.some_or]
      obtain ⟨hgoes, hleft⟩ := hleft.goes honeFirst
      rcases k with _ | k
      · obtain rfl : first = call := Option.some.inj hcall
        refine ⟨_, rfl, ?_⟩
        rw [List.take_zero, List.append_nil]
        exact hgoes
      · rw [hnext] at hone
        rw [List.take_succ_cons, List.append_cons]
        exact ih hone hleft hcall

/-- The first start wins. A run has one engine, with the configuration of its first start,
and no other one is made. It is there for every call after that start, and every start that
returns gives it. The first start alone writes that there is an engine; a later one writes
just that its configuration is ignored, if it is another one. Nothing of this depends on
where the log fails, but for the starts that do not return. -/
theorem first_start_wins (calls : List (Call Command)) :
    (∃ one : Engine, (∀ config, firstConfig? calls = some config → one.config = config) ∧
      ∀ k call, calls[k]? = some call →
        ∃ outcome, (history perform {} calls)[k]? = some outcome ∧
          Goes one (calls.take k) call outcome) ∧
      (∀ config, (Notice.started config).level = .info) ∧
      ∀ first config, (Notice.configIgnored first config).level = .debug := by
  refine ⟨⟨⟨0, (firstConfig? calls).getD {}⟩, ?_, ?_⟩, fun _ => rfl, fun _ _ => rfl⟩
  · intro config hconfig
    rw [hconfig, Option.getD_some]
  · intro k call hcall
    have hleft : LeftBy ⟨0, (firstConfig? calls).getD {}⟩ [] {} :=
      ⟨rfl, fun engine hengine => by cases hengine⟩
    refine goes_history ?_ hleft hcall
    intro config hconfig
    rw [List.nil_append] at hconfig
    rw [hconfig, Option.getD_some]

def brokenStartsRun : List (Call Command) :=
  [⟨.get, Sink.sound⟩,
    ⟨.start { clientName := "keys" }, Sink.failingAt (some .info)⟩,
    ⟨.start {}, Sink.failingAt (some .debug)⟩,
    ⟨.start { clientName := "keys" }, Sink.sound⟩,
    ⟨.get, Sink.sound⟩]

theorem engine_of_brokenStartsRun :
    ∃ one : Engine, one.clientName = "keys" ∧
      (∃ outcome, (history perform {} brokenStartsRun)[3]? = some outcome ∧
        outcome.events = [] ∧ outcome.result = .ok (.started one true)) ∧
      ∃ outcome, (history perform {} brokenStartsRun)[4]? = some outcome ∧
        outcome.result = .ok (.engine (some one)) := by
  obtain ⟨⟨one, hconfig, hgoes⟩, -⟩ := first_start_wins brokenStartsRun
  obtain ⟨started, hstarted, hthird⟩ := hgoes 3 _ rfl
  obtain ⟨got, hgot, hfourth⟩ := hgoes 4 _ rfl
  exact ⟨one, congrArg EngineConfig.clientName (hconfig _ rfl),
    ⟨started, hstarted, hthird.start _ rfl⟩, got, hgot, (hfourth.get rfl).2⟩

end EngineSession

end MidiConsole
