import MidiConsole.Switchboard.Exchange

namespace MidiConsole

open Journaled

variable {τ τ' : Type}

def Request.map (f : τ → τ') (request : Request τ) : Request τ' :=
  ⟨request.direction, f request.target⟩

def Connection.map (f : τ → τ') (connection : Connection τ) : Connection τ' :=
  ⟨connection.handle, connection.direction, connection.device, f connection.target⟩

def Switchboard.map (f : τ → τ') (board : Switchboard τ) : Switchboard τ' :=
  { next := board.next
    pending := board.pending.map fun entry => (entry.1, entry.2.map f) }

def Command.map (f : τ → τ') : Command τ → Command τ'
  | .addBoard => .addBoard
  | .prepare direction target => .prepare direction (f target)
  | .addLine relay => .addLine relay
  | .deliver line device => .deliver line device
  | .connect relay device => .connect relay device
  | .cancel handle => .cancel handle
  | .cancelLine line => .cancelLine line
  | .count => .count
  | .inspect spread => .inspect spread
  | .describeLine line => .describeLine line
  | .inspectLine line => .inspectLine line
  | .cloneLine line => .cloneLine line
  | .dropLine line => .dropLine line

def Step.map (f : τ → τ') (step : Step τ) : Step τ' :=
  ⟨step.board, step.command.map f⟩

def Dispatch.map (f : τ → τ') (dispatch : Dispatch τ) : Dispatch τ' :=
  ⟨dispatch.board, dispatch.connection.map f⟩

namespace Exchange

def map (f : τ → τ') (exchange : Exchange τ) : Exchange τ' :=
  { boards := exchange.boards.map (Switchboard.map f)
    lines := exchange.lines }

def Begun.map (f : τ → τ') (begun : Begun τ) : Begun τ' :=
  ⟨begun.reply, begun.dispatch.map (Dispatch.map f)⟩

end Exchange

namespace Journaled

variable {ν σ σ' ρ ρ' α α' β β' : Type}

/-- An action mirrors another if, unless the log of the other fails, both return,
with values and states that correspond to each other, and log the same notices.
The log of the mirroring action never fails. -/
def Mirrors (f : σ → σ') (g : α → α') (act : Journaled ν σ α) (act' : Journaled ν σ' α') :
    Prop :=
  ∀ s journal journal', journal'.sink = Sink.sound →
    (∃ w, act ⟨s, journal⟩ = .error .sink w) ∨
      ∃ a t, ∃ notices : List Notice,
        act ⟨s, journal⟩ =
            .ok a ⟨t, { journal with events := journal.events ++ notices.map .logged }⟩ ∧
          act' ⟨f s, journal'⟩ = .ok (g a)
            ⟨f t, { journal' with events := journal'.events ++ notices.map .logged }⟩

namespace Mirrors

variable {f : σ → σ'} {g : α → α'} {k : β → β'}

theorem of_quiet {act : Journaled ν σ α} {act' : Journaled ν σ' α'}
    (h : ∀ s journal journal', ∃ a t, act ⟨s, journal⟩ = .ok a ⟨t, journal⟩ ∧
      act' ⟨f s, journal'⟩ = .ok (g a) ⟨f t, journal'⟩) : Mirrors f g act act' := by
  intro s journal journal' _
  obtain ⟨a, t, hact, hact'⟩ := h s journal journal'
  refine Or.inr ⟨a, t, [], ?_, ?_⟩
  · simpa using hact
  · simpa using hact'

theorem pure {a : α} {a' : α'} (h : g a = a') :
    Mirrors (ν := ν) f g (Pure.pure a) (Pure.pure a') :=
  of_quiet fun s _ _ => ⟨a, s, rfl, by rw [h]; rfl⟩

theorem reading {read : σ → α} {read' : σ' → α'} (h : ∀ s, g (read s) = read' (f s)) :
    Mirrors (ν := ν) f g (reading read) (reading read') :=
  of_quiet fun s _ _ => ⟨read s, s, rfl, by rw [h]; rfl⟩

theorem update {change : σ → σ} {change' : σ' → σ'} (h : ∀ s, f (change s) = change' (f s)) :
    Mirrors (ν := ν) f id (update change) (update change') :=
  of_quiet fun s _ _ => ⟨(), change s, rfl, by rw [h]; rfl⟩

theorem log (notice : Notice) : Mirrors (ν := ν) f id (log notice) (log notice) := by
  intro s journal journal' hsound
  by_cases hfails : journal.fails notice
  · exact Or.inl ⟨_, by rw [log_apply, if_pos hfails]⟩
  · refine Or.inr ⟨(), s, [notice], ?_, ?_⟩
    · rw [log_apply, if_neg hfails]
      rfl
    · rw [log_apply, if_neg (by simp [Journal.fails, hsound, Sink.sound])]
      rfl

theorem bind {act : Journaled ν σ α} {act' : Journaled ν σ' α'}
    {next : α → Journaled ν σ β} {next' : α' → Journaled ν σ' β'}
    (hact : Mirrors f g act act') (hnext : ∀ a, Mirrors f k (next a) (next' (g a))) :
    Mirrors f k (act >>= next) (act' >>= next') := by
  intro s journal journal' hsound
  rcases hact s journal journal' hsound with ⟨w, h⟩ | ⟨a, t, first, hfirst, hfirst'⟩
  · exact Or.inl ⟨w, by rw [bind_apply, h]⟩
  rcases hnext a t { journal with events := journal.events ++ first.map .logged }
    { journal' with events := journal'.events ++ first.map .logged } hsound with
    ⟨w, h⟩ | ⟨b, u, second, hsecond, hsecond'⟩
  · exact Or.inl ⟨w, by rw [bind_apply, hfirst]; exact h⟩
  · refine Or.inr ⟨b, u, first ++ second, ?_, ?_⟩
    · rw [bind_apply, hfirst, List.map_append, ← List.append_assoc]
      exact hsecond
    · rw [bind_apply, hfirst', List.map_append, ← List.append_assoc]
      exact hsecond'

theorem map {act : Journaled ν σ α} {act' : Journaled ν σ' α'} {u : α → β} {u' : α' → β'}
    (hact : Mirrors f g act act') (h : ∀ a, k (u a) = u' (g a)) :
    Mirrors f k (u <$> act) (u' <$> act') := by
  intro s journal journal' hsound
  rcases hact s journal journal' hsound with ⟨w, heq⟩ | ⟨a, t, notices, heq, heq'⟩
  · exact Or.inl ⟨w, by rw [map_apply, heq]⟩
  · refine Or.inr ⟨u a, t, notices, ?_, ?_⟩
    · rw [map_apply, heq]
    · rw [map_apply, heq', h]

theorem within {act : Journaled ν ρ α} {act' : Journaled ν ρ' α'} {p : ρ → ρ'}
    {part : σ → ρ} {part' : σ' → ρ'} {put : ρ → σ → σ} {put' : ρ' → σ' → σ'}
    (hact : Mirrors p g act act') (hpart : ∀ s, p (part s) = part' (f s))
    (hput : ∀ r s, f (put r s) = put' (p r) (f s)) :
    Mirrors f g (within part put act) (within part' put' act') := by
  intro s journal journal' hsound
  rcases hact (part s) journal journal' hsound with ⟨w, heq⟩ | ⟨a, r, notices, heq, heq'⟩
  · exact Or.inl ⟨⟨put w.state s, w.journal⟩, by simp only [Journaled.within, heq]⟩
  · refine Or.inr ⟨a, put r s, notices, ?_, ?_⟩
    · simp only [Journaled.within, heq]
    · simp only [Journaled.within, ← hpart, heq', hput]

end Mirrors

end Journaled

namespace Switchboard

variable {ν : Type} (f : τ → τ')

@[simp] theorem request?_map (board : Switchboard τ) (handle : Handle) :
    (board.map f).request? handle = (board.request? handle).map (Request.map f) := by
  obtain ⟨next, pending⟩ := board
  induction pending with
  | nil => rfl
  | cons entry entries ih =>
      change List.lookup handle ((entry.1, entry.2.map f) :: _) = _
      rw [request?, List.lookup_cons, List.lookup_cons]
      split
      · rfl
      · exact ih

@[simp] theorem isPending_map (board : Switchboard τ) (handle : Handle) :
    (board.map f).isPending handle = board.isPending handle := by
  rw [isPending, request?_map, Option.isSome_map, isPending]

@[simp] theorem pendingCount_map (board : Switchboard τ) :
    (board.map f).pendingCount = board.pendingCount :=
  List.length_map ..

@[simp] theorem inspect_map (board : Switchboard τ) : (board.map f).inspect = board.inspect := by
  rw [inspect, pendingCount_map]
  rfl

theorem map_erase (board : Switchboard τ) (handle : Handle) :
    (board.erase handle).map f = (board.map f).erase handle := by
  simp only [erase, map, List.filter_map]
  rfl

theorem map_insert (board : Switchboard τ) (handle : Handle) (request : Request τ) :
    (board.insert handle request).map f = (board.map f).insert handle (request.map f) := by
  simp only [insert, ← map_erase]
  rfl

theorem map_resolve (board : Switchboard τ) (handle : Handle) (direction : Direction) :
    (board.resolve handle direction).map (Request.map f) =
      (board.map f).resolve handle direction := by
  rw [resolve, resolve, request?_map]
  split
  · cases board.request? handle with
    | none => rfl
    | some request =>
        by_cases h : request.direction = direction
        · simp [Request.map, h, Except.map]
        · simp [Request.map, h, Except.map]
  · rfl

theorem mirrors_prepare (direction : Direction) (target : τ) :
    Mirrors (ν := ν) (map f) id (prepare direction target) (prepare direction (f target)) := by
  refine .bind (g := id) (.reading fun _ => rfl) fun handle => ?_
  refine .bind (.update fun _ => rfl) fun _ => .bind (.log _) fun _ => ?_
  refine .bind (.update fun board => ?_) fun _ => .pure rfl
  exact map_insert f board handle ⟨direction, target⟩

theorem mirrors_cancel (handle : Handle) :
    Mirrors (ν := ν) (map f) id (cancel handle) (cancel handle) := by
  refine .bind (g := id) (.reading fun board => ?_) fun found => ?_
  · exact (isPending_map f board handle).symm
  · cases found with
    | false => exact .pure rfl
    | true =>
        refine .bind (.update fun board => ?_) fun _ => .bind (.log _) fun _ => .pure rfl
        exact map_erase f board handle

theorem mirrors_claim (device : Device) (handle : Handle) (direction : Direction) :
    Mirrors (ν := ν) (map f) (Except.map (Connection.map f)) (claim device handle direction)
      (claim device handle direction) := by
  refine .bind (.reading fun board => map_resolve f board handle direction) fun found => ?_
  cases found with
  | error error => exact .bind (.log _) fun _ => .pure rfl
  | ok request =>
      refine .bind (.update fun board => ?_) fun _ => .bind (.log _) fun _ => .pure rfl
      exact map_erase f board handle

end Switchboard

namespace Line

variable {ν : Type} (f : τ → τ')

theorem mirrors_deliver (line : Line) (device : Option Device) :
    Mirrors (ν := ν) (Switchboard.map f) (Except.map (Connection.map f)) (line.deliver device)
      (line.deliver device) := by
  refine .bind (g := Except.map (Connection.map f)) ?_ fun result => ?_
  · cases device with
    | none => exact .bind (.log _) fun _ => .pure rfl
    | some device => exact .bind (.log _) fun _ => Switchboard.mirrors_claim f device _ _
  · cases result with
    | ok connection => exact .pure rfl
    | error error =>
        cases error with
        | notOpened handle direction =>
            cases hcancels : line.cancelsOnFailure with
            | false => exact .pure rfl
            | true => exact .bind (Switchboard.mirrors_cancel f handle) fun _ => .pure rfl
        | invalidHandle handle => exact .pure rfl
        | unknownHandle handle => exact .pure rfl
        | directionMismatch handle expected actual => exact .pure rfl

end Line

namespace Exchange

variable {ν α α' : Type} (f : τ → τ')

@[simp] theorem board?_map (exchange : Exchange τ) (index : Nat) :
    (exchange.map f).board? index = (exchange.board? index).map (Switchboard.map f) :=
  List.getElem?_map ..

theorem map_setBoard (index : Nat) (board : Switchboard τ) (exchange : Exchange τ) :
    (exchange.setBoard index board).map f = (exchange.map f).setBoard index (board.map f) := by
  simp only [setBoard, map, List.map_set]

theorem map_addBoard (exchange : Exchange τ) :
    exchange.addBoard.map f = (exchange.map f).addBoard := by
  simp only [addBoard, map, List.map_append]
  rfl

variable {f}

theorem mirrors_onBoard {g : α → α'} {act : Journaled ν (Switchboard τ) α}
    {act' : Journaled ν (Switchboard τ') α'} (hact : Mirrors (Switchboard.map f) g act act')
    (index : Nat) (board : Switchboard τ) :
    Mirrors (map f) g (onBoard index board act) (onBoard index (board.map f) act') :=
  .within hact (fun _ => rfl) (map_setBoard f index)

theorem mirrors_openLine (line : Line) (answer : Nat → Reply) :
    Mirrors (ν := ν) (map f) (Begun.map f) (openLine line answer) (openLine line answer) := by
  refine .bind (.reading (g := id) fun _ => rfl) fun _ => ?_
  exact .bind (.update fun _ => rfl) fun _ => .pure rfl

theorem mirrors_withLine {act : Line → Journaled ν (Exchange τ) (Begun τ)}
    {act' : Line → Journaled ν (Exchange τ') (Begun τ')}
    (hact : ∀ line, Mirrors (map f) (Begun.map f) (act line) (act' line)) (index : Nat)
    (missing : Reply) :
    Mirrors (map f) (Begun.map f) (withLine index missing act) (withLine index missing act') := by
  refine .bind (g := id) (.reading fun _ => rfl) fun found => ?_
  cases found with
  | none => exact .pure rfl
  | some line => exact hact line

variable (f)

theorem map_settle (index : Nat) (result : Except OpenError (Connection τ)) :
    (settle index result).map f = settle index (result.map (Connection.map f)) := by
  cases result <;> rfl

theorem mirrors_deliver (line : Line) (device : Option Device) :
    Mirrors (ν := ν) (map f) (Begun.map f) (deliver line device) (deliver line device) := by
  refine .bind (.reading fun exchange => (board?_map f exchange line.board).symm) fun found => ?_
  cases found with
  | none => exact .pure rfl
  | some board =>
      exact .map (mirrors_onBoard (line.mirrors_deliver f device) line.board board)
        (map_settle f line.board)

theorem mirrors_inspectLine (line : Line) :
    Mirrors (ν := ν) (map f) (Begun.map f) (inspectLine line) (inspectLine line) := by
  refine .bind (.reading fun exchange => (board?_map f exchange line.board).symm) fun found => ?_
  cases found with
  | none => exact .pure rfl
  | some board =>
      refine .pure ?_
      simp [Begun.map, Line.inspect]

theorem mirrors_cancelOnBoard (index : Nat) (board : Switchboard τ) (handle : Handle) :
    Mirrors (ν := ν) (map f) (Begun.map f)
      (do
        let cancelled ← onBoard index board (Switchboard.cancel handle)
        pure ⟨.flag cancelled, none⟩)
      (do
        let cancelled ← onBoard index (board.map f) (Switchboard.cancel handle)
        pure ⟨.flag cancelled, none⟩) :=
  .bind (mirrors_onBoard (Switchboard.mirrors_cancel f handle) index board) fun _ => .pure rfl

theorem mirrors_beginOn (index : Nat) (board : Switchboard τ) (command : Command τ) :
    Mirrors (ν := ν) (map f) (Begun.map f) (beginOn index board command)
      (beginOn index (board.map f) (command.map f)) := by
  cases command with
  | addBoard =>
      refine .bind (g := id) (.reading fun exchange => ?_) fun _ => ?_
      · exact (List.length_map ..).symm
      · exact .bind (.update (map_addBoard f)) fun _ => .pure rfl
  | prepare direction target =>
      refine .bind (g := id) ?_ fun _ => mirrors_openLine _ _
      exact mirrors_onBoard (Switchboard.mirrors_prepare f direction target) index board
  | addLine relay => exact mirrors_openLine _ _
  | deliver line device => exact mirrors_withLine (fun line => mirrors_deliver f line device) _ _
  | connect relay device =>
      exact .map (mirrors_onBoard (Switchboard.mirrors_claim f device _ _) index board)
        (map_settle f index)
  | cancel handle => exact mirrors_cancelOnBoard f index board handle
  | cancelLine line =>
      exact mirrors_withLine (fun line => mirrors_cancelOnBoard f index board _) _ _
  | count => exact .pure (by simp [Begun.map])
  | inspect spread => exact .pure (by simp [Begun.map])
  | describeLine line =>
      refine mirrors_withLine (fun line => ?_) _ _
      exact .pure rfl
  | inspectLine line => exact mirrors_withLine (mirrors_inspectLine f) _ _
  | cloneLine line =>
      refine mirrors_withLine (fun line => ?_) _ _
      cases line.cancelsOnFailure with
      | true => exact .pure rfl
      | false => exact mirrors_openLine _ _
  | dropLine line =>
      refine mirrors_withLine (fun _ => ?_) _ _
      exact .bind (.update fun _ => rfl) fun _ => .pure rfl

theorem mirrors_begin (step : Step τ) :
    Mirrors (ν := ν) (map f) (Begun.map f) (begin step) (begin (step.map f)) := by
  refine .bind (.reading fun exchange => (board?_map f exchange step.board).symm) fun found => ?_
  cases found with
  | none => exact .pure rfl
  | some board => exact mirrors_beginOn f step.board board step.command

end Exchange

end MidiConsole
