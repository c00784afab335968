import MidiConsole.Proofs.Course
import MidiConsole.Switchboard.Exchange

namespace MidiConsole

open Journaled

variable {τ ν : Type}

namespace Switchboard

def prepareCourse (direction : Direction) (target : τ) (board : Switchboard τ) :
    Course (Switchboard τ) Relay where
  records := [(.preparing direction board.next, board.advance)]
  value := ⟨board.next, direction⟩
  final := board.advance.insert board.next ⟨direction, target⟩

def cancelCourse (handle : Handle) (board : Switchboard τ) : Course (Switchboard τ) Bool :=
  if board.isPending handle then
    { records := [(.cancelled handle, board.erase handle)]
      value := true
      final := board.erase handle }
  else { value := false, final := board }

/-- A device that is turned away leaves the board as it is. The request that a device
is for is gone before the notice of it. -/
def claimCourse (device : Device) (handle : Handle) (direction : Direction)
    (board : Switchboard τ) : Course (Switchboard τ) (Except OpenError (Connection τ)) :=
  match board.resolve handle direction with
  | .error error =>
      { records := [(error.notice direction, board)], value := .error error, final := board }
  | .ok request =>
      { records := [(.dispatching direction handle, board.erase handle)]
        value := .ok ⟨handle, direction, device, request.target⟩
        final := board.erase handle }

theorem follows_prepare (direction : Direction) (target : τ) (board : Switchboard τ) :
    Follows (prepare (ν := ν) direction target) board (prepareCourse direction target board) :=
  fun journal => prepare_apply direction target ⟨board, journal⟩

theorem follows_cancel (handle : Handle) (board : Switchboard τ) :
    Follows (cancel (ν := ν) handle) board (cancelCourse handle board) := by
  intro journal
  rw [cancelCourse]
  cases hpending : board.isPending handle with
  | false => exact cancel_of_not_isPending hpending
  | true => exact cancel_of_isPending hpending

theorem follows_claim (device : Device) (handle : Handle) (direction : Direction)
    (board : Switchboard τ) :
    Follows (claim (ν := ν) device handle direction) board
      (claimCourse device handle direction board) := by
  intro journal
  rw [claimCourse]
  cases hresolve : board.resolve handle direction with
  | error error => exact claim_of_resolve_error hresolve device
  | ok request => exact claim_of_resolve_ok hresolve device

theorem resolve_of_request?_eq_none {board : Switchboard τ} {handle : Handle}
    (hvalid : handle.isValid) (hnone : board.request? handle = none) (direction : Direction) :
    board.resolve handle direction = .error (.unknownHandle handle) := by
  rw [resolve, if_pos hvalid, hnone]

theorem claimCourse_of_request?_eq_none {board : Switchboard τ} {handle : Handle}
    (hvalid : handle.isValid) (hnone : board.request? handle = none) (device : Device)
    (direction : Direction) :
    board.claimCourse device handle direction =
      ⟨[(.unknownHandle handle, board)], .error (.unknownHandle handle), board⟩ := by
  rw [claimCourse, resolve_of_request?_eq_none hvalid hnone]
  rfl

theorem cancelCourse_of_request?_eq_none {board : Switchboard τ} {handle : Handle}
    (hnone : board.request? handle = none) : board.cancelCourse handle = ⟨[], false, board⟩ := by
  rw [cancelCourse, isPending, hnone]
  rfl

theorem claimCourse_of_request?_eq_some {board : Switchboard τ} {handle : Handle}
    {request : Request τ} (hvalid : handle.isValid) (hwaits : board.request? handle = some request)
    (device : Device) :
    board.claimCourse device handle request.direction =
      ⟨[(.dispatching request.direction handle, board.erase handle)],
        .ok ⟨handle, request.direction, device, request.target⟩, board.erase handle⟩ := by
  rw [claimCourse, resolve_eq_ok_iff.mpr ⟨hvalid, hwaits, rfl⟩]

end Switchboard

namespace Line

/-- A device is passed on to the board, and a failure is, if the line is one that
gives its request up. -/
def deliverCourse (line : Line) (board : Switchboard τ) :
    Option Device → Course (Switchboard τ) (Except OpenError (Connection τ))
  | some device =>
      (board.claimCourse device line.relay.handle line.relay.direction).following
        (.opened line.relay.direction line.relay.handle) board
  | none =>
      ((if line.cancelsOnFailure then board.cancelCourse line.relay.handle
        else { value := false, final := board }).map fun _ =>
          .error (.notOpened line.relay.handle line.relay.direction)).following
        (.openFailed line.relay.direction line.relay.handle) board

theorem follows_deliver (line : Line) (device : Option Device) (board : Switchboard τ) :
    Follows (line.deliver (ν := ν) device) board (line.deliverCourse board device) := by
  intro journal
  cases device with
  | some device =>
      rw [deliver_some_apply, Switchboard.follows_claim]
      rfl
  | none =>
      rw [deliver_none_apply, deliverCourse]
      cases line.cancelsOnFailure with
      | true =>
          have hcancel := (Switchboard.follows_cancel (ν := ν) line.relay.handle board).map fun _ =>
            (.error (.notOpened line.relay.handle line.relay.direction) :
              Except OpenError (Connection τ))
          exact congrArg (ite _ _) (hcancel _)
      | false => rfl

end Line

namespace Exchange

theorem setBoard_self {exchange : Exchange τ} {index : Nat} {board : Switchboard τ}
    (h : exchange.board? index = some board) : exchange.setBoard index board = exchange := by
  obtain ⟨hlt, rfl⟩ := List.getElem?_eq_some_iff.mp h
  rw [setBoard, List.set_getElem_self]

def quietCourse (reply : Reply) (s : Exchange τ) : Course (Exchange τ) (Begun τ) where
  value := ⟨reply, none⟩
  final := s

def cancelCourse (index : Nat) (board : Switchboard τ) (handle : Handle) (s : Exchange τ) :
    Course (Exchange τ) (Begun τ) :=
  ((board.cancelCourse handle).lift fun board => s.setBoard index board).map fun cancelled =>
    ⟨.flag cancelled, none⟩

def claimCourse (index : Nat) (board : Switchboard τ) (device : Device) (relay : Relay)
    (s : Exchange τ) : Course (Exchange τ) (Begun τ) :=
  ((board.claimCourse device relay.handle relay.direction).lift fun board =>
    s.setBoard index board).map (settle index)

def deliverCourse (line : Line) (device : Option Device) (s : Exchange τ) :
    Course (Exchange τ) (Begun τ) :=
  match s.board? line.board with
  | none => quietCourse .noBoard s
  | some board =>
      ((line.deliverCourse board device).lift fun board => s.setBoard line.board board).map
        (settle line.board)

def withLineCourse (number : Nat) (missing : Reply)
    (course : Line → Course (Exchange τ) (Begun τ)) (s : Exchange τ) :
    Course (Exchange τ) (Begun τ) :=
  match s.line? number with
  | none => quietCourse missing s
  | some line => course line

def courseOn (index : Nat) (board : Switchboard τ) (s : Exchange τ) :
    Command τ → Course (Exchange τ) (Begun τ)
  | .addBoard => quietCourse (.board s.boards.length) s.addBoard
  | .prepare direction target =>
      let prepared := board.prepareCourse direction target
      { records := [(.preparing direction board.next, s.setBoard index board.advance)]
        value := ⟨.prepared s.lines.length prepared.value, none⟩
        final := (s.setBoard index prepared.final).addLine ⟨index, prepared.value, true⟩ }
  | .addLine relay => quietCourse (.line s.lines.length) (s.addLine ⟨index, relay, false⟩)
  | .deliver number device => withLineCourse number .noLine (deliverCourse · device s) s
  | .connect relay device => claimCourse index board device relay s
  | .cancel handle => cancelCourse index board handle s
  | .cancelLine number =>
      withLineCourse number .noLine (fun line => cancelCourse index board line.relay.handle s) s
  | .count => quietCourse (.count board.pendingCount) s
  | .inspect spread =>
      quietCourse (.text (if spread then board.inspect.spread else board.inspect.compact)) s
  | .describeLine number =>
      withLineCourse number .noLine (fun line => quietCourse (.relay line.relay) s) s
  | .inspectLine number =>
      withLineCourse number .noLine (fun line =>
        match s.board? line.board with
        | none => quietCourse .noBoard s
        | some board => quietCourse (.text (line.inspect board).compact) s) s
  | .cloneLine number =>
      withLineCourse number .noLine (fun line =>
        if line.cancelsOnFailure then quietCourse .notClonable s
        else quietCourse (.line s.lines.length) (s.addLine line)) s
  | .dropLine number =>
      withLineCourse number (.flag false)
        (fun _ => quietCourse (.flag true) (s.dropLine number)) s

def course (step : Step τ) (s : Exchange τ) : Course (Exchange τ) (Begun τ) :=
  match s.board? step.board with
  | none => quietCourse .noBoard s
  | some board => courseOn step.board board s step.command

theorem follows_onBoard {α : Type} {act : Journaled ν (Switchboard τ) α}
    {board : Switchboard τ} {course : Course (Switchboard τ) α} (hact : Follows act board course)
    (index : Nat) (s : Exchange τ) :
    Follows (onBoard index board act) s (course.lift fun board => s.setBoard index board) :=
  Follows.within hact

theorem follows_openLine (line : Line) (answer : Nat → Reply) (s : Exchange τ) :
    Follows (openLine (ν := ν) line answer) s
      (quietCourse (answer s.lines.length) (s.addLine line)) :=
  fun _ => rfl

theorem follows_withLine {act : Line → Journaled ν (Exchange τ) (Begun τ)}
    {course : Line → Course (Exchange τ) (Begun τ)} {s : Exchange τ}
    (hact : ∀ line, Follows (act line) s (course line)) (number : Nat) (missing : Reply) :
    Follows (withLine number missing act) s (withLineCourse number missing course s) := by
  intro journal
  rw [withLineCourse]
  cases hline : s.line? number with
  | none => exact withLine_of_line?_eq_none (w := ⟨s, journal⟩) hline missing act
  | some line =>
      rw [withLine_of_line?_eq_some (w := ⟨s, journal⟩) hline]
      exact hact line journal

theorem follows_cancelOnBoard (index : Nat) (board : Switchboard τ) (handle : Handle)
    (s : Exchange τ) :
    Follows (ν := ν) (do
      let cancelled ← onBoard index board (Switchboard.cancel handle)
      pure ⟨.flag cancelled, none⟩) s (cancelCourse index board handle s) := by
  rw [bind_pure_comp]
  exact .map _ (follows_onBoard (Switchboard.follows_cancel handle board) index s)

theorem follows_deliver (line : Line) (device : Option Device) (s : Exchange τ) :
    Follows (deliver (ν := ν) line device) s (deliverCourse line device s) := by
  intro journal
  rw [deliverCourse]
  cases hboard : s.board? line.board with
  | none => exact deliver_of_board?_eq_none (w := ⟨s, journal⟩) hboard device
  | some board =>
      rw [deliver_of_board?_eq_some (w := ⟨s, journal⟩) hboard]
      exact (follows_onBoard (line.follows_deliver device board) line.board s).map _ journal

theorem follows_inspectLine (line : Line) (s : Exchange τ) :
    Follows (inspectLine (ν := ν) line) s
      (match s.board? line.board with
        | none => quietCourse .noBoard s
        | some board => quietCourse (.text (line.inspect board).compact) s) := by
  intro journal
  simp only [inspectLine, bind_apply, reading_apply]
  cases s.board? line.board <;> rfl

theorem follows_beginOn (index : Nat) (board : Switchboard τ) (s : Exchange τ)
    (command : Command τ) :
    Follows (beginOn (ν := ν) index board command) s (courseOn index board s command) := by
  cases command with
  | prepare direction target =>
      exact .bind (fun relay => openLine ⟨index, relay, true⟩ fun line => .prepared line relay)
        (follows_onBoard (Switchboard.follows_prepare direction target board) index s)
        (follows_openLine _ _ _)
  | deliver number device =>
      exact follows_withLine (fun line => follows_deliver line device s) number .noLine
  | connect relay device =>
      exact .map _ (follows_onBoard (Switchboard.follows_claim device _ _ board) index s)
  | cancel handle => exact follows_cancelOnBoard index board handle s
  | cancelLine number =>
      exact follows_withLine (fun line => follows_cancelOnBoard index board _ s) number .noLine
  | describeLine number => exact follows_withLine (fun _ _ => rfl) number .noLine
  | inspectLine number =>
      exact follows_withLine (fun line => follows_inspectLine line s) number .noLine
  | cloneLine number =>
      refine follows_withLine (fun line journal => ?_) number .noLine
      cases line.cancelsOnFailure <;> rfl
  | dropLine number => exact follows_withLine (fun _ _ => rfl) number (.flag false)
  | addBoard | addLine relay | count | inspect spread => exact fun _ => rfl

theorem follows_begin (step : Step τ) (s : Exchange τ) :
    Follows (begin (ν := ν) step) s (course step s) := by
  intro journal
  rw [course]
  cases hboard : s.board? step.board with
  | none => exact begin_of_board?_eq_none (w := ⟨s, journal⟩) hboard
  | some board =>
      rw [begin_of_board?_eq_some (w := ⟨s, journal⟩) hboard]
      exact follows_beginOn step.board board s step.command journal

section

variable {P : Exchange τ → Prop} {s : Exchange τ}

theorem keeps_quietCourse (hs : P s) (reply : Reply) : (quietCourse reply s).Keeps P :=
  ⟨fun _ hrecord => absurd hrecord List.not_mem_nil, hs⟩

theorem keeps_withLineCourse {course : Line → Course (Exchange τ) (Begun τ)} (hs : P s)
    (hcourse : ∀ line, (course line).Keeps P) (number : Nat) (missing : Reply) :
    (withLineCourse number missing course s).Keeps P := by
  rw [withLineCourse]
  cases s.line? number with
  | none => exact keeps_quietCourse hs missing
  | some line => exact hcourse line

variable (hset : ∀ index board, P (s.setBoard index board))

include hset

theorem keeps_cancelCourse (index : Nat) (board : Switchboard τ) (handle : Handle) :
    (cancelCourse index board handle s).Keeps P :=
  (Course.keeps_lift (hset index) _).map _

theorem keeps_claimCourse (index : Nat) (board : Switchboard τ) (device : Device)
    (relay : Relay) : (claimCourse index board device relay s).Keeps P :=
  (Course.keeps_lift (hset index) _).map _

theorem keeps_deliverCourse (hs : P s) (line : Line) (device : Option Device) :
    (deliverCourse line device s).Keeps P := by
  rw [deliverCourse]
  cases s.board? line.board with
  | none => exact keeps_quietCourse hs .noBoard
  | some board => exact (Course.keeps_lift (hset line.board) _).map _

end

end Exchange

end MidiConsole
