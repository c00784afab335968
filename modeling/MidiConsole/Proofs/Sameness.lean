import Mathlib.Data.Set.Basic
import MidiConsole.Proofs.Agreement
import MidiConsole.Proofs.Chronicle
import MidiConsole.Proofs.Tally

namespace MidiConsole

open Journaled

variable {τ ν : Type} {handles : Set Handle}

namespace Switchboard

/-- Boards with the same next handle, and with the same requests under some handles. -/
structure SameOn (handles : Set Handle) (board board' : Switchboard τ) : Prop where
  next_eq : board.next = board'.next
  request?_eq : ∀ handle ∈ handles, board.request? handle = board'.request? handle
  nodup : (board.pending.map Prod.fst).Nodup
  nodup' : (board'.pending.map Prod.fst).Nodup

namespace SameOn

variable {board board' : Switchboard τ}

theorem refl (h : (board.pending.map Prod.fst).Nodup) : board.SameOn handles board :=
  ⟨rfl, fun _ _ => rfl, h, h⟩

theorem advance (h : board.SameOn handles board') :
    board.advance.SameOn handles board'.advance where
  next_eq := congrArg Handle.next h.next_eq
  request?_eq := h.request?_eq
  nodup := h.nodup
  nodup' := h.nodup'

theorem erase (h : board.SameOn handles board') (erased : Handle) :
    (board.erase erased).SameOn handles (board'.erase erased) where
  next_eq := h.next_eq
  request?_eq handle hmem := by
    by_cases heq : handle = erased
    · subst heq
      rw [request?_erase_self, request?_erase_self]
    · rw [request?_erase_of_ne heq, request?_erase_of_ne heq, h.request?_eq handle hmem]
  nodup := nodup_pending_erase h.nodup erased
  nodup' := nodup_pending_erase h.nodup' erased

theorem insert (h : board.SameOn handles board') (inserted : Handle) (request : Request τ) :
    (board.insert inserted request).SameOn handles (board'.insert inserted request) where
  next_eq := h.next_eq
  request?_eq handle hmem := by
    by_cases heq : handle = inserted
    · subst heq
      rw [request?_insert_self, request?_insert_self]
    · rw [request?_insert_of_ne heq, request?_insert_of_ne heq, h.request?_eq handle hmem]
  nodup := nodup_pending_insert h.nodup inserted request
  nodup' := nodup_pending_insert h.nodup' inserted request

theorem erase_left (h : board.SameOn handles board') {erased : Handle}
    (hnot : erased ∉ handles) : (board.erase erased).SameOn handles board' where
  next_eq := h.next_eq
  request?_eq handle hmem := by
    have hne : handle ≠ erased := by
      rintro rfl
      exact hnot hmem
    rw [request?_erase_of_ne hne, h.request?_eq handle hmem]
  nodup := nodup_pending_erase h.nodup erased
  nodup' := h.nodup'

theorem isPending_eq (h : board.SameOn handles board') {handle : Handle}
    (hmem : handle ∈ handles) : board.isPending handle = board'.isPending handle := by
  rw [isPending, isPending, h.request?_eq handle hmem]

theorem resolve_eq (h : board.SameOn handles board') {handle : Handle} (hmem : handle ∈ handles)
    (direction : Direction) : board.resolve handle direction = board'.resolve handle direction := by
  rw [resolve, resolve, h.request?_eq handle hmem]

theorem mem_pending_iff (board : Switchboard τ) (handle : Handle) :
    handle ∈ board.pending.map Prod.fst ↔ board.isPending handle := by
  rw [isPending, request?, List.lookup_isSome_iff, List.mem_map]
  constructor
  · rintro ⟨entry, hmem, rfl⟩
    exact ⟨entry, hmem, beq_self_eq_true _⟩
  · rintro ⟨entry, hmem, heq⟩
    exact ⟨entry, hmem, (eq_of_beq heq).symm⟩

theorem pendingCount_eq (h : board.SameOn Set.univ board') :
    board.pendingCount = board'.pendingCount := by
  have hperm : (board.pending.map Prod.fst).Perm (board'.pending.map Prod.fst) := by
    refine (List.perm_ext_iff_of_nodup h.nodup h.nodup').mpr fun handle => ?_
    rw [mem_pending_iff, mem_pending_iff, h.isPending_eq (Set.mem_univ handle)]
  have hlength := hperm.length_eq
  rwa [List.length_map, List.length_map] at hlength

theorem inspect_eq (h : board.SameOn Set.univ board') : board.inspect = board'.inspect := by
  rw [inspect, inspect, h.next_eq, h.pendingCount_eq]

end SameOn

section

variable {board board' : Switchboard τ}

theorem agree_prepare (h : board.SameOn handles board') (direction : Direction) (target : τ) :
    Agree (ν := ν) (SameOn handles) board board' (prepare direction target)
      (prepare direction target) := by
  refine .bind_reading h.next_eq ?_
  refine .bind (.update h.advance) fun _ board board' h => ?_
  refine .bind (.log h _) fun _ board board' h => ?_
  exact .bind (.update (h.insert _ _)) fun _ board board' h => .pure h _

theorem agree_cancel (h : board.SameOn handles board') {handle : Handle}
    (hmem : handle ∈ handles) :
    Agree (ν := ν) (SameOn handles) board board' (cancel handle) (cancel handle) := by
  refine .bind_reading (h.isPending_eq hmem) ?_
  cases board.isPending handle with
  | false => exact .pure h false
  | true =>
      refine .bind (.update (h.erase handle)) fun _ board board' h => ?_
      exact .bind (.log h _) fun _ board board' h => .pure h true

theorem agree_claim (h : board.SameOn handles board') (device : Device) {handle : Handle}
    (hmem : handle ∈ handles) (direction : Direction) :
    Agree (ν := ν) (SameOn handles) board board' (claim device handle direction)
      (claim device handle direction) := by
  refine .bind_reading (h.resolve_eq hmem direction) ?_
  cases board.resolve handle direction with
  | error error => exact .bind (.log h _) fun _ board board' h => .pure h _
  | ok request =>
      refine .bind (.update (h.erase handle)) fun _ board board' h => ?_
      exact .bind (.log h _) fun _ board board' h => .pure h _

end

end Switchboard

theorem Line.agree_deliver {board board' : Switchboard τ} (h : board.SameOn handles board')
    (line : Line) (hmem : line.relay.handle ∈ handles) (device : Option Device) :
    Agree (ν := ν) (Switchboard.SameOn handles) board board' (line.deliver device)
      (line.deliver device) := by
  intro journal
  cases device with
  | some device =>
      rw [deliver_some_apply, deliver_some_apply]
      dsimp only
      split
      · exact .error .sink _ h
      · exact Switchboard.agree_claim h device hmem line.relay.direction _
  | none =>
      rw [deliver_none_apply, deliver_none_apply]
      dsimp only
      split
      · exact .error .sink _ h
      · refine Agree.map _ ?_ _
        cases line.cancelsOnFailure with
        | true => exact Switchboard.agree_cancel h hmem
        | false => exact .pure h false

def Command.counts : Command τ → Bool
  | .count | .inspect _ | .inspectLine _ => true
  | _ => false

namespace Exchange

/-- The handle that a step is for, if it is for one that has been handed out. -/
def subject? (s : Exchange τ) : Command τ → Option Handle
  | .connect relay _ => some relay.handle
  | .cancel handle => some handle
  | .deliver number _ | .cancelLine number => (s.line? number).map fun line => line.relay.handle
  | _ => none

structure LooksOnlyAt (handles : Set Handle) (s : Exchange τ) (command : Command τ) : Prop where
  mem_of_subject : ∀ handle, s.subject? command = some handle → handle ∈ handles
  eq_univ_of_counts : command.counts → handles = Set.univ

theorem looksOnlyAt_univ (s : Exchange τ) (command : Command τ) :
    s.LooksOnlyAt Set.univ command :=
  ⟨fun handle _ => Set.mem_univ handle, fun _ => rfl⟩

/-- Exchanges with the same lines and with boards that are the same on some handles. -/
structure SameOn (handles : Set Handle) (s s' : Exchange τ) : Prop where
  lines_eq : s.lines = s'.lines
  boards : List.Forall₂ (Switchboard.SameOn handles) s.boards s'.boards

namespace SameOn

variable {s s' : Exchange τ}

theorem board?_cases (h : s.SameOn handles s') (index : Nat) :
    (s.board? index = none ∧ s'.board? index = none) ∨
      ∃ board board', s.board? index = some board ∧ s'.board? index = some board' ∧
        board.SameOn handles board' := by
  obtain ⟨boards, lines⟩ := s
  obtain ⟨boards', lines'⟩ := s'
  have hboards : List.Forall₂ (Switchboard.SameOn handles) boards boards' := h.boards
  clear h
  simp only [board?]
  induction hboards generalizing index with
  | nil => exact Or.inl ⟨rfl, rfl⟩
  | @cons board board' boards boards' h _ ih =>
      cases index with
      | zero => exact Or.inr ⟨board, board', rfl, rfl, h⟩
      | succ index => exact ih index

theorem setBoard (h : s.SameOn handles s') {board board' : Switchboard τ}
    (hboard : board.SameOn handles board') (index : Nat) :
    (s.setBoard index board).SameOn handles (s'.setBoard index board') where
  lines_eq := h.lines_eq
  boards := by
    obtain ⟨boards, lines⟩ := s
    obtain ⟨boards', lines'⟩ := s'
    have hboards : List.Forall₂ (Switchboard.SameOn handles) boards boards' := h.boards
    clear h
    simp only [Exchange.setBoard]
    induction hboards generalizing index with
    | nil => exact .nil
    | cons h hrest ih =>
        cases index with
        | zero => exact .cons hboard hrest
        | succ index => exact .cons h (ih index)

theorem line?_eq (h : s.SameOn handles s') (number : Nat) : s.line? number = s'.line? number := by
  rw [line?, line?, h.lines_eq]

theorem addLine (h : s.SameOn handles s') (line : Line) :
    (s.addLine line).SameOn handles (s'.addLine line) where
  lines_eq := congrArg (· ++ [some line]) h.lines_eq
  boards := h.boards

theorem dropLine (h : s.SameOn handles s') (number : Nat) :
    (s.dropLine number).SameOn handles (s'.dropLine number) where
  lines_eq := congrArg (List.set · number none) h.lines_eq
  boards := h.boards

theorem addBoard (h : s.SameOn handles s') : s.addBoard.SameOn handles s'.addBoard where
  lines_eq := h.lines_eq
  boards := List.rel_append h.boards (.cons (.refl List.nodup_nil) .nil)

end SameOn

section

variable {s s' : Exchange τ}

theorem agree_onBoard {α : Type} {board board' : Switchboard τ}
    {act : Journaled ν (Switchboard τ) α} (h : s.SameOn handles s')
    (hact : Agree (Switchboard.SameOn handles) board board' act act) (index : Nat) :
    Agree (SameOn handles) s s' (onBoard index board act) (onBoard index board' act) :=
  .within hact fun _ _ hboard => h.setBoard hboard index

theorem agree_openLine (h : s.SameOn handles s') (line : Line) (answer : Nat → Reply) :
    Agree (ν := ν) (SameOn handles) s s' (openLine line answer) (openLine line answer) := by
  refine .bind_reading (congrArg List.length h.lines_eq) ?_
  exact .bind (.update (h.addLine line)) fun _ _ _ h => .pure h _

theorem agree_withLine (h : s.SameOn handles s') {number : Nat}
    {act act' : Line → Journaled ν (Exchange τ) (Begun τ)}
    (hact : ∀ line, s.line? number = some line → Agree (SameOn handles) s s' (act line) (act' line))
    (missing : Reply) :
    Agree (SameOn handles) s s' (withLine number missing act) (withLine number missing act') := by
  refine .bind_reading (h.line?_eq number) ?_
  cases hline : s.line? number with
  | none => exact .pure h _
  | some line => exact hact line hline

theorem agree_deliver (h : s.SameOn handles s') (line : Line)
    (hmem : line.relay.handle ∈ handles) (device : Option Device) :
    Agree (ν := ν) (SameOn handles) s s' (deliver line device) (deliver line device) := by
  intro journal
  rcases h.board?_cases line.board with ⟨hnone, hnone'⟩ | ⟨board, board', hboard, hboard', hsame⟩
  · rw [deliver_of_board?_eq_none (w := ⟨s, journal⟩) hnone,
      deliver_of_board?_eq_none (w := ⟨s', journal⟩) hnone']
    exact .ok _ journal h
  · rw [deliver_of_board?_eq_some (w := ⟨s, journal⟩) hboard,
      deliver_of_board?_eq_some (w := ⟨s', journal⟩) hboard']
    exact Agree.map _ (agree_onBoard h (line.agree_deliver hsame hmem device) line.board) journal

theorem agree_inspectLine (h : s.SameOn Set.univ s') (line : Line) :
    Agree (ν := ν) (SameOn Set.univ) s s' (inspectLine line) (inspectLine line) := by
  intro journal
  simp only [inspectLine, bind_apply, reading_apply]
  rcases h.board?_cases line.board with ⟨hnone, hnone'⟩ | ⟨board, board', hboard, hboard', hsame⟩
  · rw [hnone, hnone']
    exact .ok _ journal h
  · simp only [hboard, hboard', Line.inspect, hsame.inspect_eq]
    exact .ok _ journal h

theorem agree_cancelOnBoard {board board' : Switchboard τ} (h : s.SameOn handles s')
    (hboard : board.SameOn handles board') {handle : Handle} (hmem : handle ∈ handles)
    (index : Nat) :
    Agree (ν := ν) (SameOn handles) s s'
      (do
        let cancelled ← onBoard index board (Switchboard.cancel handle)
        pure (⟨.flag cancelled, none⟩ : Begun τ))
      (do
        let cancelled ← onBoard index board' (Switchboard.cancel handle)
        pure ⟨.flag cancelled, none⟩) :=
  .bind (agree_onBoard h (Switchboard.agree_cancel hboard hmem) index) fun _ _ _ h => .pure h _

theorem agree_beginOn {board board' : Switchboard τ} (h : s.SameOn handles s')
    (hboard : board.SameOn handles board') {command : Command τ}
    (hlooks : s.LooksOnlyAt handles command) (index : Nat) :
    Agree (ν := ν) (SameOn handles) s s' (beginOn index board command)
      (beginOn index board' command) := by
  obtain ⟨hmem, hcounts⟩ := hlooks
  cases command with
  | addBoard =>
      refine .bind_reading h.boards.length_eq ?_
      exact .bind (.update h.addBoard) fun _ _ _ h => .pure h _
  | prepare direction target =>
      refine .bind (agree_onBoard h (Switchboard.agree_prepare hboard direction target) index) ?_
      exact fun relay _ _ h => agree_openLine h _ _
  | addLine relay => exact agree_openLine h _ _
  | deliver number device =>
      refine agree_withLine h (fun line hline => ?_) _
      exact agree_deliver h line (hmem _ (by rw [subject?, hline]; rfl)) device
  | connect relay device =>
      exact .map _ (agree_onBoard h (Switchboard.agree_claim hboard device (hmem _ rfl) _) index)
  | cancel handle => exact agree_cancelOnBoard h hboard (hmem _ rfl) index
  | cancelLine number =>
      refine agree_withLine h (fun line hline => ?_) _
      exact agree_cancelOnBoard h hboard (hmem _ (by rw [subject?, hline]; rfl)) index
  | count =>
      obtain rfl := hcounts rfl
      rw [beginOn, beginOn, hboard.pendingCount_eq]
      exact .pure h _
  | inspect spread =>
      obtain rfl := hcounts rfl
      rw [beginOn, beginOn, hboard.inspect_eq]
      exact .pure h _
  | describeLine number => exact agree_withLine h (fun _ _ => .pure h _) _
  | inspectLine number =>
      obtain rfl := hcounts rfl
      exact agree_withLine h (fun line _ => agree_inspectLine h line) _
  | cloneLine number =>
      refine agree_withLine h (fun line _ => ?_) _
      cases line.cancelsOnFailure with
      | true => exact .pure h _
      | false => exact agree_openLine h _ _
  | dropLine number =>
      refine agree_withLine h (fun _ _ => ?_) _
      exact .bind (.update (h.dropLine number)) fun _ _ _ h => .pure h _

/-- A step that looks at the requests of some handles only comes to the same on exchanges
that are the same on these. -/
theorem agree_begin (h : s.SameOn handles s') {step : Step τ}
    (hlooks : s.LooksOnlyAt handles step.command) :
    Agree (ν := ν) (SameOn handles) s s' (begin step) (begin step) := by
  intro journal
  rcases h.board?_cases step.board with ⟨hnone, hnone'⟩ | ⟨board, board', hboard, hboard', hsame⟩
  · rw [begin_of_board?_eq_none (w := ⟨s, journal⟩) hnone,
      begin_of_board?_eq_none (w := ⟨s', journal⟩) hnone']
    exact .ok _ journal h
  · rw [begin_of_board?_eq_some (w := ⟨s, journal⟩) hboard,
      begin_of_board?_eq_some (w := ⟨s', journal⟩) hboard']
    exact agree_beginOn h hsame hlooks step.board journal

end

section

variable {s s' : Exchange Target}

theorem agree_announce (h : s.SameOn handles s') (begun : Begun Target) :
    Agree (SameOn handles) s s' (announce begun) (announce begun) := by
  rw [announce]
  split
  · exact .pure h ()
  · exact .note h _

theorem agree_start (h : s.SameOn handles s') {step : Step Target}
    (hlooks : s.LooksOnlyAt handles step.command) :
    Agree (SameOn handles) s s' (start step) (start step) := by
  refine .bind_note _ (.bind (agree_begin h hlooks) fun begun t t' h => ?_)
  exact .bind (agree_announce h begun) fun _ _ _ h => .pure h begun

theorem agree_doTask (h : s.SameOn Set.univ s') (task : Task) :
    Agree (SameOn Set.univ) s s' (doTask task) (doTask task) := by
  cases task with
  | perform step =>
      exact .bind (agree_start h (s.looksOnlyAt_univ _)) fun _ _ _ h => .pure h _
  | report step reply => exact .bind_note _ (.pure h [])
  | raise text => exact .raise h text

theorem agree_drain (h : s.SameOn Set.univ s') (tasks : List Task) :
    Agree (SameOn Set.univ) s s' (drain tasks) (drain tasks) := by
  intro journal
  generalize hw : World.mk s journal = w
  induction tasks, w using agenda_induction generalizing s s' journal with
  | nil w =>
      rw [drain_nil, drain_nil, ← hw]
      exact .ok () journal h
  | error task tasks w fault v htask =>
      subst hw
      have hagree := agree_doTask h task journal
      rw [drain_cons, drain_cons]
      rw [htask] at hagree ⊢
      generalize doTask task ⟨s', journal⟩ = result' at hagree ⊢
      cases hagree with
      | error fault journal' h => exact .error fault journal' h
  | ok task tasks w more v htask ih =>
      subst hw
      have hagree := agree_doTask h task journal
      rw [drain_cons, drain_cons]
      rw [htask] at hagree ⊢
      generalize doTask task ⟨s', journal⟩ = result' at hagree ⊢
      cases hagree with
      | ok more journal' h => exact ih h journal' rfl

theorem agree_perform (h : s.SameOn Set.univ s') (step : Step Target) :
    Agree (SameOn Set.univ) s s' (perform step) (perform step) := by
  refine .bind (agree_start h (s.looksOnlyAt_univ _)) fun begun _ _ h => ?_
  exact .bind (agree_drain h begun.tasks) fun _ _ _ h => .pure h _

end

end Exchange

end MidiConsole
