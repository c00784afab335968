import MidiConsole.Switchboard.Target

namespace MidiConsole

open Journaled

variable {ν : Type}

def Connection.foundWeight : Except OpenError (Connection Target) → Nat
  | .ok connection => connection.target.weight
  | .error _ => 0

namespace Switchboard

def weight (board : Switchboard Target) : Nat :=
  board.pending.foldr (fun entry work => entry.2.target.weight + work) 0

theorem weight_mk_cons (next : Handle) (entry : Handle × Request Target)
    (entries : List (Handle × Request Target)) :
    weight ⟨next, entry :: entries⟩ = entry.2.target.weight + weight ⟨next, entries⟩ :=
  rfl

theorem weight_erase_le (handle : Handle) (board : Switchboard Target) :
    (board.erase handle).weight ≤ board.weight := by
  obtain ⟨next, pending⟩ := board
  induction pending with
  | nil => exact Nat.le_refl _
  | cons entry entries ih =>
      by_cases hk : entry.1 = handle
      · subst hk
        rw [erase_cons_self, weight_mk_cons]
        omega
      · rw [erase_cons_of_ne hk, weight_mk_cons, weight_mk_cons]
        exact Nat.add_le_add_left ih _

theorem weight_insert_le (handle : Handle) (request : Request Target)
    (board : Switchboard Target) :
    (board.insert handle request).weight ≤ board.weight + request.target.weight := by
  have h := board.weight_erase_le handle
  simp only [weight, insert, List.foldr_cons] at h ⊢
  omega

theorem weight_erase_add_le {handle : Handle} {board : Switchboard Target}
    {request : Request Target} (h : board.request? handle = some request) :
    (board.erase handle).weight + request.target.weight ≤ board.weight := by
  obtain ⟨next, pending⟩ := board
  induction pending with
  | nil => simp [request?] at h
  | cons entry entries ih =>
      obtain ⟨key, waiting⟩ := entry
      by_cases hk : key = handle
      · subst hk
        obtain rfl : waiting = request := by simpa [request?] using h
        have := weight_erase_le key ⟨next, entries⟩
        simp only [erase_cons_self, weight_mk_cons]
        omega
      · have hne : (handle == key) = false := by simpa using fun e => hk e.symm
        have := ih (by simpa [request?, List.lookup_cons, hne] using h)
        rw [erase_cons_of_ne hk, weight_mk_cons, weight_mk_cons, Nat.add_assoc]
        exact Nat.add_le_add_left this _

theorem weight_of_prepare {direction : Direction} {target : Target}
    {w w' : World ν (Switchboard Target)} {relay : Relay}
    (h : prepare direction target w = .ok relay w') :
    w'.state.weight ≤ w.state.weight + target.weight := by
  rw [prepare_apply] at h
  split at h
  · cases h
  · cases h
    exact weight_insert_le _ _ _

theorem weight_of_cancel {handle : Handle} {w w' : World ν (Switchboard Target)} {found : Bool}
    (h : cancel handle w = .ok found w') : w'.state.weight ≤ w.state.weight := by
  cases hp : w.state.isPending handle with
  | false =>
      rw [cancel_of_not_isPending hp] at h
      cases h
      exact Nat.le_refl _
  | true =>
      rw [cancel_of_isPending hp] at h
      split at h
      · cases h
      · cases h
        exact weight_erase_le _ _

theorem weight_of_claim {device : Device} {handle : Handle} {direction : Direction}
    {w w' : World ν (Switchboard Target)} {result : Except OpenError (Connection Target)}
    (h : claim device handle direction w = .ok result w') :
    w'.state.weight + Connection.foundWeight result ≤ w.state.weight := by
  cases hr : w.state.resolve handle direction with
  | error error =>
      rw [claim_of_resolve_error hr] at h
      split at h
      · cases h
      · cases h
        exact Nat.le_refl _
  | ok request =>
      rw [claim_of_resolve_ok hr] at h
      split at h
      · cases h
      · cases h
        exact weight_erase_add_le (resolve_eq_ok_iff.1 hr).2.1

end Switchboard

namespace Line

theorem weight_of_deliver {line : Line} {device : Option Device}
    {w w' : World ν (Switchboard Target)} {result : Except OpenError (Connection Target)}
    (h : line.deliver device w = .ok result w') :
    w'.state.weight + Connection.foundWeight result ≤ w.state.weight := by
  obtain ⟨found, v, hf, h⟩ := bind_eq_ok_iff.1 h
  have hv : v.state.weight + Connection.foundWeight found ≤ w.state.weight := by
    cases device with
    | none =>
        obtain ⟨_, u, hl, hu⟩ := bind_eq_ok_iff.1 hf
        cases hu
        rw [state_of_log_eq_ok hl]
        exact Nat.le_refl _
    | some device =>
        obtain ⟨_, u, hl, hu⟩ := bind_eq_ok_iff.1 hf
        have := Switchboard.weight_of_claim hu
        rwa [state_of_log_eq_ok hl] at this
  split at h
  · split at h
    · obtain ⟨_, u, hc, hu⟩ := bind_eq_ok_iff.1 h
      cases hu
      have := Switchboard.weight_of_cancel hc
      exact Nat.le_trans (Nat.add_le_add_right this _) hv
    · cases h
      exact hv
  · cases h
    exact hv

end Line

namespace Exchange

def weight (exchange : Exchange Target) : Nat :=
  exchange.boards.foldr (fun board work => board.weight + work) 0

theorem weight_setBoard {exchange : Exchange Target} {index : Nat}
    {board : Switchboard Target} (h : exchange.board? index = some board)
    (board' : Switchboard Target) :
    (exchange.setBoard index board').weight + board.weight =
      exchange.weight + board'.weight := by
  obtain ⟨boards, lines⟩ := exchange
  simp only [board?, setBoard, weight] at h ⊢
  induction boards generalizing index with
  | nil => simp at h
  | cons first rest ih =>
      cases index with
      | zero =>
          obtain rfl : first = board := by simpa using h
          simp
          omega
      | succ index =>
          have := ih (by simpa using h)
          simp only [List.set_cons_succ, List.foldr_cons]
          omega

def Begun.weight (begun : Begun Target) : Nat :=
  match begun.dispatch with
  | none => 0
  | some dispatch => dispatch.connection.target.weight

theorem weight_of_onBoard {α : Type} {index : Nat} {board : Switchboard Target}
    {act : Journaled ν (Switchboard Target) α} {w w' : World ν (Exchange Target)} {a : α}
    (hb : w.state.board? index = some board)
    (h : onBoard index board act w = .ok a w') :
    ∃ v, act ⟨board, w.journal⟩ = .ok a v ∧
      w'.state.weight + board.weight = w.state.weight + v.state.weight := by
  obtain ⟨v, hv, rfl⟩ := within_eq_ok_iff.1 h
  exact ⟨v, hv, weight_setBoard hb _⟩

theorem weight_settle (board : Nat) (found : Except OpenError (Connection Target)) :
    Begun.weight (settle board found) = Connection.foundWeight found := by
  cases found <;> rfl

theorem weight_of_openLine {line : Line} {answer : Nat → Reply}
    {w w' : World ν (Exchange Target)} {begun : Begun Target}
    (h : openLine line answer w = .ok begun w') :
    w'.state.weight + begun.weight = w.state.weight := by
  simp [openLine] at h
  obtain ⟨rfl, rfl⟩ := h
  rfl

theorem weight_of_withLine {index : Nat} {missing : Reply}
    {act : Line → Journaled ν (Exchange Target) (Begun Target)}
    {w w' : World ν (Exchange Target)} {begun : Begun Target}
    (h : withLine index missing act w = .ok begun w')
    (hact : ∀ line, act line w = .ok begun w' →
      w'.state.weight + begun.weight ≤ w.state.weight) :
    w'.state.weight + begun.weight ≤ w.state.weight := by
  cases hl : w.state.line? index with
  | none =>
      rw [withLine_of_line?_eq_none hl] at h
      cases h
      exact Nat.le_refl _
  | some line =>
      rw [withLine_of_line?_eq_some hl] at h
      exact hact line h

theorem weight_of_cancelOnBoard {index : Nat} {board : Switchboard Target} {handle : Handle}
    {w w' : World ν (Exchange Target)} {begun : Begun Target}
    (hb : w.state.board? index = some board)
    (h : (do
      let cancelled ← onBoard index board (Switchboard.cancel handle)
      pure ⟨.flag cancelled, none⟩ : Journaled ν (Exchange Target) (Begun Target)) w =
        .ok begun w') :
    w'.state.weight + begun.weight ≤ w.state.weight := by
  obtain ⟨found, v, hv, h⟩ := bind_eq_ok_iff.1 h
  cases h
  obtain ⟨u, hu, hw⟩ := weight_of_onBoard hb hv
  have := Switchboard.weight_of_cancel hu
  simp only [Begun.weight] at *
  omega

theorem weight_of_settle {index : Nat} {board : Switchboard Target}
    {act : Journaled ν (Switchboard Target) (Except OpenError (Connection Target))}
    {w w' : World ν (Exchange Target)} {begun : Begun Target}
    (hb : w.state.board? index = some board)
    (hact : ∀ {v found v'}, act v = .ok found v' →
      v'.state.weight + Connection.foundWeight found ≤ v.state.weight)
    (h : (settle index <$> onBoard index board act) w = .ok begun w') :
    w'.state.weight + begun.weight ≤ w.state.weight := by
  rw [map_apply] at h
  cases ho : onBoard index board act w with
  | error fault v => simp [ho] at h
  | ok found v =>
      simp only [ho, EStateM.Result.ok.injEq] at h
      obtain ⟨rfl, rfl⟩ := h
      obtain ⟨u, hu, hw⟩ := weight_of_onBoard hb ho
      have := hact hu
      rw [weight_settle]
      dsimp only at this
      omega

theorem weight_of_deliver {line : Line} {device : Option Device}
    {w w' : World ν (Exchange Target)} {begun : Begun Target}
    (h : deliver line device w = .ok begun w') :
    w'.state.weight + begun.weight ≤ w.state.weight := by
  cases hb : w.state.board? line.board with
  | none =>
      rw [deliver_of_board?_eq_none hb] at h
      cases h
      exact Nat.le_refl _
  | some board =>
      rw [deliver_of_board?_eq_some hb] at h
      exact weight_of_settle hb Line.weight_of_deliver h

/-- Beginning a step adds no work but that of a prepared target. -/
theorem weight_of_begin {step : Step Target} {w w' : World ν (Exchange Target)}
    {begun : Begun Target} (h : begin step w = .ok begun w') :
    w'.state.weight + begun.weight ≤
      w.state.weight + Target.commandWeight step.command := by
  obtain ⟨index, command⟩ := step
  cases hb : w.state.board? index with
  | none =>
      rw [begin_of_board?_eq_none hb] at h
      cases h
      exact Nat.le_add_right _ _
  | some board =>
      rw [begin_of_board?_eq_some hb] at h
      dsimp only at h hb ⊢
      cases command with
      | prepare direction target =>
          obtain ⟨relay, v, hv, h⟩ := bind_eq_ok_iff.1 h
          obtain ⟨u, hu, hw⟩ := weight_of_onBoard hb hv
          have := Switchboard.weight_of_prepare hu
          have := weight_of_openLine h
          simp only [Target.commandWeight] at *
          omega
      | addBoard =>
          simp only [beginOn, bind_apply, reading_apply, update_apply, pure_apply,
            EStateM.Result.ok.injEq] at h
          obtain ⟨rfl, rfl⟩ := h
          simp [weight, addBoard, Begun.weight, Switchboard.weight]
      | addLine relay => exact Nat.le_of_eq (weight_of_openLine h)
      | deliver line device => exact weight_of_withLine h fun _ => weight_of_deliver
      | connect relay device => exact weight_of_settle hb Switchboard.weight_of_claim h
      | cancel handle => exact weight_of_cancelOnBoard hb h
      | cancelLine line => exact weight_of_withLine h fun _ => weight_of_cancelOnBoard hb
      | count | inspect =>
          cases h
          exact Nat.le_refl _
      | describeLine line =>
          refine weight_of_withLine h fun _ h => ?_
          cases h
          exact Nat.le_refl _
      | inspectLine line =>
          refine weight_of_withLine h fun line h => ?_
          simp only [inspectLine, bind_apply, reading_apply] at h
          cases hl : w.state.board? line.board <;> simp only [hl] at h <;> cases h <;>
            exact Nat.le_refl _
      | cloneLine line =>
          refine weight_of_withLine h fun line h => ?_
          by_cases hc : line.cancelsOnFailure
          · simp only [hc, if_true] at h
            cases h
            exact Nat.le_refl _
          · simp only [hc] at h
            exact Nat.le_of_eq (weight_of_openLine h)
      | dropLine line =>
          refine weight_of_withLine h fun _ h => ?_
          cases h
          exact Nat.le_refl _

end Exchange

end MidiConsole
