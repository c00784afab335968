import Mathlib.Data.List.Induction
import MidiConsole.Proofs.Chronicle
import MidiConsole.Proofs.Deeds

namespace MidiConsole

open Journaled Exchange

namespace Occurrence

variable {o : Occurrence} {index : Nat} {board : Switchboard Target}

theorem deedsOn_append (index : Nat) (first second : List Occurrence) :
    deedsOn index (first ++ second) = deedsOn index first ++ deedsOn index second :=
  List.filterMap_append

theorem preparations_append (index : Nat) (first second : List Occurrence) :
    preparations index (first ++ second) =
      preparations index first + preparations index second :=
  List.countP_append

theorem preparations_singleton (index : Nat) (o : Occurrence) :
    preparations index [o] = if o.preparesOn index then 1 else 0 :=
  List.countP_singleton

/-- What steps have done to a board that was there, or that they have added: the
board is led to by their deeds, and they have handed out a handle for each new
request. -/
def Accounts (index : Nat) (first : Option (Switchboard Target)) (os : List Occurrence) :
    Option (Switchboard Target) → Prop
  | none => first = none ∧ deedsOn index os = [] ∧ preparations index os = 0
  | some board =>
      Switchboard.Leads (first.getD {}) (deedsOn index os) board ∧
        preparations index os = (Switchboard.handedOut (deedsOn index os)).length

theorem Accounts.snoc_of_eq {first found : Option (Switchboard Target)}
    {os : List Occurrence} (h : Accounts index first os found)
    (hdeeds : deedsOn index [o] = []) (hprepares : o.preparesOn index = false) :
    Accounts index first (os ++ [o]) found := by
  have hone : preparations index [o] = 0 := by rw [preparations_singleton, hprepares]; rfl
  cases found <;>
    simpa only [Accounts, deedsOn_append, hdeeds, List.append_nil, preparations_append, hone,
      Nat.add_zero] using h

theorem Quiet.accounts {first : Option (Switchboard Target)} {os : List Occurrence}
    (hquiet : o.Quiet) (h : Accounts index first os (o.before.state.board? index)) :
    Accounts index first (os ++ [o]) (o.after.state.board? index) := by
  have hdeeds : deedsOn index [o] = [] := by simp [deedsOn, hquiet.deed_eq]
  have hsnoc := h.snoc_of_eq hdeeds (hquiet.prepares_eq index)
  rcases hquiet.boards_eq with hboards | hboards
  · rwa [board?, hboards]
  · rw [board?, hboards]
    by_cases hlt : index < o.before.state.boards.length
    · rwa [List.getElem?_append_left hlt]
    · rw [board?, List.getElem?_eq_none (by omega)] at hsnoc
      obtain ⟨hfirst, hnone, hzero⟩ := hsnoc
      rw [List.getElem?_append_right (by omega)]
      by_cases heq : index = o.before.state.boards.length
      · subst heq
        rw [Nat.sub_self, List.getElem?_cons_zero, Accounts, hfirst, hnone, hzero]
        exact ⟨.start, rfl⟩
      · rw [List.getElem?_eq_none (by simp; omega)]
        exact ⟨hfirst, hnone, hzero⟩

theorem Acts.accounts {first : Option (Switchboard Target)} {os : List Occurrence}
    {deed : Deed Target} (hacts : o.Acts board deed)
    (h : Accounts index first os (o.before.state.board? index)) :
    Accounts index first (os ++ [o]) (o.after.state.board? index) := by
  have hprepares := hacts.prepares_eq index
  by_cases hindex : o.board = index
  · subst hindex
    have hdeeds : deedsOn o.board [o] = [deed] := by simp [deedsOn, hacts.deed_eq]
    have hlt := (List.getElem?_eq_some_iff.mp hacts.board_eq).1
    rw [hacts.board_eq] at h
    obtain ⟨hleads, hcount⟩ := h
    have hafter : o.after.state.board? o.board = some (deed.apply board) := by
      rw [board?, hacts.boards_eq, List.getElem?_set_self hlt]
    rw [hafter, Accounts, deedsOn_append, hdeeds, preparations_append, hcount,
      Switchboard.handedOut_append, List.length_append, preparations_singleton]
    refine ⟨hleads.snoc hacts.fits, congrArg _ ?_⟩
    cases htakes : deed.handedOut? <;> simp [hprepares, htakes, Switchboard.handedOut]
  · have hdeeds : deedsOn index [o] = [] := by simp [deedsOn, hindex]
    have hnot : o.preparesOn index = false := by simp [hprepares, hindex]
    have hafter : o.after.state.board? index = o.before.state.board? index := by
      rw [board?, hacts.boards_eq, List.getElem?_set_ne hindex, board?]
    rw [hafter]
    exact h.snoc_of_eq hdeeds hnot

/-- At every moment of a run each board is the one that the deeds so far lead to. -/
theorem accounts_of_linked {exchange : Exchange Target} {os : List Occurrence}
    (h : Linked exchange os) (index : Nat) :
    Accounts index (exchange.board? index) os ((leave exchange os).board? index) := by
  induction os using List.reverseRecOn with
  | nil =>
      rw [leave]
      cases exchange.board? index with
      | none => exact ⟨rfl, rfl, rfl⟩
      | some board => exact ⟨.start, rfl⟩
  | append_singleton os o ih =>
      obtain ⟨hos, hstate, -⟩ := linked_append.mp h
      have haccounts := ih hos
      rw [← hstate] at haccounts
      rw [leave_append, leave, leave]
      rcases o.acts_or_quiet with hquiet | ⟨board, deed, hacts⟩
      · exact hquiet.accounts haccounts
      · exact hacts.accounts haccounts

/-- What has started at some moment of a run. -/
def Moment (past : List Occurrence) : Prop :=
  ∃ calls future, chronicle {} calls = past ++ future

theorem Moment.linked {past : List Occurrence} (h : Moment past) : Linked {} past := by
  obtain ⟨calls, future, hrun⟩ := h
  have hlinked := linked_chronicle {} calls
  rw [hrun, linked_append] at hlinked
  exact hlinked.1

theorem Moment.earlier {first second : List Occurrence} (h : Moment (first ++ second)) :
    Moment first := by
  obtain ⟨calls, future, hrun⟩ := h
  exact ⟨calls, second ++ future, by rw [hrun, List.append_assoc]⟩

theorem Moment.state_before {earlier later : List Occurrence} {o : Occurrence}
    (h : Moment (earlier ++ o :: later)) : o.before.state = leave {} earlier :=
  (linked_append.mp h.linked).2.1

theorem Moment.leads {past : List Occurrence} (h : Moment past)
    (hboard : (leave {} past).board? index = some board) :
    Switchboard.Leads {} (deedsOn index past) board ∧
      preparations index past = (Switchboard.handedOut (deedsOn index past)).length := by
  have haccounts := accounts_of_linked h.linked index
  rw [hboard] at haccounts
  have hfirst : ((({} : Exchange Target).board? index).getD {}) = {} := by
    cases index <;> rfl
  rwa [Accounts, hfirst] at haccounts

end Occurrence

end MidiConsole
