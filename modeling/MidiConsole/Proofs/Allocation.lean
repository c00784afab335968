import Mathlib.Data.List.Nodup
import MidiConsole.Proofs.Accounts

namespace MidiConsole

open Journaled Exchange

namespace Occurrence

/-- The handle that a step obtains for a new request, as its notice tells. -/
def obtained? (o : Occurrence) : Option Handle :=
  match o.notices.getLast? with
  | some (.preparing _ handle) => some handle
  | _ => none

/-- The handles that a board has given to the requests it was asked for. -/
def handlesOn (index : Nat) (os : List Occurrence) : List Handle :=
  os.filterMap fun o => if o.preparesOn index then o.obtained? else none

variable {o : Occurrence} {index : Nat} {board : Switchboard Target} {deed : Deed Target}

theorem obtained?_of_handedOut? {handle : Handle} (hdeed : o.deed? = some deed)
    (h : deed.handedOut? = some handle) : o.obtained? = some handle := by
  unfold deed? at hdeed
  split at hdeed
  · next hlast =>
      rw [obtained?, hlast]
      split at hdeed <;> cases hdeed <;> exact h
  · cases hdeed
    cases h
  · split at hdeed <;> cases hdeed <;> cases h
  · cases hdeed

theorem Acts.obtained?_eq (hacts : o.Acts board deed) (h : o.preparesOn index) :
    o.board = index ∧ deed.handedOut? = some board.next ∧ o.obtained? = some board.next := by
  rw [hacts.prepares_eq, Bool.and_eq_true, decide_eq_true_eq] at h
  obtain ⟨hindex, htakes⟩ := h
  rcases Deed.takes_next_or_none hacts.fits with ⟨hnext, -⟩ | ⟨hnone, -⟩
  · exact ⟨hindex, hnext, obtained?_of_handedOut? hacts.deed_eq hnext⟩
  · rw [hnone] at htakes
    cases htakes

theorem handlesOn_eq (index : Nat) (os : List Occurrence) :
    handlesOn index os = Switchboard.handedOut (deedsOn index os) := by
  rw [handlesOn, Switchboard.handedOut, deedsOn, List.filterMap_filterMap]
  refine List.filterMap_congr fun o _ => ?_
  rcases o.acts_or_quiet with hquiet | ⟨board, deed, hacts⟩
  · simp [hquiet.prepares_eq, hquiet.deed_eq]
  · by_cases hprepares : o.preparesOn index
    · obtain ⟨hindex, htakes, hobtained⟩ := hacts.obtained?_eq hprepares
      simp [hprepares, hindex, hacts.deed_eq, htakes, hobtained]
    · have hnot := hprepares
      rw [hacts.prepares_eq] at hnot
      by_cases hindex : o.board = index
      · have hnone : deed.handedOut? = none := by simpa [hindex] using hnot
        simp [hprepares, hindex, hacts.deed_eq, hnone]
      · simp [hprepares, hindex]

theorem handlesOn_eq_map_nth {past : List Occurrence} (h : Moment past) (index : Nat) :
    handlesOn index past =
      (List.range (preparations index past)).map fun i => .nth (i + 1) := by
  have haccounts := accounts_of_linked h.linked index
  cases hboard : (leave {} past).board? index with
  | none =>
      rw [hboard] at haccounts
      obtain ⟨-, hdeeds, hzero⟩ := haccounts
      rw [handlesOn_eq, hdeeds, hzero]
      rfl
  | some board =>
      obtain ⟨hleads, hcount⟩ := h.leads hboard
      rw [handlesOn_eq, hcount]
      exact hleads.handedOut_eq.1

theorem nodup_nth {count : Nat} (h : count < 2 ^ 64) :
    ((List.range count).map fun i => Handle.nth (i + 1)).Nodup := by
  refine List.Nodup.map_on (fun i hi j hj heq => ?_) List.nodup_range
  have hi := List.mem_range.mp hi
  have hj := List.mem_range.mp hj
  have := Handle.nth_inj (by omega) (by omega) heq
  omega

theorem toNat_of_mem_nth {count : Nat} (h : count < 2 ^ 64) {handle : Handle}
    (hmem : handle ∈ (List.range count).map fun i => Handle.nth (i + 1)) :
    1 ≤ handle.value.toNat ∧ handle.value.toNat ≤ count := by
  obtain ⟨i, hi, rfl⟩ := List.mem_map.mp hmem
  have hi := List.mem_range.mp hi
  rw [Handle.toNat_nth, Nat.mod_eq_of_lt (by omega)]
  omega

theorem mem_handlesOn_of_isPending {past : List Occurrence} (h : Moment past)
    (hbound : preparations index past < 2 ^ 64)
    (hboard : (leave {} past).board? index = some board) {handle : Handle}
    (hpending : board.isPending handle) : handle ∈ handlesOn index past := by
  obtain ⟨hleads, hcount⟩ := h.leads hboard
  obtain ⟨request, hwaits⟩ := Option.isSome_iff_exists.mp hpending
  have habout := hleads.about_of_request? (hcount ▸ hbound) hwaits
  have hdeed : .inserted handle request ∈ Switchboard.about handle (deedsOn index past) := by
    simp [habout]
  rw [handlesOn_eq]
  exact List.mem_filterMap.mpr ⟨_, List.mem_of_mem_filter hdeed, rfl⟩

theorem handlesOn_append (index : Nat) (first second : List Occurrence) :
    handlesOn index (first ++ second) = handlesOn index first ++ handlesOn index second :=
  List.filterMap_append

theorem Moment.exists_board {past : List Occurrence} (h : Moment past) {index : Nat}
    {handle : Handle} (hmem : handle ∈ handlesOn index past) :
    ∃ board, (leave {} past).board? index = some board := by
  have haccounts := accounts_of_linked h.linked index
  cases hboard : (leave {} past).board? index with
  | some board => exact ⟨board, rfl⟩
  | none =>
      rw [hboard] at haccounts
      rw [handlesOn_eq, haccounts.2.1] at hmem
      cases hmem

theorem Moment.isValid_of_mem_handlesOn {past : List Occurrence} (h : Moment past) {index : Nat}
    (hbound : preparations index past < 2 ^ 64) {handle : Handle}
    (hmem : handle ∈ handlesOn index past) : handle.isValid := by
  rw [handlesOn_eq_map_nth h] at hmem
  have := toNat_of_mem_nth hbound hmem
  exact Handle.isValid_iff.mpr (by omega)

theorem isPending_obtained_eq_false {earlier later : List Occurrence}
    (h : Moment (earlier ++ o :: later)) (hprepares : o.preparesOn index)
    (hbound : preparations index (earlier ++ o :: later) < 2 ^ 64) :
    ∃ board, o.before.state.board? index = some board ∧ o.obtained? = some board.next ∧
      board.isPending board.next = false := by
  obtain ⟨board, deed, hacts⟩ := exists_acts_of_preparesOn hprepares
  obtain ⟨rfl, -, hobtained⟩ := hacts.obtained?_eq hprepares
  have hboard := hacts.board_eq
  refine ⟨board, hboard, hobtained, ?_⟩
  rw [h.state_before] at hboard
  obtain ⟨hleads, hcount⟩ := h.earlier.leads hboard
  have hone : preparations o.board [o] = 1 := by rw [preparations_singleton, hprepares]; rfl
  rw [← List.singleton_append, preparations_append, preparations_append, hone] at hbound
  rw [Switchboard.isPending, hleads.request?_next (by omega)]
  rfl

theorem handedOut_of_obtained? (hprepares : o.preparesOn index) :
    ∃ handle, o.obtained? = some handle ∧
      (o.LogFailed ∨ ∃ direction line,
        o.begun? = some ⟨.prepared line ⟨handle, direction⟩, none⟩) := by
  obtain ⟨board, deed, hacts⟩ := exists_acts_of_preparesOn hprepares
  obtain ⟨-, htakes, hobtained⟩ := hacts.obtained?_eq hprepares
  refine ⟨board.next, hobtained, ?_⟩
  have hdoes := hacts.does
  rcases Deed.eq_of_handedOut? htakes with rfl | ⟨request, rfl⟩
  · exact Or.inl hdoes.2
  · obtain ⟨-, line, hbegun⟩ := hdoes
    exact Or.inr ⟨request.direction, line, hbegun⟩

theorem dispatch?_of_preparesOn (h : o.preparesOn index) : o.dispatch? = none := by
  obtain ⟨handle, -, hfailed | ⟨direction, line, hbegun⟩⟩ := handedOut_of_obtained? h
  · obtain ⟨w, hstart⟩ := hfailed
    rw [dispatch?, begun?, hstart]
    rfl
  · rw [dispatch?, hbegun]
    rfl

theorem preparations_replicate {direction : Direction} {target : Target} {index : Nat}
    (count : Nat) (exchange : Exchange Target) (hboard : (exchange.board? index).isSome) :
    preparations index (chronicle exchange
      (List.replicate count ⟨⟨index, .prepare direction target⟩, Sink.sound⟩)) = count := by
  induction count generalizing exchange with
  | zero => rfl
  | succ count ih =>
      generalize ho : Occurrence.mk ⟨index, .prepare direction target⟩
        ⟨exchange, { sink := Sink.sound }⟩ = o
      have hprepares : o.preparesOn index := by simp [← ho, preparesOn, hboard]
      have hafter : (o.after.state.board? index).isSome := by
        obtain ⟨board, deed, hacts⟩ := exists_acts_of_preparesOn hprepares
        obtain ⟨rfl, -⟩ := hacts.obtained?_eq hprepares
        have hlt := (List.getElem?_eq_some_iff.mp hacts.board_eq).1
        rw [board?, hacts.boards_eq, List.getElem?_set_self hlt]
        rfl
      rw [List.replicate_succ,
        chronicle_cons_of_dispatch?_eq_none ho.symm (dispatch?_of_preparesOn hprepares),
        ← List.singleton_append, preparations_append, preparations_singleton, hprepares,
        ih o.after.state hafter]
      exact Nat.add_comm 1 count

/-- The requests of a board obtain the numbers from one on, in the order in which
they are asked for, modulo the size of a handle. As long as fewer than `2 ^ 64`
have been asked for, the handles are valid and distinct, no request is put in the
place of one that waits, and only handles up to the count of requests are
waited under. The bound is tight: a `2 ^ 64`-th request obtains the reserved
handle. -/
theorem handles_numbered_in_order {past : List Occurrence} (h : Moment past) (index : Nat) :
    (handlesOn index past).map (fun handle => handle.value.toNat) =
        (List.range (preparations index past)).map (fun i => (i + 1) % 2 ^ 64) ∧
      (∀ o ∈ past, o.preparesOn index → ∃ handle, o.obtained? = some handle ∧
        (o.LogFailed ∨ ∃ direction line,
          o.begun? = some ⟨.prepared line ⟨handle, direction⟩, none⟩)) ∧
      (preparations index past < 2 ^ 64 →
        (handlesOn index past).Nodup ∧
        (∀ handle ∈ handlesOn index past, handle.isValid) ∧
        (∀ earlier o later, past = earlier ++ o :: later → o.preparesOn index →
          ∃ board, o.before.state.board? index = some board ∧
            o.obtained? = some board.next ∧ board.isPending board.next = false) ∧
        ∀ board, (leave {} past).board? index = some board →
          ∀ handle, board.isPending handle →
            1 ≤ handle.value.toNat ∧ handle.value.toNat ≤ preparations index past) ∧
      ∃ full, Moment full ∧ preparations 0 full = 2 ^ 64 ∧
        (handlesOn 0 full).getLast? = some Handle.invalid := by
  have horder := handlesOn_eq_map_nth h index
  refine ⟨?_, fun o _ => handedOut_of_obtained?, fun hbound => ⟨?_, ?_, ?_, ?_⟩, ?_⟩
  · rw [horder, List.map_map]
    exact List.map_congr_left fun i _ => Handle.toNat_nth (i + 1)
  · rw [horder]
    exact nodup_nth hbound
  · intro handle hmem
    rw [horder] at hmem
    have := toNat_of_mem_nth hbound hmem
    exact Handle.isValid_iff.mpr (by omega)
  · rintro earlier o later rfl hprepares
    exact isPending_obtained_eq_false h hprepares hbound
  · intro board hboard handle hpending
    have hmem := mem_handlesOn_of_isPending h hbound hboard hpending
    rw [horder] at hmem
    exact toNat_of_mem_nth hbound hmem
  · generalize hcalls : List.replicate (2 ^ 64)
      (Call.mk (Step.mk 0 (.prepare .input (Target.mk "" [] none))) Sink.sound) = calls
    have hmoment : Moment (chronicle {} calls) := ⟨calls, [], (List.append_nil _).symm⟩
    have hcount : preparations 0 (chronicle {} calls) = 2 ^ 64 := by
      rw [← hcalls]
      exact preparations_replicate (2 ^ 64) {} rfl
    refine ⟨_, hmoment, hcount, ?_⟩
    rw [handlesOn_eq_map_nth hmoment, hcount, List.getLast?_map, List.getLast?_range,
      if_neg (by decide)]
    exact congrArg some Handle.nth_two_pow

/-- A run in which a target asks for a further request, is brought a device for
its own handle, cancels the further request and fails. The log fails at the next
request of the host, and when a device is brought for the one after that. Of the
two last requests one is given up because no device can be opened for it, and one
waits. -/
def troubledRun : List (Call (Step Target)) :=
  let idle := Target.mk "idle" [] none
  let busy := Target.mk "busy"
    [⟨0, .prepare .output idle⟩, ⟨0, .connect ⟨.nth 1, .input⟩ "again"⟩, ⟨0, .cancel (.nth 2)⟩]
    (some "out of order")
  [⟨⟨0, .prepare .input busy⟩, Sink.sound⟩,
    ⟨⟨0, .connect ⟨.nth 1, .input⟩ "keys"⟩, Sink.sound⟩,
    ⟨⟨0, .prepare .input idle⟩, Sink.failingAt (some .debug)⟩,
    ⟨⟨0, .prepare .output idle⟩, Sink.sound⟩,
    ⟨⟨0, .deliver 2 (some "synth")⟩, Sink.failingAt (some .debug)⟩,
    ⟨⟨0, .prepare .input idle⟩, Sink.sound⟩,
    ⟨⟨0, .deliver 3 none⟩, Sink.sound⟩,
    ⟨⟨0, .prepare .output idle⟩, Sink.sound⟩]

theorem moment_troubledRun : Moment (chronicle {} troubledRun) :=
  ⟨troubledRun, [], (List.append_nil _).symm⟩

def firstRequest : Occurrence :=
  ⟨⟨0, .prepare .output (.mk "idle" [] none)⟩, ⟨{}, {}⟩⟩

theorem moment_firstRequest : Moment [firstRequest] := by
  refine ⟨[⟨firstRequest.step, Sink.sound⟩], [], ?_⟩
  rw [chronicle_cons_of_dispatch?_eq_none (o := firstRequest) rfl rfl]
  rfl

theorem handles_of_troubledRun :
    Moment (chronicle {} troubledRun) ∧
      (handlesOn 0 (chronicle {} troubledRun)).map (fun handle => handle.value.toNat) =
        [1, 2, 3, 4, 5, 6] ∧
      (handlesOn 0 (chronicle {} troubledRun)).Nodup := by
  have hcount : preparations 0 (chronicle {} troubledRun) = 6 := by decide +kernel
  obtain ⟨horder, -, hfresh, -⟩ := handles_numbered_in_order moment_troubledRun 0
  rw [hcount] at horder hfresh
  exact ⟨moment_troubledRun, horder, (hfresh (by decide)).1⟩

end Occurrence

end MidiConsole
