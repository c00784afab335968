import MidiConsole.Proofs.Ledger

namespace MidiConsole

namespace Switchboard

variable {τ : Type}

theorem erase_of_request?_eq_none {board : Switchboard τ} {handle : Handle}
    (h : board.request? handle = none) : board.erase handle = board := by
  have hkeep : (board.pending.filter fun entry => entry.1 ≠ handle) = board.pending := by
    refine List.filter_eq_self.mpr fun entry hentry => ?_
    have hne : handle ≠ entry.1 := by
      simpa using List.lookup_eq_none_iff.mp h entry hentry
    exact decide_eq_true hne.symm
  rw [erase, hkeep]

theorem pendingCount_erase {board : Switchboard τ} {handle : Handle}
    (hnodup : (board.pending.map Prod.fst).Nodup) (h : board.isPending handle) :
    (board.erase handle).pendingCount + 1 = board.pendingCount := by
  obtain ⟨next, pending⟩ := board
  induction pending with
  | nil => simp [isPending, request?] at h
  | cons entry entries ih =>
      obtain ⟨key, request⟩ := entry
      obtain ⟨hkey, hentries⟩ := List.nodup_cons.mp hnodup
      by_cases hk : key = handle
      · subst hk
        have hnone : request? ⟨next, entries⟩ key = none := by
          refine List.lookup_eq_none_iff.mpr fun entry hentry => ?_
          have hne : key ≠ entry.1 := by
            intro heq
            exact hkey (heq ▸ List.mem_map.mpr ⟨entry, hentry, rfl⟩)
          simpa using hne
        rw [erase_cons_self, erase_of_request?_eq_none hnone]
        rfl
      · have hwaits : isPending ⟨next, entries⟩ handle := by
          have hne : (handle == key) = false := by simpa using fun e => hk e.symm
          simpa [isPending, request?, List.lookup_cons, hne] using h
        have := ih hentries hwaits
        rw [erase_cons_of_ne hk]
        simp only [pendingCount, List.length_cons] at this ⊢
        omega

theorem pendingCount_insert {board : Switchboard τ} {handle : Handle}
    (h : board.request? handle = none) (request : Request τ) :
    (board.insert handle request).pendingCount = board.pendingCount + 1 := by
  simp [insert, pendingCount, erase_of_request?_eq_none h]

theorem pendingCount_erase_lt {board : Switchboard τ} {handle : Handle}
    (h : board.isPending handle) : (board.erase handle).pendingCount < board.pendingCount := by
  obtain ⟨entry, hentry, hkey⟩ := List.lookup_isSome_iff.mp h
  refine List.length_filter_lt_length_iff_exists.mpr ⟨entry, hentry, ?_⟩
  have hhandle : handle = entry.1 := by simpa using hkey
  simp [hhandle]

theorem pendingCount_insert_le (board : Switchboard τ) (handle : Handle)
    (request : Request τ) :
    (board.insert handle request).pendingCount ≤ board.pendingCount + 1 :=
  Nat.succ_le_succ (List.length_filter_le _ _)

theorem pendingCount_apply_le {board : Switchboard τ} {deed : Deed τ} (fits : deed.Fits board) :
    (deed.apply board).pendingCount + [deed].countP Deed.isConnected ≤
      board.pendingCount + [deed].countP Deed.isInserted := by
  cases deed with
  | burnt handle => exact Nat.le_refl _
  | inserted handle request => exact board.advance.pendingCount_insert_le handle request
  | connected connection => exact pendingCount_erase_lt (Option.isSome_of_eq_some fits.2)
  | cancelled handle => exact (pendingCount_erase_lt fits).le
  | lost handle => exact (pendingCount_erase_lt fits).le

/-- A deed lets one more request wait, or connects, cancels or loses one, if it
takes no handle that is in use. -/
theorem pendingCount_apply {board : Switchboard τ} {deed : Deed τ} (fits : deed.Fits board)
    (hnodup : (board.pending.map Prod.fst).Nodup)
    (hfresh : deed.isInserted → board.request? board.next = none) :
    (deed.apply board).pendingCount + [deed].countP Deed.isConnected +
        [deed].countP Deed.isCancelled + [deed].countP Deed.isLost =
      board.pendingCount + [deed].countP Deed.isInserted := by
  cases deed with
  | burnt handle => rfl
  | inserted handle request =>
      obtain rfl : handle = board.next := fits
      have hnone : board.advance.request? board.next = none := hfresh rfl
      exact pendingCount_insert hnone request
  | connected connection => exact pendingCount_erase hnodup (Option.isSome_of_eq_some fits.2)
  | cancelled handle => exact pendingCount_erase hnodup fits
  | lost handle => exact pendingCount_erase hnodup fits

/-- On the way from any board to another, no more requests are connected than
waited on the first one or were inserted. -/
theorem Leads.countP_isConnected_le {first board : Switchboard τ} {deeds : List (Deed τ)}
    (h : Leads first deeds board) :
    board.pendingCount + deeds.countP Deed.isConnected ≤
      first.pendingCount + deeds.countP Deed.isInserted := by
  induction h with
  | start => exact Nat.le_refl _
  | snoc _ fits ih =>
      have hstep := pendingCount_apply_le fits
      rw [List.countP_append, List.countP_append]
      omega

theorem countP_isInserted_le (deeds : List (Deed τ)) :
    deeds.countP Deed.isInserted ≤ (handedOut deeds).length := by
  rw [handedOut, List.length_filterMap_eq_countP]
  refine List.countP_mono_left fun deed _ h => ?_
  cases deed with
  | inserted handle request => rfl
  | burnt handle => rfl
  | connected connection => cases h
  | cancelled handle => cases h
  | lost handle => cases h

theorem Leads.pendingCount_add {deeds : List (Deed τ)} {board : Switchboard τ}
    (h : Leads {} deeds board) (hbound : (handedOut deeds).length < 2 ^ 64) :
    board.pendingCount + deeds.countP Deed.isConnected + deeds.countP Deed.isCancelled +
      deeds.countP Deed.isLost = deeds.countP Deed.isInserted := by
  induction h with
  | start => rfl
  | @snoc deeds board deed reached fits ih =>
      have hcount := ih (Nat.lt_of_le_of_lt (length_handedOut_le deeds deed) hbound)
      have hfresh : deed.isInserted → board.request? board.next = none := by
        intro hinserted
        obtain ⟨handle, htakes⟩ := Deed.handedOut?_of_isInserted hinserted
        have hlen := length_handedOut_of_takes htakes deeds
        exact reached.request?_next (by omega)
      have hstep := pendingCount_apply fits reached.nodup_pending hfresh
      simp only [List.countP_append]
      omega

end Switchboard

end MidiConsole
