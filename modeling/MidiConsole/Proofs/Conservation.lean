import MidiConsole.Proofs.Allocation
import MidiConsole.Proofs.Tally

namespace MidiConsole

open Journaled Exchange

namespace Deed

variable {τ : Type}

theorem handle_of_connection? {deed : Deed τ} {connection : Connection τ}
    (h : deed.connection? = some connection) : deed.handle = connection.handle := by
  rw [eq_of_connection? h]
  rfl

theorem isConnected_eq (deed : Deed τ) : deed.isConnected = deed.connection?.isSome := by
  cases deed <;> rfl

end Deed

namespace Switchboard

variable {τ : Type}

def connections (deeds : List (Deed τ)) : List (Connection τ) :=
  deeds.filterMap Deed.connection?

theorem countP_isConnected (deeds : List (Deed τ)) :
    deeds.countP Deed.isConnected = (connections deeds).length := by
  rw [connections, List.length_filterMap_eq_countP]
  exact List.countP_congr fun deed _ => by rw [Deed.isConnected_eq]

theorem count_handle_connections (handle : Handle) (deeds : List (Deed τ)) :
    ((connections deeds).map Connection.handle).count handle =
      (connections (about handle deeds)).length := by
  induction deeds with
  | nil => rfl
  | cons deed deeds ih =>
      cases hconnection : deed.connection? with
      | none =>
          have hskip : connections (deed :: deeds) = connections deeds := by
            simp [connections, hconnection]
          have hsame : connections (about handle (deed :: deeds)) =
              connections (about handle deeds) := by
            rw [about, List.filter_cons]
            split <;> simp [connections, hconnection, about]
          rw [hskip, hsame, ih]
      | some connection =>
          have hhandle := Deed.handle_of_connection? hconnection
          by_cases h : deed.handle = handle
          · simp_all [connections, about]
          · simp_all [connections, about]

theorem Life.length_connections_le {handle : Handle} {deeds : List (Deed τ)}
    {waiting : Option (Request τ)} (h : Life handle deeds waiting) :
    (connections deeds).length ≤ 1 := by
  cases h <;> simp [connections, List.filterMap_cons, Deed.connection?]

theorem Leads.nodup_connections {deeds : List (Deed τ)} {board : Switchboard τ}
    (h : Leads {} deeds board) (hbound : (handedOut deeds).length < 2 ^ 64) :
    ((connections deeds).map Connection.handle).Nodup := by
  refine List.nodup_iff_count_le_one.mpr fun handle => ?_
  rw [count_handle_connections]
  exact (h.life hbound handle).length_connections_le

end Switchboard

namespace Occurrence

/-- The connections that a board makes in the course of steps. -/
def connectionsOn (index : Nat) (os : List Occurrence) : List (Connection Target) :=
  (os.filterMap dispatch?).filterMap fun dispatch =>
    if dispatch.board = index then some dispatch.connection else none

variable {o : Occurrence} {index : Nat} {board : Switchboard Target} {deed : Deed Target}

theorem connectionsOn_eq (index : Nat) (os : List Occurrence) :
    connectionsOn index os = Switchboard.connections (deedsOn index os) := by
  rw [connectionsOn, Switchboard.connections, deedsOn, List.filterMap_filterMap,
    List.filterMap_filterMap]
  refine List.filterMap_congr fun o _ => ?_
  rcases o.acts_or_quiet with hquiet | ⟨board, deed, hacts⟩
  · simp [hquiet.dispatch_eq, hquiet.deed_eq]
  · rw [hacts.dispatch_eq, hacts.deed_eq]
    by_cases hindex : o.board = index
    · cases hconnection : deed.connection? <;> simp [hindex, hconnection]
    · cases deed.connection? <;> simp [hindex]

theorem does_of_deed? (h : o.deed? = some deed) : o.Does deed := by
  rcases o.acts_or_quiet with hquiet | ⟨board, other, hacts⟩
  · rw [hquiet.deed_eq] at h
    cases h
  · obtain rfl : other = deed := Option.some.inj (hacts.deed_eq.symm.trans h)
    exact hacts.does

theorem inserted_of_preparesOn (h : o.preparesOn index) :
    o.board = index ∧
      ((∃ handle, o.deed? = some (.burnt handle) ∧ o.LogFailed) ∨
        ∃ handle request, o.deed? = some (.inserted handle request) ∧
          o.step.command = .prepare request.direction request.target) := by
  obtain ⟨board, deed, hacts⟩ := exists_acts_of_preparesOn h
  obtain ⟨hindex, htakes, -⟩ := hacts.obtained?_eq h
  refine ⟨hindex, ?_⟩
  have hdeed := hacts.deed_eq
  have hdoes := hacts.does
  rcases Deed.eq_of_handedOut? htakes with rfl | ⟨request, rfl⟩
  · exact Or.inl ⟨board.next, hdeed, hdoes.2⟩
  · exact Or.inr ⟨board.next, request, hdeed, hdoes.1⟩

theorem delivery?_of_dispatch? {connection : Connection Target}
    (h : o.dispatch? = some ⟨index, connection⟩) :
    o.board = index ∧ o.deed? = some (.connected connection) ∧
      o.delivery? = some (connection.device, ⟨connection.handle, connection.direction⟩) ∧
      ∃ board, o.before.state.board? index = some board ∧
        board.request? connection.handle =
          some ⟨connection.direction, connection.target⟩ := by
  rcases o.acts_or_quiet with hquiet | ⟨board, deed, hacts⟩
  · rw [hquiet.dispatch_eq] at h
    cases h
  · rw [hacts.dispatch_eq] at h
    obtain ⟨other, hconnection, heq⟩ := Option.map_eq_some_iff.mp h
    cases heq
    obtain rfl := Deed.eq_of_connection? hconnection
    exact ⟨rfl, hacts.deed_eq, hacts.does.1, board, hacts.board_eq, hacts.fits.2⟩

theorem Moment.not_isPending_of_dispatch? {earlier later : List Occurrence}
    {connection : Connection Target}
    (h : Moment (earlier ++ o :: later))
    (hbound : preparations index (earlier ++ o :: later) < 2 ^ 64)
    (hdispatch : o.dispatch? = some ⟨index, connection⟩)
    (hboard : (leave {} (earlier ++ o :: later)).board? index = some board) :
    board.isPending connection.handle = false := by
  obtain ⟨hleads, hcount⟩ := h.leads hboard
  rw [hcount] at hbound
  by_contra hpending
  obtain ⟨request, hwaits⟩ := Option.isSome_iff_exists.mp (Bool.of_not_eq_false hpending)
  have habout := hleads.about_of_request? hbound hwaits
  have hdeed : .connected connection ∈
      Switchboard.about connection.handle (deedsOn index (earlier ++ o :: later)) := by
    obtain ⟨hindex, ho, -⟩ := delivery?_of_dispatch? hdispatch
    refine List.mem_filter.mpr ⟨List.mem_filterMap.mpr ⟨o, by simp, ?_⟩, by simp [Deed.handle]⟩
    rw [if_pos hindex, ho]
  rw [habout, List.mem_singleton] at hdeed
  cases hdeed

/-- How the requests of a board are accounted for. -/
structure Accounted (index : Nat) (past : List Occurrence) (board : Switchboard Target) :
    Prop where
  leads : Switchboard.Leads {} (deedsOn index past) board
  life : ∀ handle, Switchboard.Life handle
    (Switchboard.about handle (deedsOn index past)) (board.request? handle)
  asked : ∀ o ∈ past, o.preparesOn index → o.board = index ∧
    ((∃ handle, o.deed? = some (.burnt handle) ∧ o.LogFailed) ∨
      ∃ handle request, o.deed? = some (.inserted handle request) ∧
        o.step.command = .prepare request.direction request.target)
  does : ∀ o ∈ past, ∀ deed, o.deed? = some deed → o.Does deed
  invoked : ∀ o ∈ past, ∀ connection, o.dispatch? = some ⟨index, connection⟩ →
    o.board = index ∧ o.deed? = some (.connected connection) ∧
      o.delivery? = some (connection.device, ⟨connection.handle, connection.direction⟩) ∧
      ∃ board, o.before.state.board? index = some board ∧
        board.request? connection.handle = some ⟨connection.direction, connection.target⟩
  once : ((connectionsOn index past).map Connection.handle).Nodup
  count : board.pendingCount + (connectionsOn index past).length +
      (deedsOn index past).countP Deed.isCancelled + (deedsOn index past).countP Deed.isLost =
    (deedsOn index past).countP Deed.isInserted

/-- At every moment of a run, as long as fewer than `2 ^ 64` requests have been
asked for, the requests of a board are accounted for. -/
theorem requests_accounted_for {past : List Occurrence} (h : Moment past)
    (hboard : (leave {} past).board? index = some board)
    (hbound : preparations index past < 2 ^ 64) : Accounted index past board := by
  obtain ⟨hleads, hcount⟩ := h.leads hboard
  rw [hcount] at hbound
  exact
    { leads := hleads
      life := hleads.life hbound
      asked := fun o _ => inserted_of_preparesOn
      does := fun o _ deed => does_of_deed?
      invoked := fun o _ connection => delivery?_of_dispatch?
      once := by
        rw [connectionsOn_eq]
        exact hleads.nodup_connections hbound
      count := by
        rw [connectionsOn_eq, ← Switchboard.countP_isConnected]
        exact hleads.pendingCount_add hbound }

/-- In the troubled run one target gets a device, two requests are cancelled, one
is lost and one waits. -/
theorem troubledRun_accounted_for :
    ∃ board, (leave {} (chronicle {} troubledRun)).board? 0 = some board ∧
      Accounted 0 (chronicle {} troubledRun) board ∧
      board.pendingCount = 1 ∧
      (connectionsOn 0 (chronicle {} troubledRun)).length = 1 ∧
      (deedsOn 0 (chronicle {} troubledRun)).countP Deed.isCancelled = 2 ∧
      (deedsOn 0 (chronicle {} troubledRun)).countP Deed.isLost = 1 ∧
      (deedsOn 0 (chronicle {} troubledRun)).countP Deed.isInserted = 5 := by
  have hcounts : preparations 0 (chronicle {} troubledRun) = 6 ∧
      (((leave {} (chronicle {} troubledRun)).board? 0).map Switchboard.pendingCount) = some 1 ∧
      (connectionsOn 0 (chronicle {} troubledRun)).length = 1 ∧
      (deedsOn 0 (chronicle {} troubledRun)).countP Deed.isCancelled = 2 ∧
      (deedsOn 0 (chronicle {} troubledRun)).countP Deed.isLost = 1 ∧
      (deedsOn 0 (chronicle {} troubledRun)).countP Deed.isInserted = 5 := by
    decide +kernel
  obtain ⟨hpreparations, hpending, hcounts⟩ := hcounts
  obtain ⟨board, hboard, hone⟩ := Option.map_eq_some_iff.mp hpending
  refine ⟨board, hboard, ?_, hone, hcounts⟩
  exact requests_accounted_for moment_troubledRun hboard (by rw [hpreparations]; decide)

end Occurrence

end MidiConsole
