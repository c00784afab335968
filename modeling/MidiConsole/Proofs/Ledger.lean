import Mathlib.Algebra.Group.Nat.Defs
import Mathlib.Data.List.Range
import MidiConsole.Switchboard.Basic

/-!
What can happen to a switchboard, as a list of deeds. The deeds that have led to
a board account for every handle that it has handed out: as long as the handles
have not come round, a handle is burnt, or its request waits, or the request was
connected, cancelled or lost, once and for ever.
-/

namespace MidiConsole

namespace Handle

/-- The handle of the request of a number, counted from one. -/
def nth (number : Nat) : Handle :=
  ⟨UInt64.ofNat number⟩

theorem toNat_nth (number : Nat) : (nth number).value.toNat = number % 2 ^ 64 :=
  UInt64.toNat_ofNat'

theorem next_nth (number : Nat) : (nth number).next = nth (number + 1) := by
  simp only [nth, next, UInt64.ofNat_add]
  rfl

theorem nth_inj {m n : Nat} (hm : m < 2 ^ 64) (hn : n < 2 ^ 64) (h : nth m = nth n) :
    m = n := by
  have htoNat := congrArg (fun handle => handle.value.toNat) h
  simp only [toNat_nth] at htoNat
  omega

theorem isValid_iff {handle : Handle} : handle.isValid ↔ handle.value.toNat ≠ 0 := by
  obtain ⟨value⟩ := handle
  simp [isValid, invalid, ← UInt64.toNat_inj]

theorem nth_two_pow : nth (2 ^ 64) = invalid := by
  decide

end Handle

/-- What a step does to a board: it uses up a handle for nothing, lets a request
wait, connects one, gives one up, or takes one off before its target gets the
device. -/
inductive Deed (τ : Type) where
  | burnt (handle : Handle)
  | inserted (handle : Handle) (request : Request τ)
  | connected (connection : Connection τ)
  | cancelled (handle : Handle)
  | lost (handle : Handle)

namespace Deed

variable {τ : Type}

def handle : Deed τ → Handle
  | burnt handle => handle
  | inserted handle _ => handle
  | connected connection => connection.handle
  | cancelled handle => handle
  | lost handle => handle

def handedOut? : Deed τ → Option Handle
  | burnt handle => some handle
  | inserted handle _ => some handle
  | connected _ => none
  | cancelled _ => none
  | lost _ => none

def connection? : Deed τ → Option (Connection τ)
  | burnt _ => none
  | inserted _ _ => none
  | connected connection => some connection
  | cancelled _ => none
  | lost _ => none

/-- A deed fits a board if it takes the next handle, or a request that waits. -/
def Fits (board : Switchboard τ) : Deed τ → Prop
  | burnt handle => handle = board.next
  | inserted handle _ => handle = board.next
  | connected connection =>
      connection.handle.isValid ∧
        board.request? connection.handle = some ⟨connection.direction, connection.target⟩
  | cancelled handle => board.isPending handle
  | lost handle => board.isPending handle

def apply (board : Switchboard τ) : Deed τ → Switchboard τ
  | burnt _ => board.advance
  | inserted handle request => board.advance.insert handle request
  | connected connection => board.erase connection.handle
  | cancelled handle => board.erase handle
  | lost handle => board.erase handle

def isInserted : Deed τ → Bool
  | inserted _ _ => true
  | _ => false

def isConnected : Deed τ → Bool
  | connected _ => true
  | _ => false

def isCancelled : Deed τ → Bool
  | cancelled _ => true
  | _ => false

def isLost : Deed τ → Bool
  | lost _ => true
  | _ => false

theorem eq_of_handedOut? {deed : Deed τ} {handle : Handle} (h : deed.handedOut? = some handle) :
    deed = .burnt handle ∨ ∃ request, deed = .inserted handle request := by
  rcases deed with _ | ⟨_, request⟩ | _ | _ | _
  · exact Or.inl (congrArg burnt (Option.some.inj h))
  · exact Or.inr ⟨request, congrArg (inserted · request) (Option.some.inj h)⟩
  all_goals cases h

theorem eq_of_connection? {deed : Deed τ} {connection : Connection τ}
    (h : deed.connection? = some connection) : deed = .connected connection := by
  rcases deed with _ | _ | _ | _ | _
  case connected => exact congrArg connected (Option.some.inj h)
  all_goals cases h

theorem handle_of_handedOut? {deed : Deed τ} {handle : Handle}
    (h : deed.handedOut? = some handle) : deed.handle = handle := by
  rcases eq_of_handedOut? h with rfl | ⟨request, rfl⟩
  · rfl
  · rfl

theorem handedOut?_of_isInserted {deed : Deed τ} (h : deed.isInserted) :
    ∃ handle, deed.handedOut? = some handle := by
  cases deed with
  | inserted handle request => exact ⟨handle, rfl⟩
  | _ => cases h

theorem takes_next_or_none {deed : Deed τ} {board : Switchboard τ} (h : deed.Fits board) :
    (deed.handedOut? = some board.next ∧ (deed.apply board).next = board.next.next) ∨
      (deed.handedOut? = none ∧ (deed.apply board).next = board.next) := by
  rcases deed with handle | ⟨handle, request⟩ | connection | handle | handle
  · exact Or.inl ⟨congrArg some h, rfl⟩
  · exact Or.inl ⟨congrArg some h, rfl⟩
  all_goals exact Or.inr ⟨rfl, rfl⟩

end Deed

namespace Switchboard

variable {τ : Type}

/-- Deeds lead from one board to another, each of them fitting the board that it
finds. -/
inductive Leads (first : Switchboard τ) : List (Deed τ) → Switchboard τ → Prop
  | start : Leads first [] first
  | snoc {deeds : List (Deed τ)} {board : Switchboard τ} {deed : Deed τ}
      (reached : Leads first deeds board) (fits : deed.Fits board) :
      Leads first (deeds ++ [deed]) (deed.apply board)

def handedOut (deeds : List (Deed τ)) : List Handle :=
  deeds.filterMap Deed.handedOut?

theorem handedOut_append (first second : List (Deed τ)) :
    handedOut (first ++ second) = handedOut first ++ handedOut second :=
  List.filterMap_append

def about (handle : Handle) (deeds : List (Deed τ)) : List (Deed τ) :=
  deeds.filter fun deed => deed.handle = handle

theorem about_snoc_self (deeds : List (Deed τ)) (deed : Deed τ) :
    about deed.handle (deeds ++ [deed]) = about deed.handle deeds ++ [deed] := by
  simp [about]

theorem about_snoc_of_ne {deed : Deed τ} {handle : Handle} (h : deed.handle ≠ handle)
    (deeds : List (Deed τ)) : about handle (deeds ++ [deed]) = about handle deeds := by
  simp [about, h]

theorem Leads.handedOut_eq {deeds : List (Deed τ)} {board : Switchboard τ}
    (h : Leads {} deeds board) :
    handedOut deeds = (List.range (handedOut deeds).length).map (fun i => .nth (i + 1)) ∧
      board.next = .nth ((handedOut deeds).length + 1) := by
  induction h with
  | start => exact ⟨rfl, rfl⟩
  | @snoc deeds board deed _ fits ih =>
      obtain ⟨horder, hnext⟩ := ih
      rw [handedOut_append]
      rcases Deed.takes_next_or_none fits with ⟨htakes, happly⟩ | ⟨htakes, happly⟩
      · have hdeed : handedOut [deed] = [board.next] := by simp [handedOut, htakes]
        rw [hdeed, List.length_append, List.length_singleton, List.range_succ,
          List.map_append, ← horder, happly, hnext, Handle.next_nth]
        exact ⟨rfl, rfl⟩
      · have hdeed : handedOut [deed] = [] := by simp [handedOut, htakes]
        rw [hdeed, List.append_nil, happly]
        exact ⟨horder, hnext⟩

/-- What can become of a handle: the deeds about it, and the request that waits
under it after them. -/
inductive Life (handle : Handle) : List (Deed τ) → Option (Request τ) → Prop
  | unused : Life handle [] none
  | burnt : Life handle [.burnt handle] none
  | waiting (request : Request τ) : Life handle [.inserted handle request] (some request)
  | connected (request : Request τ) (device : Device) :
      Life handle
        [.inserted handle request,
          .connected ⟨handle, request.direction, device, request.target⟩] none
  | cancelled (request : Request τ) :
      Life handle [.inserted handle request, .cancelled handle] none
  | lost (request : Request τ) :
      Life handle [.inserted handle request, .lost handle] none

theorem Life.handedOut {handle : Handle} {deeds : List (Deed τ)}
    {waiting : Option (Request τ)} (h : Life handle (about handle deeds) waiting) :
    about handle deeds = [] ∨ handle ∈ handedOut deeds := by
  have hmem : ∀ deed ∈ about handle deeds, deed.handedOut? = some handle →
      handle ∈ Switchboard.handedOut deeds := by
    intro deed hdeed htakes
    exact List.mem_filterMap.mpr ⟨deed, List.mem_of_mem_filter hdeed, htakes⟩
  generalize hlife : about handle deeds = life at h hmem
  cases h with
  | unused => exact Or.inl rfl
  | burnt => exact Or.inr (hmem (.burnt handle) (by simp) rfl)
  | waiting request => exact Or.inr (hmem (.inserted handle request) (by simp) rfl)
  | connected request device => exact Or.inr (hmem (.inserted handle request) (by simp) rfl)
  | cancelled request => exact Or.inr (hmem (.inserted handle request) (by simp) rfl)
  | lost request => exact Or.inr (hmem (.inserted handle request) (by simp) rfl)

theorem Life.eq_none_of_nil {handle : Handle} {waiting : Option (Request τ)}
    (h : Life handle [] waiting) : waiting = none := by
  cases h
  rfl

theorem Life.about_eq_of_some {handle : Handle} {deeds : List (Deed τ)} {request : Request τ}
    (h : Life handle deeds (some request)) : deeds = [.inserted handle request] := by
  cases h
  rfl

theorem request?_apply_of_ne {deed : Deed τ} {handle : Handle} (h : deed.handle ≠ handle)
    (board : Switchboard τ) : (deed.apply board).request? handle = board.request? handle := by
  cases deed with
  | burnt _ => rfl
  | inserted _ request => exact request?_insert_of_ne h.symm board.advance request
  | connected connection => exact request?_erase_of_ne h.symm board
  | cancelled _ => exact request?_erase_of_ne h.symm board
  | lost _ => exact request?_erase_of_ne h.symm board

theorem Leads.next_notMem_handedOut {deeds : List (Deed τ)} {board : Switchboard τ}
    (h : Leads {} deeds board) (hbound : (handedOut deeds).length + 1 < 2 ^ 64) :
    board.next ∉ handedOut deeds := by
  obtain ⟨horder, hnext⟩ := h.handedOut_eq
  rw [horder, hnext, List.mem_map]
  rintro ⟨i, hi, heq⟩
  have hlt := List.mem_range.mp hi
  have := Handle.nth_inj (by omega) (by omega) heq
  omega

theorem Life.begins {board : Switchboard τ} {deed : Deed τ}
    (htakes : deed.handedOut? = some board.next)
    (h : Life board.next [] (board.request? board.next)) :
    Life board.next [deed] ((deed.apply board).request? board.next) := by
  rcases Deed.eq_of_handedOut? htakes with rfl | ⟨request, rfl⟩
  · have hnone : (Deed.apply board (.burnt board.next)).request? board.next = none :=
      h.eq_none_of_nil
    rw [hnone]
    exact .burnt
  · rw [Deed.apply, request?_insert_self]
    exact .waiting request

theorem Life.ends {board : Switchboard τ} {deed : Deed τ} {deeds : List (Deed τ)}
    (fits : deed.Fits board) (htakes : deed.handedOut? = none)
    (h : Life deed.handle deeds (board.request? deed.handle)) :
    Life deed.handle (deeds ++ [deed]) ((deed.apply board).request? deed.handle) := by
  cases deed with
  | burnt handle => cases htakes
  | inserted handle request => cases htakes
  | connected connection =>
      obtain ⟨-, hwaits⟩ := fits
      rw [Deed.handle, hwaits] at h
      rw [h.about_eq_of_some, Deed.apply, Deed.handle, request?_erase_self]
      exact .connected ⟨connection.direction, connection.target⟩ connection.device
  | cancelled handle =>
      obtain ⟨request, hwaits⟩ := Option.isSome_iff_exists.mp fits
      rw [Deed.handle, hwaits] at h
      rw [h.about_eq_of_some, Deed.apply, Deed.handle, request?_erase_self]
      exact .cancelled request
  | lost handle =>
      obtain ⟨request, hwaits⟩ := Option.isSome_iff_exists.mp fits
      rw [Deed.handle, hwaits] at h
      rw [h.about_eq_of_some, Deed.apply, Deed.handle, request?_erase_self]
      exact .lost request

theorem length_handedOut_le (deeds : List (Deed τ)) (deed : Deed τ) :
    (handedOut deeds).length ≤ (handedOut (deeds ++ [deed])).length := by
  rw [handedOut_append, List.length_append]
  omega

theorem length_handedOut_of_takes {deed : Deed τ} {handle : Handle}
    (h : deed.handedOut? = some handle) (deeds : List (Deed τ)) :
    (handedOut (deeds ++ [deed])).length = (handedOut deeds).length + 1 := by
  simp [handedOut, h]

theorem Leads.life {deeds : List (Deed τ)} {board : Switchboard τ}
    (h : Leads {} deeds board) (hbound : (handedOut deeds).length < 2 ^ 64) (handle : Handle) :
    Life handle (about handle deeds) (board.request? handle) := by
  induction h with
  | start => exact .unused
  | @snoc deeds board deed reached fits ih =>
      have hlife := ih (Nat.lt_of_le_of_lt (length_handedOut_le deeds deed) hbound)
      by_cases hne : deed.handle ≠ handle
      · rw [about_snoc_of_ne hne, request?_apply_of_ne hne]
        exact hlife
      obtain rfl : deed.handle = handle := not_not.mp hne
      rw [about_snoc_self]
      rcases Deed.takes_next_or_none fits with ⟨htakes, -⟩ | ⟨htakes, -⟩
      · -- A handle that is taken is fresh, so there are no deeds about it yet.
        have hlen := length_handedOut_of_takes htakes deeds
        have hfresh := reached.next_notMem_handedOut (by omega)
        rw [Deed.handle_of_handedOut? htakes] at hlife ⊢
        have hnil := hlife.handedOut.resolve_right hfresh
        rw [hnil] at hlife ⊢
        exact hlife.begins htakes
      · exact hlife.ends fits htakes

theorem Leads.about_of_request? {deeds : List (Deed τ)} {board : Switchboard τ}
    (h : Leads {} deeds board) (hbound : (handedOut deeds).length < 2 ^ 64) {handle : Handle}
    {request : Request τ} (hwaits : board.request? handle = some request) :
    about handle deeds = [.inserted handle request] := by
  have hlife := h.life hbound handle
  rw [hwaits] at hlife
  exact hlife.about_eq_of_some

theorem Leads.request?_next {deeds : List (Deed τ)} {board : Switchboard τ}
    (h : Leads {} deeds board) (hbound : (handedOut deeds).length + 1 < 2 ^ 64) :
    board.request? board.next = none := by
  have hlife := h.life (by omega) board.next
  rw [hlife.handedOut.resolve_right (h.next_notMem_handedOut hbound)] at hlife
  exact hlife.eq_none_of_nil

theorem nodup_pending_erase {board : Switchboard τ} (h : (board.pending.map Prod.fst).Nodup)
    (handle : Handle) : ((board.erase handle).pending.map Prod.fst).Nodup :=
  h.sublist (List.filter_sublist.map Prod.fst)

theorem nodup_pending_insert {board : Switchboard τ} (h : (board.pending.map Prod.fst).Nodup)
    (handle : Handle) (request : Request τ) :
    ((board.insert handle request).pending.map Prod.fst).Nodup := by
  refine List.nodup_cons.mpr ⟨?_, nodup_pending_erase h handle⟩
  simp [erase]

theorem Leads.nodup_pending {deeds : List (Deed τ)} {board : Switchboard τ}
    (h : Leads {} deeds board) : (board.pending.map Prod.fst).Nodup := by
  induction h with
  | start => exact List.nodup_nil
  | @snoc deeds board deed _ _ ih =>
      cases deed with
      | burnt handle => exact ih
      | inserted handle request => exact nodup_pending_insert ih handle request
      | connected connection => exact nodup_pending_erase ih connection.handle
      | cancelled handle => exact nodup_pending_erase ih handle
      | lost handle => exact nodup_pending_erase ih handle

end Switchboard

end MidiConsole
