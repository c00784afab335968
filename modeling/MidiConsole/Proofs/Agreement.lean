import Mathlib.Data.List.Forall2
import Mathlib.Logic.Relation
import MidiConsole.Journal

namespace MidiConsole

namespace Journaled

variable {ν σ σ' σ'' ρ ρ' α β κ : Type}

inductive SameResult (R : σ → σ' → Prop) :
    EStateM.Result Fault (World ν σ) α → EStateM.Result Fault (World ν σ') α → Prop
  | ok (a : α) (journal : Journal ν) {s : σ} {s' : σ'} (h : R s s') :
      SameResult R (.ok a ⟨s, journal⟩) (.ok a ⟨s', journal⟩)
  | error (fault : Fault) (journal : Journal ν) {s : σ} {s' : σ'} (h : R s s') :
      SameResult R (.error fault ⟨s, journal⟩) (.error fault ⟨s', journal⟩)

/-- Two actions agree from two states if they come to the same with any journal. -/
def Agree (R : σ → σ' → Prop) (s : σ) (s' : σ') (act : Journaled ν σ α)
    (act' : Journaled ν σ' α) : Prop :=
  ∀ journal, SameResult R (act ⟨s, journal⟩) (act' ⟨s', journal⟩)

namespace Agree

variable {R : σ → σ' → Prop} {s : σ} {s' : σ'}

theorem pure (h : R s s') (a : α) : Agree (ν := ν) R s s' (Pure.pure a) (Pure.pure a) :=
  fun journal => .ok a journal h

theorem reading (h : R s s') {read : σ → α} {read' : σ' → α} (hread : read s = read' s') :
    Agree (ν := ν) R s s' (reading read) (reading read') := by
  intro journal
  rw [reading_apply, reading_apply]
  dsimp only
  rw [hread]
  exact .ok _ journal h

theorem update {change : σ → σ} {change' : σ' → σ'} (h : R (change s) (change' s')) :
    Agree (ν := ν) R s s' (update change) (update change') :=
  fun journal => .ok () journal h

theorem note (h : R s s') (n : ν) : Agree R s s' (note n) (note n) :=
  fun journal => .ok () (journal.add (.noted n)) h

theorem bind_note (n : ν) {next : Unit → Journaled ν σ α} {next' : Unit → Journaled ν σ' α}
    (hnext : Agree R s s' (next ()) (next' ())) :
    Agree R s s' (Journaled.note n >>= next) (Journaled.note n >>= next') :=
  fun journal => hnext (journal.add (.noted n))

theorem raise (h : R s s') (text : String) :
    Agree (ν := ν) R s s' (raise text : Journaled ν σ α) (raise text) :=
  fun journal => .error (.raised text) journal h

theorem log (h : R s s') (notice : Notice) : Agree (ν := ν) R s s' (log notice) (log notice) := by
  intro journal
  rw [log_apply, log_apply]
  by_cases hfails : journal.fails notice
  · rw [if_pos hfails, if_pos hfails]
    exact .error .sink (journal.write notice) h
  · rw [if_neg hfails, if_neg hfails]
    exact .ok () (journal.write notice) h

theorem bind_of_ok {act : Journaled ν σ α} {act' : Journaled ν σ' α}
    {next : α → Journaled ν σ β} {next' : α → Journaled ν σ' β} (hact : Agree R s s' act act')
    (hnext : ∀ journal a w, act ⟨s, journal⟩ = .ok a w → ∀ t', R w.state t' →
      Agree R w.state t' (next a) (next' a)) :
    Agree R s s' (act >>= next) (act' >>= next') := by
  intro journal
  have h := hact journal
  rw [bind_apply, bind_apply]
  generalize hresult : act ⟨s, journal⟩ = result at h ⊢
  generalize act' ⟨s', journal⟩ = result' at h ⊢
  cases h with
  | ok a journal' h => exact hnext journal a _ hresult _ h journal'
  | error fault journal' h => exact .error fault journal' h

theorem bind {act : Journaled ν σ α} {act' : Journaled ν σ' α} {next : α → Journaled ν σ β}
    {next' : α → Journaled ν σ' β} (hact : Agree R s s' act act')
    (hnext : ∀ a t t', R t t' → Agree R t t' (next a) (next' a)) :
    Agree R s s' (act >>= next) (act' >>= next') :=
  hact.bind_of_ok fun _ a _ _ _ h => hnext a _ _ h

theorem bind_reading {read : σ → α} {read' : σ' → α} {next : α → Journaled ν σ β}
    {next' : α → Journaled ν σ' β} (hread : read s = read' s')
    (hnext : Agree R s s' (next (read s)) (next' (read s))) :
    Agree R s s' (Journaled.reading read >>= next) (Journaled.reading read' >>= next') := by
  intro journal
  rw [bind_apply, bind_apply, reading_apply, reading_apply]
  dsimp only
  rw [← hread]
  exact hnext journal

theorem map {act : Journaled ν σ α} {act' : Journaled ν σ' α} (f : α → β)
    (hact : Agree R s s' act act') : Agree R s s' (f <$> act) (f <$> act') := by
  intro journal
  have h := hact journal
  rw [map_apply, map_apply]
  generalize act ⟨s, journal⟩ = result at h ⊢
  generalize act' ⟨s', journal⟩ = result' at h ⊢
  cases h with
  | ok a journal' h => exact .ok (f a) journal' h
  | error fault journal' h => exact .error fault journal' h

theorem within {P : ρ → ρ' → Prop} {part : σ → ρ} {part' : σ' → ρ'} {put : ρ → σ → σ}
    {put' : ρ' → σ' → σ'} {act : Journaled ν ρ α} {act' : Journaled ν ρ' α}
    (hact : Agree P (part s) (part' s') act act')
    (hput : ∀ r r', P r r' → R (put r s) (put' r' s')) :
    Agree R s s' (within part put act) (within part' put' act') := by
  intro journal
  have h := hact journal
  rw [Journaled.within, Journaled.within]
  generalize act ⟨part s, journal⟩ = result at h ⊢
  generalize act' ⟨part' s', journal⟩ = result' at h ⊢
  cases h with
  | ok a journal' h => exact .ok a journal' (hput _ _ h)
  | error fault journal' h => exact .error fault journal' (hput _ _ h)

theorem symm {act : Journaled ν σ α} {act' : Journaled ν σ' α} (h : Agree R s s' act act') :
    Agree (flip R) s' s act' act := by
  intro journal
  have h := h journal
  generalize act ⟨s, journal⟩ = result at h ⊢
  generalize act' ⟨s', journal⟩ = result' at h ⊢
  cases h with
  | ok a journal' h => exact .ok a journal' h
  | error fault journal' h => exact .error fault journal' h

theorem trans {P : σ' → σ'' → Prop} {s'' : σ''} {act : Journaled ν σ α}
    {act' : Journaled ν σ' α} {act'' : Journaled ν σ'' α} (h : Agree R s s' act act')
    (h' : Agree P s' s'' act' act'') : Agree (Relation.Comp R P) s s'' act act'' := by
  intro journal
  have h := h journal
  have h' := h' journal
  generalize act ⟨s, journal⟩ = result at h ⊢
  generalize act' ⟨s', journal⟩ = result' at h h'
  generalize act'' ⟨s'', journal⟩ = result'' at h' ⊢
  cases h with
  | ok a journal' h =>
      cases h' with
      | ok a journal' h' => exact .ok a journal' ⟨_, h, h'⟩
  | error fault journal' h =>
      cases h' with
      | error fault journal' h' => exact .error fault journal' ⟨_, h, h'⟩

theorem imp {P : σ → σ' → Prop} {act : Journaled ν σ α} {act' : Journaled ν σ' α}
    (h : Agree R s s' act act') (himp : ∀ t t', R t t' → P t t') : Agree P s s' act act' := by
  intro journal
  have h := h journal
  generalize act ⟨s, journal⟩ = result at h ⊢
  generalize act' ⟨s', journal⟩ = result' at h ⊢
  cases h with
  | ok a journal' h => exact .ok a journal' (himp _ _ h)
  | error fault journal' h => exact .error fault journal' (himp _ _ h)

end Agree

structure SameOutcome (R : σ → σ' → Prop) (outcome : Outcome ν σ α) (outcome' : Outcome ν σ' α) :
    Prop where
  result_eq : outcome.result = outcome'.result
  events_eq : outcome.events = outcome'.events
  state : R outcome.state outcome'.state

variable {R : σ → σ' → Prop}

theorem Agree.attempt {s : σ} {s' : σ'} {act : Journaled ν σ α} {act' : Journaled ν σ' α}
    (h : Agree R s s' act act') (sink : Sink) :
    SameOutcome R (attempt act sink s) (attempt act' sink s') := by
  have h := h { sink }
  rw [Journaled.attempt, Journaled.attempt]
  generalize act ⟨s, { sink }⟩ = result at h ⊢
  generalize act' ⟨s', { sink }⟩ = result' at h ⊢
  cases h with
  | ok a journal hstate => exact ⟨rfl, rfl, hstate⟩
  | error fault journal hstate => exact ⟨rfl, rfl, hstate⟩

section

variable {outcomes : List (Outcome ν σ α)} {outcomes' : List (Outcome ν σ' α)}

theorem results_eq_of_same (h : List.Forall₂ (SameOutcome R) outcomes outcomes') :
    outcomes.map Outcome.result = outcomes'.map Outcome.result := by
  induction h with
  | nil => rfl
  | cons h _ ih => rw [List.map_cons, List.map_cons, h.result_eq, ih]

theorem events_eq_of_same (h : List.Forall₂ (SameOutcome R) outcomes outcomes') :
    outcomes.map Outcome.events = outcomes'.map Outcome.events := by
  induction h with
  | nil => rfl
  | cons h _ ih => rw [List.map_cons, List.map_cons, h.events_eq, ih]

end

/-- Runs of actions that agree from any states that correspond have the same
outcomes. -/
theorem same_history {perform : κ → Journaled ν σ α} {perform' : κ → Journaled ν σ' α}
    (hagree : ∀ command s s', R s s' → Agree R s s' (perform command) (perform' command))
    (calls : List (Call κ)) {s : σ} {s' : σ'} (h : R s s') :
    List.Forall₂ (SameOutcome R) (history perform s calls) (history perform' s' calls) := by
  induction calls generalizing s s' with
  | nil => exact .nil
  | cons call calls ih =>
      have hfirst := (hagree call.command s s' h).attempt call.sink
      exact .cons hfirst (ih hfirst.state)

end Journaled

end MidiConsole
