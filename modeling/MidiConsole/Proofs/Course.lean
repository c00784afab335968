import MidiConsole.Journal

/-!
The course of an action: the notices that it logs, each with the state that is left
if the log fails at it, and what it comes to in the end. No action looks at its log,
so its course depends on the state only.

The main statements are the rules by which an action follows a course, and what comes
of a course whose log fails at one of its notices.
-/

namespace MidiConsole

open Journaled

namespace Journaled

variable {ν σ α : Type}

/-- The world that an action leaves, whether or not it is cut short. -/
def after (act : Journaled ν σ α) (w : World ν σ) : World ν σ :=
  match act w with
  | .ok _ w' => w'
  | .error _ w' => w'

theorem after_of_ok {act : Journaled ν σ α} {w w' : World ν σ} {a : α}
    (h : act w = .ok a w') : after act w = w' := by
  rw [after, h]

theorem after_of_error {act : Journaled ν σ α} {w w' : World ν σ} {fault : Fault}
    (h : act w = .error fault w') : after act w = w' := by
  rw [after, h]

theorem state_attempt (act : Journaled ν σ α) (sink : Sink) (s : σ) :
    (attempt act sink s).state = (after act ⟨s, { sink }⟩).state := by
  unfold attempt after
  cases act ⟨s, { sink }⟩ <;> rfl

theorem events_attempt (act : Journaled ν σ α) (sink : Sink) (s : σ) :
    (attempt act sink s).events = (after act ⟨s, { sink }⟩).journal.events := by
  unfold attempt after
  cases act ⟨s, { sink }⟩ <;> rfl

theorem filterMap_notice?_logged (notices : List Notice) :
    (notices.map Event.logged).filterMap (Event.notice? (ν := ν)) = notices := by
  induction notices with
  | nil => rfl
  | cons notice notices ih => rw [List.map_cons, List.filterMap_cons, Event.notice?, ih]

end Journaled

namespace Journal

variable {ν : Type}

def writeAll (journal : Journal ν) (notices : List Notice) : Journal ν :=
  { journal with events := journal.events ++ notices.map .logged }

@[simp] theorem writeAll_nil (journal : Journal ν) : journal.writeAll [] = journal := by
  simp [writeAll]

theorem writeAll_write (journal : Journal ν) (notice : Notice) (notices : List Notice) :
    (journal.write notice).writeAll notices = journal.writeAll (notice :: notices) := by
  simp [writeAll, write, add]

@[simp] theorem notices_writeAll (journal : Journal ν) (notices : List Notice) :
    (journal.writeAll notices).notices = journal.notices ++ notices := by
  rw [writeAll, Journal.notices, List.filterMap_append, filterMap_notice?_logged]
  rfl

end Journal

/-- The notices of an action, each with the state that is left if the log fails at it,
the value of the action and the state that it leaves. -/
structure Course (σ α : Type) where
  records : List (Notice × σ) := []
  value : α
  final : σ

namespace Course

variable {ν σ ρ α β : Type}

def map (f : α → β) (course : Course σ α) : Course σ β :=
  ⟨course.records, f course.value, course.final⟩

def lift (put : ρ → σ) (course : Course ρ α) : Course σ α :=
  ⟨course.records.map fun record => (record.1, put record.2), course.value, put course.final⟩

def following (notice : Notice) (s : σ) (course : Course σ α) : Course σ α :=
  ⟨(notice, s) :: course.records, course.value, course.final⟩

def append (first : Course σ α) (second : Course σ β) : Course σ β :=
  ⟨first.records ++ second.records, second.value, second.final⟩

def notices (course : Course σ α) : List Notice :=
  course.records.map Prod.fst

/-- Log the notices of records, and come to an end if the log fails at none of them. -/
def logAll (finish : Journal ν → EStateM.Result Fault (World ν σ) α) :
    List (Notice × σ) → Journal ν → EStateM.Result Fault (World ν σ) α
  | [], journal => finish journal
  | (notice, s) :: records, journal =>
      if journal.fails notice then .error .sink ⟨s, journal.write notice⟩
      else logAll finish records (journal.write notice)

def run (course : Course σ α) (journal : Journal ν) : EStateM.Result Fault (World ν σ) α :=
  logAll (fun journal => .ok course.value ⟨course.final, journal⟩) course.records journal

/-- Of some records, the log fails at the last of the given notices, and a state is
left. -/
def StopsAt : List (Notice × σ) → List Notice → σ → Prop
  | [], _, _ => False
  | (notice, t) :: records, notices, s =>
      (notices = [notice] ∧ s = t) ∨
        ∃ later, notices = notice :: later ∧ StopsAt records later s

theorem StopsAt.exists_last {records : List (Notice × σ)} {notices : List Notice} {s : σ}
    (h : StopsAt records notices s) :
    ∃ notice, notices.getLast? = some notice ∧ (notice, s) ∈ records := by
  induction records generalizing notices with
  | nil => exact h.elim
  | cons record records ih =>
      rcases h with ⟨rfl, rfl⟩ | ⟨later, rfl, h⟩
      · exact ⟨record.1, rfl, List.mem_cons_self⟩
      · obtain ⟨notice, hlast, hmem⟩ := ih h
        exact ⟨notice, by rw [List.getLast?_cons, hlast]; rfl, List.mem_cons_of_mem _ hmem⟩

theorem StopsAt.last_mem {records : List (Notice × σ)} {earlier : List Notice}
    {notice : Notice} {s : σ} (h : StopsAt records (earlier ++ [notice]) s) :
    (notice, s) ∈ records := by
  obtain ⟨last, hlast, hmem⟩ := h.exists_last
  rw [List.getLast?_concat] at hlast
  exact Option.some.inj hlast ▸ hmem

theorem StopsAt.prefix_notices {records : List (Notice × σ)} {notices : List Notice} {s : σ}
    (h : StopsAt records notices s) : notices <+: records.map Prod.fst := by
  induction records generalizing notices with
  | nil => exact h.elim
  | cons record records ih =>
      rcases h with ⟨rfl, -⟩ | ⟨later, rfl, h⟩
      · exact ⟨records.map Prod.fst, rfl⟩
      · exact List.cons_prefix_cons.mpr ⟨rfl, ih h⟩

/-- Whatever its log does, a course leaves a state with a property. -/
def Keeps (P : σ → Prop) (course : Course σ α) : Prop :=
  (∀ record ∈ course.records, P record.2) ∧ P course.final

theorem Keeps.map {P : σ → Prop} {course : Course σ α} (h : course.Keeps P) (f : α → β) :
    (course.map f).Keeps P :=
  h

theorem Keeps.lift {P : σ → Prop} {Q : ρ → Prop} {put : ρ → σ} {course : Course ρ α}
    (h : course.Keeps Q) (hput : ∀ r, Q r → P (put r)) : (course.lift put).Keeps P := by
  refine ⟨fun record hrecord => ?_, hput _ h.2⟩
  obtain ⟨other, hother, rfl⟩ := List.mem_map.mp hrecord
  exact hput _ (h.1 other hother)

theorem keeps_lift {P : σ → Prop} {put : ρ → σ} (h : ∀ r, P (put r)) (course : Course ρ α) :
    (course.lift put).Keeps P :=
  Keeps.lift (Q := fun _ => True) ⟨fun _ _ => trivial, trivial⟩ fun r _ => h r

theorem logAll_append (finish : Journal ν → EStateM.Result Fault (World ν σ) α)
    (first second : List (Notice × σ)) (journal : Journal ν) :
    logAll finish (first ++ second) journal = logAll (logAll finish second) first journal := by
  induction first generalizing journal with
  | nil => rfl
  | cons record first ih =>
      simp only [List.cons_append, logAll]
      split
      · rfl
      · exact ih _

theorem apply_logAll (f : EStateM.Result Fault (World ν ρ) α → EStateM.Result Fault (World ν σ) β)
    (put : ρ → σ) (hf : ∀ s journal, f (.error .sink ⟨s, journal⟩) = .error .sink ⟨put s, journal⟩)
    (finish : Journal ν → EStateM.Result Fault (World ν ρ) α) (records : List (Notice × ρ))
    (journal : Journal ν) :
    f (logAll finish records journal) =
      logAll (fun journal => f (finish journal))
        (records.map fun record => (record.1, put record.2)) journal := by
  induction records generalizing journal with
  | nil => rfl
  | cons record records ih =>
      simp only [logAll, List.map_cons]
      by_cases hfails : journal.fails record.1
      · rw [if_pos hfails, if_pos hfails, hf]
      · rw [if_neg hfails, if_neg hfails]
        exact ih (journal.write record.1)

theorem run_cases (course : Course σ α) (journal : Journal ν) :
    course.run journal = .ok course.value ⟨course.final, journal.writeAll course.notices⟩ ∨
      ∃ earlier notice s, StopsAt course.records (earlier ++ [notice]) s ∧
        journal.sink (journal.notices ++ earlier) notice = true ∧
        course.run journal = .error .sink ⟨s, journal.writeAll (earlier ++ [notice])⟩ := by
  obtain ⟨records, value, final⟩ := course
  induction records generalizing journal with
  | nil => exact Or.inl (by simp [run, logAll, notices])
  | cons record records ih =>
      obtain ⟨notice, s⟩ := record
      have hrun : run ⟨(notice, s) :: records, value, final⟩ journal =
          if journal.fails notice then .error .sink ⟨s, journal.write notice⟩
          else run ⟨records, value, final⟩ (journal.write notice) := rfl
      rw [hrun]
      by_cases hfails : journal.fails notice
      · rw [if_pos hfails]
        refine Or.inr ⟨[], notice, s, Or.inl ⟨rfl, rfl⟩, ?_, ?_⟩
        · simpa [Journal.fails] using hfails
        · rw [List.nil_append, ← Journal.writeAll_write, Journal.writeAll_nil]
      · rw [if_neg hfails]
        rcases ih (journal.write notice) with h | ⟨earlier, last, t, hstops, hsink, h⟩
        · exact Or.inl (by rw [h, Journal.writeAll_write]; rfl)
        · refine Or.inr ⟨notice :: earlier, last, t, Or.inr ⟨_, rfl, hstops⟩, ?_, ?_⟩
          · rwa [Journal.notices_write, List.append_assoc] at hsink
          · rw [h, Journal.writeAll_write]
            rfl

end Course

namespace Journaled

variable {ν σ ρ α β : Type}

/-- An action follows a course from a state if it goes by it whatever its journal is. -/
def Follows (act : Journaled ν σ α) (s : σ) (course : Course σ α) : Prop :=
  ∀ journal, act ⟨s, journal⟩ = course.run journal

namespace Follows

theorem journal_after {act : Journaled ν σ α} {w : World ν σ} {course : Course σ α}
    (h : Follows act w.state course) :
    ∃ notices, (after act w).journal = w.journal.writeAll notices := by
  rcases course.run_cases w.journal with hrun | ⟨earlier, notice, s, -, -, hrun⟩
  · exact ⟨_, by rw [after_of_ok ((h w.journal).trans hrun)]⟩
  · exact ⟨_, by rw [after_of_error ((h w.journal).trans hrun)]⟩

theorem log (notice : Notice) (s : σ) :
    Follows (ν := ν) (log notice) s ⟨[(notice, s)], (), s⟩ :=
  fun _ => rfl

theorem bind {act : Journaled ν σ α} (next : α → Journaled ν σ β) {s : σ}
    {first : Course σ α} {second : Course σ β} (hact : Follows act s first)
    (hnext : Follows (next first.value) first.final second) :
    Follows (act >>= next) s (first.append second) := by
  intro journal
  have h := Course.apply_logAll
    (fun result => match result with
      | .ok a w => next a w
      | .error fault w => .error fault w)
    id (fun _ _ => rfl) (fun journal => .ok first.value ⟨first.final, journal⟩) first.records
    journal
  simp only [id_eq, Prod.eta, List.map_id'] at h
  rw [bind_apply, hact journal, Course.run, Course.run, Course.append, Course.logAll_append]
  exact h.trans (congrArg (Course.logAll · first.records journal) (funext hnext))

theorem map {act : Journaled ν σ α} {s : σ} {course : Course σ α} (f : α → β)
    (hact : Follows act s course) : Follows (f <$> act) s (course.map f) := by
  intro journal
  have h := Course.apply_logAll
    (fun result => match result with
      | .ok a w => EStateM.Result.ok (f a) w
      | .error fault w => .error fault w)
    id (fun _ _ => rfl) (fun journal => .ok course.value ⟨course.final, journal⟩)
    course.records journal
  simp only [id_eq, Prod.eta, List.map_id'] at h
  rw [map_apply, hact journal]
  exact h

theorem within {part : σ → ρ} {put : ρ → σ → σ} {act : Journaled ν ρ α} {s : σ}
    {course : Course ρ α} (hact : Follows act (part s) course) :
    Follows (Journaled.within part put act) s (course.lift fun r => put r s) := by
  intro journal
  have h := Course.apply_logAll
    (fun result => match result with
      | .ok a w => EStateM.Result.ok a ⟨put w.state s, w.journal⟩
      | .error fault w => .error fault ⟨put w.state s, w.journal⟩)
    (fun r => put r s) (fun _ _ => rfl) (fun journal => .ok course.value ⟨course.final, journal⟩)
    course.records journal
  rw [Journaled.within, hact journal]
  exact h

end Follows

end Journaled

end MidiConsole
