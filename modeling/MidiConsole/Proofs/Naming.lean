import MidiConsole.Proofs.Lines
import MidiConsole.Proofs.Telling

namespace MidiConsole

open Text

namespace Port

/-- A step in building a port: it is given one of its other names. -/
inductive Naming where
  | device (name : String)
  | display (name : String)
  deriving DecidableEq

def named (port : Port) : Naming → Port
  | .device name => port.withDeviceName name
  | .display name => port.withDisplayName name

def build (number : Nat) (name : String) (namings : List Naming) : Port :=
  namings.foldl named { number, name }

def Naming.device? : Naming → Option String
  | device name => some name
  | display _ => none

def Naming.display? : Naming → Option String
  | device _ => none
  | display name => some name

def lastDevice? (namings : List Naming) : Option String :=
  (namings.filterMap Naming.device?).getLast?

def lastDisplay? (namings : List Naming) : Option String :=
  (namings.filterMap Naming.display?).getLast?

/-- Another name of a port, unless it says no more than the name of the port. -/
def informative (name : String) : Option String → Option String
  | none => none
  | some other => if other = "" ∨ other = name then none else some other

/-- The number in the line of a port: the digits before the first colon. -/
def numberOf (line : String) : Nat :=
  Nat.ofDigitChars 10 ((line.toList.drop "Port ".length).takeWhile (· ≠ ':')) 0

structure Unbracketed (name : List Char) : Prop where
  paren : '(' ∉ name
  bracket : '[' ∉ name

/-- The names of the port have no brackets that could end them too early. -/
structure Plain (port : Port) : Prop where
  name : Unbracketed port.name.toList
  deviceName : ∀ name ∈ port.deviceName, ')' ∉ name.toList

theorem getLast?_filterMap_cons {α β : Type} {f : α → Option β} {a : α} {b : β}
    (h : f a = some b) (rest : List α) :
    ((a :: rest).filterMap f).getLast? = (rest.filterMap f).getLast?.or (some b) := by
  rw [List.filterMap_cons_some h, List.getLast?_cons, Option.or_some]

theorem foldl_named (namings : List Naming) (port : Port) :
    namings.foldl named port =
      { port with
        deviceName := (lastDevice? namings).or port.deviceName
        displayName := (lastDisplay? namings).or port.displayName } := by
  induction namings generalizing port with
  | nil => rfl
  | cons naming namings ih =>
      rw [List.foldl_cons, ih]
      cases naming with
      | device name =>
          have hlast : lastDevice? (.device name :: namings) =
              (lastDevice? namings).or (some name) :=
            getLast?_filterMap_cons (f := Naming.device?) (a := .device name) rfl namings
          rw [hlast, Option.or_assoc]
          rfl
      | display name =>
          have hlast : lastDisplay? (.display name :: namings) =
              (lastDisplay? namings).or (some name) :=
            getLast?_filterMap_cons (f := Naming.display?) (a := .display name) rfl namings
          rw [hlast, Option.or_assoc]
          rfl

theorem build_eq (number : Nat) (name : String) (namings : List Naming) :
    build number name namings = ⟨number, name, lastDevice? namings, lastDisplay? namings⟩ := by
  rw [build, foldl_named, Option.or_none, Option.or_none]

theorem distinct_eq_informative (port : Port) (name : Option String) :
    port.distinct name = informative port.name name := by
  rcases name with _ | name
  · rfl
  · rw [distinct, Option.filter_some, informative]
    by_cases hempty : name = ""
    · simp [hempty]
    · by_cases hsame : name = port.name <;> simp [hempty, hsame]

/-- What may follow the name of a port: nothing, or a bracket after a blank. -/
inductive Appendix : List Char → Prop
  | nil : Appendix []
  | bracket {c : Char} (rest : List Char) (h : c = '(' ∨ c = '[') : Appendix (' ' :: c :: rest)

theorem Unbracketed.of_cons {c : Char} {name : List Char} (h : Unbracketed (c :: name)) :
    Unbracketed name :=
  ⟨fun hmem => h.paren (List.mem_cons_of_mem c hmem),
    fun hmem => h.bracket (List.mem_cons_of_mem c hmem)⟩

theorem Appendix.ne_cons_append {rest rest' name : List Char} (h : Appendix rest)
    (h' : Appendix rest') (c : Char) (hname : Unbracketed name) : rest ≠ c :: (name ++ rest') := by
  intro heq
  cases h with
  | nil => cases heq
  | @bracket d rest hd =>
      -- The bracket would stand in the name, or in the place of the blank after it.
      have hrest : d :: rest = name ++ rest' := (List.cons.inj heq).2
      rcases name with _ | ⟨e, name⟩
      · rw [List.nil_append] at hrest
        cases h' with
        | nil => cases hrest
        | bracket rest' _ =>
            obtain rfl : d = ' ' := (List.cons.inj hrest).1
            revert hd
            decide
      · obtain rfl : d = e := (List.cons.inj hrest).1
        rcases hd with rfl | rfl
        · exact hname.paren List.mem_cons_self
        · exact hname.bracket List.mem_cons_self

theorem Appendix.append_inj {name name' rest rest' : List Char} (h : Appendix rest)
    (h' : Appendix rest') (hname : Unbracketed name) (hname' : Unbracketed name')
    (heq : name ++ rest = name' ++ rest') : name = name' ∧ rest = rest' := by
  induction name generalizing name' with
  | nil =>
      rcases name' with _ | ⟨c, name'⟩
      · exact ⟨rfl, heq⟩
      · exact absurd heq (h.ne_cons_append h' c hname'.of_cons)
  | cons c name ih =>
      rcases name' with _ | ⟨d, name'⟩
      · exact absurd heq.symm (h'.ne_cons_append h c hname.of_cons)
      · obtain ⟨rfl, htail⟩ := List.cons.inj heq
        obtain ⟨rfl, hrest⟩ := ih hname.of_cons hname'.of_cons htail
        exact ⟨rfl, hrest⟩

def otherNames (device display : Option String) : String :=
  bracketed " (Device: " ")" device ++ bracketed " [" "]" display

theorem line_eq (port : Port) :
    port.line = "Port " ++ (toString port.number ++ (": " ++ (port.name ++
      otherNames (port.distinct port.deviceName) (port.distinct port.displayName)))) := by
  simp only [line, otherNames, String.append_assoc]

theorem numberOf_line (port : Port) : numberOf port.line = port.number := by
  have hline : ∃ rest, port.line.toList.drop "Port ".length =
      (toString port.number).toList ++ ':' :: rest := by
    rw [line_eq, String.toList_append, List.drop_left' String.length_toList,
      String.toList_append, String.toList_append]
    exact ⟨_, rfl⟩
  obtain ⟨rest, hline⟩ := hline
  rw [numberOf, hline, takeWhile_divided (notMem_toString_nat (by decide) _),
    Nat.toString_eq_repr, Nat.toList_repr]
  exact Nat.ofDigitChars_ten_toDigits

theorem toList_bracketed_some (opening closing name : String) :
    (bracketed opening closing (some name)).toList =
      opening.toList ++ (name.toList ++ closing.toList) := by
  rw [bracketed, String.append_assoc, String.toList_append, String.toList_append]

theorem bracketed_inj {opening closing : String} (hopening : opening ≠ "")
    {name name' : Option String}
    (h : bracketed opening closing name = bracketed opening closing name') : name = name' := by
  have hne : ∀ text, bracketed opening closing (some text) ≠ "" := by
    intro text hempty
    rw [bracketed, String.append_assoc, String.append_eq_empty_iff] at hempty
    exact hopening hempty.1
  rcases name with _ | name
  · rcases name' with _ | name'
    · rfl
    · exact absurd h.symm (hne name')
  · rcases name' with _ | name'
    · exact absurd h (hne name)
    · rw [bracketed, bracketed, String.append_left_inj, String.append_right_inj] at h
      rw [h]

theorem appendix_otherNames (device display : Option String) :
    Appendix (otherNames device display).toList := by
  rw [otherNames, String.toList_append]
  rcases device with _ | device
  · rcases display with _ | display
    · exact .nil
    · rw [toList_bracketed_some]
      exact .bracket _ (.inr rfl)
  · rw [toList_bracketed_some]
    exact .bracket _ (.inl rfl)

theorem otherNames_none_ne (display : Option String) (device : String)
    (display' : Option String) :
    otherNames none display ≠ otherNames (some device) display' := by
  intro h
  -- The brackets of the two kinds differ, and they come second.
  have hchars := congrArg (fun text => text.toList[1]?) h
  simp only [otherNames, String.toList_append, toList_bracketed_some] at hchars
  rcases display with _ | display
  · exact Option.some_ne_none '(' hchars.symm
  · rw [toList_bracketed_some] at hchars
    exact absurd (Option.some.inj hchars) (by decide)

theorem otherNames_inj {device device' display display' : Option String}
    (hdevice : ∀ name ∈ device, ')' ∉ name.toList) (hdevice' : ∀ name ∈ device', ')' ∉ name.toList)
    (h : otherNames device display = otherNames device' display') :
    device = device' ∧ display = display' := by
  have hdisplay {display display' : Option String}
      (h : bracketed " [" "]" display = bracketed " [" "]" display') : display = display' :=
    bracketed_inj (by decide) h
  rcases device with _ | device
  · rcases device' with _ | device'
    · exact ⟨rfl, hdisplay ((String.append_right_inj _).mp h)⟩
    · exact absurd h (otherNames_none_ne _ _ _)
  · rcases device' with _ | device'
    · exact absurd h.symm (otherNames_none_ne _ _ _)
    · have hchars := congrArg String.toList h
      simp only [otherNames, String.toList_append, toList_bracketed_some, List.append_assoc,
        List.append_right_inj] at hchars
      obtain ⟨hname, hrest⟩ := divided_inj (hdevice _ rfl) (hdevice' _ rfl) hchars
      rw [String.toList_inj.mp hname, hdisplay (String.toList_inj.mp hrest)]
      exact ⟨rfl, rfl⟩

theorem line_eq_iff {port port' : Port} (h : port.Plain) (h' : port'.Plain) :
    port.line = port'.line ↔
      port.number = port'.number ∧ port.name = port'.name ∧
        port.distinct port.deviceName = port'.distinct port'.deviceName ∧
        port.distinct port.displayName = port'.distinct port'.displayName := by
  constructor
  · intro hline
    have hnumber : port.number = port'.number := by
      rw [← numberOf_line, ← numberOf_line, hline]
    rw [line_eq, line_eq, hnumber] at hline
    simp only [String.append_right_inj] at hline
    have hchars := congrArg String.toList hline
    rw [String.toList_append, String.toList_append] at hchars
    obtain ⟨hname, hrest⟩ := (appendix_otherNames _ _).append_inj (appendix_otherNames _ _)
      h.name h'.name hchars
    obtain ⟨hdevice, hdisplay⟩ := otherNames_inj
      (fun name hmem => h.deviceName name (mem_of_mem_distinct hmem))
      (fun name hmem => h'.deviceName name (mem_of_mem_distinct hmem)) (String.toList_inj.mp hrest)
    exact ⟨hnumber, String.toList_inj.mp hname, hdevice, hdisplay⟩
  · rintro ⟨hnumber, hname, hdevice, hdisplay⟩
    rw [line_eq, line_eq, hnumber, hname, hdevice, hdisplay]

/-- The line of a port tells its number. If no bracket in a name can be taken for one of the
line, two ports have one line just if they have the same number and name, and the same last
device name and last display name, each counted as absent if it is empty or repeats the name
of the port. -/
theorem line_tells_informative_names {number number' : Nat} {name name' : String}
    {namings namings' : List Naming} (hplain : (build number name namings).Plain)
    (hplain' : (build number' name' namings').Plain) :
    ((build number name namings).line = (build number' name' namings').line ↔
      number = number' ∧ name = name' ∧
        informative name (lastDevice? namings) = informative name' (lastDevice? namings') ∧
        informative name (lastDisplay? namings) = informative name' (lastDisplay? namings')) ∧
      ∀ port : Port, numberOf port.line = port.number := by
  refine ⟨?_, numberOf_line⟩
  rw [line_eq_iff hplain hplain']
  simp only [distinct_eq_informative, build_eq]

/-- A device name that is empty, and one that repeats the name of the port in the end, are
the same in a line. The display name looks like the end of a device name. -/
theorem repeatedName_as_emptyName :
    let namings : List Naming := [.device "pads", .display "x) [y", .device "keys"]
    let namings' : List Naming := [.display "", .device "", .display "x) [y"]
    ((build 3 "keys" namings).Plain ∧ (build 3 "keys" namings').Plain) ∧
      (build 3 "keys" namings).line = (build 3 "keys" namings').line ∧
      numberOf (build 3 "keys" namings).line = 3 := by
  intro namings namings'
  have hplain : (build 3 "keys" namings).Plain :=
    ⟨⟨by decide, by decide⟩, by rintro _ ⟨⟩; decide⟩
  have hplain' : (build 3 "keys" namings').Plain :=
    ⟨⟨by decide, by decide⟩, by rintro _ ⟨⟩; decide⟩
  obtain ⟨hline, hnumber⟩ := line_tells_informative_names hplain hplain'
  exact ⟨⟨hplain, hplain'⟩, hline.mpr ⟨rfl, rfl, by decide, by decide⟩, hnumber _⟩

end Port

end MidiConsole
