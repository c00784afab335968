namespace MidiConsole.Text

def BeginsWith (c : Char) (text : String) : Prop :=
  text.toList.head? = some c

theorem BeginsWith.append {c : Char} {text : String} (h : BeginsWith c text) (rest : String) :
    BeginsWith c (text ++ rest) := by
  rw [BeginsWith, String.toList_append, List.head?_append, h]
  rfl

theorem BeginsWith.eq {c d : Char} {text : String} (h : BeginsWith c text)
    (h' : BeginsWith d text) : c = d :=
  Option.some.inj (h.symm.trans h')

theorem divided_inj {c : Char} {first first' rest rest' : List Char} (hfirst : c ∉ first)
    (hfirst' : c ∉ first') (h : first ++ c :: rest = first' ++ c :: rest') :
    first = first' ∧ rest = rest' := by
  induction first generalizing first' with
  | nil =>
      rcases first' with _ | ⟨d, first'⟩
      · exact ⟨rfl, (List.cons.inj h).2⟩
      · obtain rfl : c = d := (List.cons.inj h).1
        exact absurd List.mem_cons_self hfirst'
  | cons d first ih =>
      rcases first' with _ | ⟨d', first'⟩
      · obtain rfl : d = c := (List.cons.inj h).1
        exact absurd List.mem_cons_self hfirst
      · obtain ⟨rfl, htail⟩ := List.cons.inj h
        obtain ⟨rfl, hrest⟩ := ih (fun hmem => hfirst (List.mem_cons_of_mem _ hmem))
          (fun hmem => hfirst' (List.mem_cons_of_mem _ hmem)) htail
        exact ⟨rfl, hrest⟩

theorem takeWhile_divided {c : Char} {first : List Char} (h : c ∉ first) (rest : List Char) :
    (first ++ c :: rest).takeWhile (· ≠ c) = first := by
  rw [List.takeWhile_append_of_pos, List.takeWhile_cons_of_neg, List.append_nil]
  · simp
  · intro d hd
    exact decide_eq_true fun heq => h (heq ▸ hd)

theorem dropWhile_divided {c : Char} {first : List Char} (h : c ∉ first) (rest : List Char) :
    (first ++ c :: rest).dropWhile (· ≠ c) = c :: rest := by
  rw [List.dropWhile_append_of_pos, List.dropWhile_cons_of_neg]
  · simp
  · intro d hd
    exact decide_eq_true fun heq => h (heq ▸ hd)

theorem line_inj {line line' rest rest' : String} (hline : '\n' ∉ line.toList)
    (hline' : '\n' ∉ line'.toList) (h : line ++ "\n" ++ rest = line' ++ "\n" ++ rest') :
    line = line' ∧ rest = rest' := by
  have hchars := congrArg String.toList h
  rw [String.append_assoc, String.append_assoc] at hchars
  simp only [String.toList_append] at hchars
  obtain ⟨hfirst, hrest⟩ := divided_inj hline hline' hchars
  exact ⟨String.toList_inj.mp hfirst, String.toList_inj.mp hrest⟩

def ofLines (lines : List String) : String :=
  String.join (lines.map fun line => line ++ "\n")

theorem ofLines_nil_append (rest : String) : ofLines [] ++ rest = rest :=
  String.empty_append

theorem ofLines_cons_append (line : String) (lines : List String) (rest : String) :
    ofLines (line :: lines) ++ rest = line ++ "\n" ++ (ofLines lines ++ rest) := by
  rw [ofLines, List.map_cons, String.join_cons, String.append_assoc, ofLines]

/-- A line that cannot be taken for the end of a section: it has a character, and no
newline. -/
structure IsFull (line : String) : Prop where
  ne_empty : line ≠ ""
  notMem : '\n' ∉ line.toList

/-- A text tells the full lines before its first empty one, and what follows that. -/
theorem ofLines_append_inj {lines lines' : List String} {rest rest' : String}
    (hlines : ∀ line ∈ lines, IsFull line) (hlines' : ∀ line ∈ lines', IsFull line)
    (h : ofLines lines ++ ("\n" ++ rest) = ofLines lines' ++ ("\n" ++ rest')) :
    lines = lines' ∧ rest = rest' := by
  have hempty : ∀ rest : String, "\n" ++ rest = "" ++ "\n" ++ rest := fun rest => by
    rw [String.empty_append]
  have hnone : '\n' ∉ "".toList := List.not_mem_nil
  induction lines generalizing lines' with
  | nil =>
      rw [ofLines_nil_append] at h
      rcases lines' with _ | ⟨line', lines'⟩
      · rw [ofLines_nil_append] at h
        exact ⟨rfl, (String.append_right_inj "\n").mp h⟩
      · obtain ⟨hfull', -⟩ := List.forall_mem_cons.mp hlines'
        rw [ofLines_cons_append, hempty] at h
        exact absurd (line_inj hnone hfull'.notMem h).1.symm hfull'.ne_empty
  | cons line lines ih =>
      obtain ⟨hfull, hothers⟩ := List.forall_mem_cons.mp hlines
      rw [ofLines_cons_append] at h
      rcases lines' with _ | ⟨line', lines'⟩
      · rw [ofLines_nil_append, hempty] at h
        exact absurd (line_inj hfull.notMem hnone h).1 hfull.ne_empty
      · obtain ⟨hfull', hothers'⟩ := List.forall_mem_cons.mp hlines'
        rw [ofLines_cons_append] at h
        obtain ⟨rfl, htail⟩ := line_inj hfull.notMem hfull'.notMem h
        obtain ⟨rfl, hrest⟩ := ih hothers hothers' htail
        exact ⟨rfl, hrest⟩

theorem ofLines_inj {lines lines' : List String} (hlines : ∀ line ∈ lines, IsFull line)
    (hlines' : ∀ line ∈ lines', IsFull line) (h : ofLines lines = ofLines lines') :
    lines = lines' :=
  (ofLines_append_inj hlines hlines' (congrArg (· ++ ("\n" ++ "")) h)).1

end MidiConsole.Text
