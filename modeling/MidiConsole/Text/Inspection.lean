import MidiConsole.Text.Quoted

namespace MidiConsole.Text

/-- A value taken apart. A record that is not `complete` has more fields than
it shows. -/
inductive Inspection where
  | atom (text : String)
  | items (elements : List Inspection)
  | tuple (name : String) (elements : List Inspection)
  | record (name : String) (fields : List (String × Inspection)) (complete : Bool)

namespace Inspection

def text (s : String) : Inspection :=
  .atom (quote s)

def number (n : Nat) : Inspection :=
  .atom (toString n)

def option : Option Inspection → Inspection
  | none => .atom "None"
  | some value => .tuple "Some" [value]

mutual

def compact : Inspection → String
  | .atom s => s
  | .items elements => "[" ++ ", ".intercalate (compactElements elements) ++ "]"
  | .tuple name elements =>
      name ++ "(" ++ ", ".intercalate (compactElements elements) ++ ")"
  | .record name fields complete =>
      let rest := if complete then [] else [".."]
      name ++ " \x7b " ++ ", ".intercalate (compactFields fields ++ rest) ++ " \x7d"

def compactElements : List Inspection → List String
  | [] => []
  | element :: elements => compact element :: compactElements elements

def compactFields : List (String × Inspection) → List String
  | [] => []
  | field :: fields => compactField field :: compactFields fields

def compactField : String × Inspection → String
  | (name, value) => name ++ ": " ++ compact value

end

/-- The lines of one part of a larger value: moved in, the last one ended by
a comma. -/
def part : List String → List String
  | [] => []
  | [line] => ["    " ++ line ++ ","]
  | line :: lines => ("    " ++ line) :: part lines

def label (before : String) : List String → List String
  | [] => [before]
  | line :: lines => (before ++ line) :: lines

mutual

def lines : Inspection → List String
  | .atom s => [s]
  | .items [] => ["[]"]
  | .items (element :: elements) =>
      "[" :: (part (lines element) ++ elementLines elements) ++ ["]"]
  | .tuple name elements => (name ++ "(") :: elementLines elements ++ [")"]
  | .record name fields complete =>
      let rest := if complete then [] else ["    .."]
      (name ++ " \x7b") :: (fieldLines fields ++ rest) ++ ["\x7d"]

def elementLines : List Inspection → List String
  | [] => []
  | element :: elements => part (lines element) ++ elementLines elements

def fieldLines : List (String × Inspection) → List String
  | [] => []
  | field :: fields => part (namedLines field) ++ fieldLines fields

def namedLines : String × Inspection → List String
  | (name, value) => label (name ++ ": ") (lines value)

end

/-- The inspection with every field and item on a line of its own. -/
def spread (inspection : Inspection) : String :=
  "\n".intercalate inspection.lines

end Inspection

end MidiConsole.Text
