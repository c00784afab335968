import MidiConsole.Text.Field
import MidiConsole.Text.Inspection

namespace MidiConsole

open Text

/-- A token for a request. -/
structure Handle where
  value : UInt64
  deriving DecidableEq

namespace Handle

def invalid : Handle :=
  ⟨0⟩

def isValid (handle : Handle) : Bool :=
  handle ≠ invalid

/-- The token after this one, the last being followed by the first. -/
def next (handle : Handle) : Handle :=
  ⟨handle.value + 1⟩

instance : ToString Handle :=
  ⟨fun handle => "#" ++ toString handle.value.toNat⟩

instance : Formatted Handle :=
  ⟨fun _ handle => toString handle⟩

def inspect (handle : Handle) : Inspection :=
  .tuple "NativeHandle" [.number handle.value.toNat]

instance : Ord Handle :=
  ⟨fun a b => compare a.value b.value⟩

instance : Hashable Handle :=
  ⟨Handle.value⟩

structure Summary where
  sorted : List Handle
  distinct : Nat
  valid : Nat
  least : Option Handle
  greatest : Option Handle
  deriving DecidableEq

/-- Sort and count a collection, in which handles may occur more than once. -/
def summarize (handles : List Handle) : Summary :=
  let sorted := handles.mergeSort fun a b => (compare a b).isLE
  { sorted
    distinct := handles.eraseDups.length
    valid := handles.countP isValid
    least := sorted.head?
    greatest := sorted.getLast? }

end Handle

end MidiConsole
