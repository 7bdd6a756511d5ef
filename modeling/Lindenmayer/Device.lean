import Lindenmayer.Error

/-!
# Output devices

A device takes bytes. One with limited room takes as many as fit, also of a text that does not fit
as a whole, and then fails each time it is offered more.
-/

namespace Lindenmayer

/-- A device and what it has taken. -/
structure Device where
  /-- The bytes taken, in order. -/
  taken : Array UInt8
  /-- How many more bytes fit; without a bound, any number. -/
  room : Option Nat
  /-- How it fails when it is full. -/
  failure : DeviceError
deriving DecidableEq

namespace Device

/-- A device without a bound. -/
def unbounded : Device := ⟨#[], none, .full⟩

/-- A device that takes `room` bytes. -/
def bounded (room : Nat) (failure : DeviceError) : Device := ⟨#[], some room, failure⟩

/-- Offers bytes to a device: its state afterwards, and its failure unless it took them all. -/
def write (d : Device) (bytes : List UInt8) : Device × Option DeviceError :=
  match d.room with
  | none => ({ d with taken := d.taken ++ bytes }, none)
  | some room =>
    ({ d with taken := d.taken ++ bytes.take room, room := some (room - bytes.length) },
      if bytes.length ≤ room then none else some d.failure)

end Device

end Lindenmayer
