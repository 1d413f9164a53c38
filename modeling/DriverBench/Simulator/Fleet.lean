import DriverBench.Simulator.State
/-!
# All the drivers that were started

A handle names its issuer by number, and the issuer must hear of it when the handle is dropped,
even when another driver has taken its place by then. A fleet therefore keeps every driver that
was started, in order; the number of a driver is its place.
-/

namespace DriverBench.Simulator

open Device

/-- The drivers that were started, oldest first. -/
structure Fleet where
  drivers : List State := []

namespace Fleet

/-- The driver with a number. -/
def get? (f : Fleet) (serial : Nat) : Option State :=
  f.drivers[serial]?

/-- Starts a new driver and gives its number. -/
def start (f : Fleet) : Nat × Fleet :=
  (f.drivers.length, ⟨f.drivers ++ [{ serial := f.drivers.length }]⟩)

/-- Changes the driver with a number. -/
def modify (f : Fleet) (serial : Nat) (change : State → State) : Fleet :=
  ⟨f.drivers.modify serial change⟩

/-- Tells the issuer of a handle that the handle is dropped. -/
def release (f : Fleet) (h : Handle) : Fleet :=
  match h.issuer with
  | some serial => f.modify serial (·.release h)
  | none => f

/-- Makes a call of the driver with a number; there is no answer when there is no such driver. -/
def call {α : Type} (f : Fleet) (serial : Nat) (c : Call α) :
    Option (Except DriverError α) × Fleet :=
  match f.get? serial with
  | none => (none, f)
  | some s =>
    let (answer, s) := c.run.run s
    (some answer, f.modify serial fun _ => s)

end Fleet

end DriverBench.Simulator
