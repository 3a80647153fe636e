import ScriptRunner.Text.Utf8

/-!
# Operator output

What a run tells the operator goes to an output that may take only so many bytes. A write that does
not fit is cut short where the room ends, and fails, as does every later write of at least one byte.
A write can also have a fault of its own, whatever room there is, and later writes may then succeed.
-/

namespace ScriptRunner

open Text

/-- A failure of one write. -/
structure Fault where
  /-- How many bytes are taken before, if there is room for them. -/
  taken : Nat
  /-- What the operating system says. -/
  message : Text
  deriving DecidableEq, Repr

/-- An output, with the bytes that it took. -/
structure Output where
  /-- How many more bytes the output takes. Without a number it takes everything. -/
  room : Option Nat := none
  /-- Whether the writes to come have faults. Those behind the list have none. -/
  faults : List (Option Fault) := []
  delivered : Bytes := []
  deriving DecidableEq, Repr

namespace Output

/-- What the operating system says of an output that takes no more. -/
def brokenPipe : Text := "Broken pipe (os error 32)"

/-- The output with as many of the bytes as there is room for, and whether that is all of them. -/
def take (output : Output) (bytes : Bytes) : Output × Bool :=
  match output.room with
  | none => ({ output with delivered := output.delivered ++ bytes }, true)
  | some room =>
    ({ output with
        room := some (room - bytes.length)
        delivered := output.delivered ++ bytes.take room },
     decide (bytes.length ≤ room))

/-- The output after a write, and the error if the write failed. -/
def write (output : Output) (bytes : Bytes) : Output × Option Text :=
  match output.faults with
  | some fault :: faults =>
    ({ (output.take (bytes.take fault.taken)).1 with faults := faults }, some fault.message)
  | faults =>
    let taken := output.take bytes
    ({ taken.1 with faults := faults.tail }, if taken.2 then none else some brokenPipe)

/-- An output without a limit and without faults takes every byte. -/
theorem delivered_write_of_unlimited (output : Output) (bytes : Bytes) (h : output.room = none)
    (hf : output.faults = []) :
    (output.write bytes).1.delivered = output.delivered ++ bytes := by
  simp [write, take, h, hf]

end Output

end ScriptRunner
