import TagIndex.Fault

namespace TagIndex

structure Device where
  onWrite : Nat → Option Fault := fun _ => none
  onFlush : Nat → Option Fault := fun _ => none

/-- The device that never refuses. -/
def Device.steady : Device := {}

structure Sink where
  device : Device := .steady
  writes : Nat := 0
  flushes : Nat := 0
  chunks : List Bytes := []

namespace Sink

def held (sink : Sink) : Bytes := sink.chunks.flatten

def write (sink : Sink) (chunk : Bytes) : Option Fault × Sink :=
  let call := sink.writes + 1
  match sink.device.onWrite call with
  | none => (none, { sink with writes := call, chunks := sink.chunks ++ [chunk] })
  | some fault => (some fault, { sink with writes := call })

def flush (sink : Sink) : Option Fault × Sink :=
  let call := sink.flushes + 1
  (sink.device.onFlush call, { sink with flushes := call })

theorem held_write_of_none {sink : Sink} {chunk : Bytes}
    (h : sink.device.onWrite (sink.writes + 1) = none) :
    (sink.write chunk).2.held = sink.held ++ chunk := by
  simp [write, held, h]

@[simp] theorem chunks_flush (sink : Sink) : (sink.flush).2.chunks = sink.chunks := rfl

end Sink

end TagIndex
