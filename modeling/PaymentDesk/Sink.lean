/-!
# Where output goes

A sink stores bytes. It may have room for a limited number of bytes, and it may allow a limited number of flushes. The
bytes that still fit are stored before a write fails.
-/

namespace PaymentDesk

/-- A store of output, with its limits. -/
structure Sink where
  stored : List UInt8 := []
  flushes : Nat := 0
  writeLimit : Option Nat := none
  flushLimit : Option Nat := none
  deriving DecidableEq, Repr

namespace Sink

/-- Why a sink refuses. -/
inductive Fault where
  | full
  | flushFailed
  deriving DecidableEq, Repr

/-- The wording of a fault. -/
def Fault.message : Fault → List Char
  | .full => "sink full".toList
  | .flushFailed => "flush failed".toList

/-- Stores bytes as far as they fit. -/
def write (bytes : List UInt8) (s : Sink) : Except Fault Unit × Sink :=
  let all := s.stored ++ bytes
  match s.writeLimit with
  | none => (.ok (), { s with stored := all })
  | some n =>
    if all.length ≤ n then (.ok (), { s with stored := all })
    else (.error .full, { s with stored := all.take n })

/-- Flushes what is stored. -/
def flush (s : Sink) : Except Fault Unit × Sink :=
  match s.flushLimit with
  | none => (.ok (), { s with flushes := s.flushes + 1 })
  | some n => if s.flushes < n then (.ok (), { s with flushes := s.flushes + 1 }) else (.error .flushFailed, s)

end Sink

end PaymentDesk
