import PlayableCards.Stream.Source

/-!
# Byte sinks

A sink takes bytes up to a limit, at most so many per call, be it any or the one at hand, and may
interrupt calls, which are then made again. At its limit it fails or takes nothing.
-/

namespace PlayableCards

structure Sink where
  limit : Option Nat
  /-- The bytes it takes per call. -/
  most : Option Nat
  /-- The bytes it takes by single calls, by the number of calls up to them. -/
  portions : Nat → Option Nat
  /-- How it fails at its limit; without a fault it takes nothing. -/
  refusal : Option IoFault
  /-- How many times a call is interrupted, by the number of calls before it. -/
  interruptions : Nat → Nat
  flushFault : Option IoFault
  written : Array UInt8
  calls : Nat
  flushes : Nat

namespace Sink

def unlimited : Sink := ⟨none, none, fun _ => none, none, fun _ => 0, none, #[], 0, 0⟩

/-- The bytes up to the limit, of `n`. -/
def room (s : Sink) (n : Nat) : Nat :=
  match s.limit with
  | none => n
  | some limit => min n (limit - s.written.size)

def atLimit (s : Sink) : Bool := s.limit.any (· ≤ s.written.size)

/-- The number of `n` bytes that the call at hand takes. -/
def share (s : Sink) (n : Nat) : Nat :=
  (s.portions s.calls).elim id min (s.most.elim id min (s.room n))

/-- Makes a call, again after each interruption, and takes what it can of `bytes`. -/
def take (s : Sink) (bytes : Bytes) : Except IoFault Nat × Sink :=
  let s := { s with calls := s.calls + s.interruptions s.calls + 1 }
  match s.atLimit, s.refusal with
  | true, some fault => (.error fault, s)
  | _, _ =>
    let n := s.share bytes.length
    (.ok n, { s with written := s.written ++ bytes.take n })

def write (s : Sink) (bytes : Bytes) : Option IoFault × Sink :=
  if _h : bytes.isEmpty then (none, s)
  else
    match s.take bytes with
    | (.error fault, s') => (some fault, s')
    | (.ok 0, s') => (some .shortWrite, s')
    | (.ok (n + 1), s') => s'.write (bytes.drop (n + 1))
termination_by bytes.length
decreasing_by
  cases bytes with
  | nil => simp at _h
  | cons b bytes =>
    simp only [List.length_drop, List.length_cons]
    omega

def flush (s : Sink) : Option IoFault × Sink :=
  (s.flushFault, { s with flushes := s.flushes + 1 })

end Sink
end PlayableCards
