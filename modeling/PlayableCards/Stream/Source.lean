import PlayableCards.Text.Utf8

/-!
# Byte sources

A source holds the bytes that have not been read and a script of what the next calls will do. A
call may deliver fewer bytes than asked for, none at all, be interrupted, or fail; past the script
every call delivers as much as it can.
-/

namespace PlayableCards

structure IoFault where
  text : String
  deriving DecidableEq, Repr

namespace IoFault

def notFound : IoFault := ⟨"No such file or directory (os error 2)"⟩

def isDirectory : IoFault := ⟨"Is a directory (os error 21)"⟩

def notDirectory : IoFault := ⟨"Not a directory (os error 20)"⟩

def denied : IoFault := ⟨"Permission denied (os error 13)"⟩

def longName : IoFault := ⟨"File name too long (os error 36)"⟩

/-- A sink that takes nothing will never take it all. -/
def shortWrite : IoFault := ⟨"failed to write whole buffer"⟩

end IoFault

inductive ReadEvent where
  /-- Delivers at most so many bytes; none stands for the end of the input. -/
  | deliver (most : Nat)
  | interrupt
  | fail (fault : IoFault)
  deriving DecidableEq, Repr

structure Source where
  unread : Bytes
  script : List ReadEvent
  calls : Nat
  delivered : Nat

namespace Source

def ofBytes (bytes : Bytes) (script : List ReadEvent) : Source := ⟨bytes, script, 0, 0⟩

def deliver (s : Source) (most : Nat) : Except IoFault Bytes × Source :=
  let bytes := s.unread.take most
  (.ok bytes, { s with
    unread := s.unread.drop most
    calls := s.calls + 1
    delivered := s.delivered + bytes.length })

/-- Reads by a script, calling again after each interruption. -/
def readBy (s : Source) (room : Nat) : List ReadEvent → Except IoFault Bytes × Source
  | [] => { s with script := [] }.deliver room
  | .deliver most :: script => { s with script }.deliver (min most room)
  | .interrupt :: script => { s with calls := s.calls + 1 }.readBy room script
  | .fail fault :: script => (.error fault, { s with script, calls := s.calls + 1 })

def read (s : Source) (room : Nat) : Except IoFault Bytes × Source := s.readBy room s.script

theorem readBy_unread (s : Source) (room : Nat) (script : List ReadEvent) {bytes : Bytes}
    {s' : Source} (h : s.readBy room script = (.ok bytes, s')) :
    s.unread = bytes ++ s'.unread := by
  induction script generalizing s with
  | nil =>
    simp only [readBy, deliver, Prod.mk.injEq, Except.ok.injEq] at h
    simp [← h.1, ← h.2]
  | cons event script ih =>
    cases event with
    | deliver most =>
      simp only [readBy, deliver, Prod.mk.injEq, Except.ok.injEq] at h
      simp [← h.1, ← h.2]
    | interrupt => simpa using ih _ h
    | fail fault => simp [readBy] at h

theorem read_unread {s : Source} {room : Nat} {bytes : Bytes} {s' : Source}
    (h : s.read room = (.ok bytes, s')) : s.unread = bytes ++ s'.unread :=
  readBy_unread s room s.script h

theorem readBy_unread_of_error (s : Source) (room : Nat) (script : List ReadEvent)
    {fault : IoFault} {s' : Source} (h : s.readBy room script = (.error fault, s')) :
    s'.unread = s.unread := by
  induction script generalizing s with
  | nil => simp [readBy, deliver] at h
  | cons event script ih =>
    cases event with
    | deliver most => simp [readBy, deliver] at h
    | interrupt => simpa using ih _ h
    | fail other =>
      simp only [readBy, Prod.mk.injEq] at h
      simp [← h.2]

theorem read_unread_of_error {s : Source} {room : Nat} {fault : IoFault} {s' : Source}
    (h : s.read room = (.error fault, s')) : s'.unread = s.unread :=
  readBy_unread_of_error s room s.script h

end Source

end PlayableCards
