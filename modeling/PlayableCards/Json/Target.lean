import PlayableCards.Json.Reader

/-!
# Reading values of a type

A target says how a JSON value becomes a value of a type. A value may be read from the start of a
text, which must then not run on into more of it, or as a whole document.
-/

namespace PlayableCards

structure Target (α : Type) where
  /-- What is wanted, by name, when no container will do: one is refused on sight. -/
  scalarOnly : Option String
  convert : Json → Except Cause α

namespace Target

def json : Target Json := ⟨none, .ok⟩

def map (f : Json → α) : Target α := ⟨none, fun j => .ok (f j)⟩

def byte : Target UInt8 where
  scalarOnly := some "u8"
  convert
    | .number (.integer n) =>
      if 0 ≤ n ∧ n < 256 then .ok n.toNat.toUInt8
      else .error (.outOfBounds (.number (.integer n)) "u8")
    | j => .error (.wrongKind j "u8")

def string : Target String where
  scalarOnly := some "a string"
  convert
    | .string s => .ok s
    | j => .error (.wrongKind j "a string")

/-- A container that the target refuses on sight. -/
def refusal? (t : Target α) (b : UInt8) : Option Cause :=
  match t.scalarOnly with
  | none => none
  | some wanted =>
    if b = Ascii.openBracket then some (.wrongKind (.array []) wanted)
    else if b = Ascii.openBrace then some (.wrongKind (.object []) wanted)
    else none

/-- A value of the target, of `used` bytes, before `rest`. -/
structure Item (α : Type) where
  value : α
  used : Nat
  rest : Bytes

def blanks (text : Bytes) : Nat := (text.takeWhile Ascii.isSpace).length

/-- Reads a value from the start of a text. The value is complete in itself; what follows it is
not looked at. -/
def readFirst (t : Target α) (text : Bytes) : Except Fault (Item α) :=
  let first := blanks text
  match (text.drop first).head?.bind t.refusal? with
  | some cause => .error (.inText text cause first)
  | none =>
    match Reader.read text with
    | .fault cause index => .error (.inText text cause index)
    | .value v used rest =>
      match t.convert v with
      | .error cause => .error (.inText text cause used)
      | .ok value => .ok ⟨value, used, rest⟩

theorem readFirst_eq_ok {t : Target α} {text : Bytes} {item : Item α}
    (h : t.readFirst text = .ok item) :
    ∃ v, Reader.read text = .value v item.used item.rest ∧ t.convert v = .ok item.value := by
  unfold readFirst at h
  simp only at h
  split at h
  · simp at h
  · split at h
    · simp at h
    · rename_i v used rest hread
      split at h
      · simp at h
      · rename_i value hconvert
        simp only [Except.ok.injEq] at h
        subst h
        exact ⟨v, hread, hconvert⟩

def readDocument (t : Target α) (text : Bytes) : Except Fault α :=
  match t.readFirst text with
  | .error fault => .error fault
  | .ok item =>
    if item.rest.all Ascii.isSpace then .ok item.value
    else .error (.inText text .trailingCharacters (item.used + blanks item.rest + 1))

end Target

end PlayableCards
