import PlayableCards.Json.Printer
import PlayableCards.Text.Ascii
import PlayableCards.Text.Quoted
import PlayableCards.Text.Utf8

/-!
# Faults in JSON text

Why a text was refused, and where. A fault stands after the bytes that show it: at the end of the
bytes taken, or past the byte that could not be taken.
-/

namespace PlayableCards

/-- A line, counted from one, and a number of bytes within it. -/
structure Position where
  line : Nat
  column : Nat
  deriving DecidableEq, Repr

namespace Position

def start : Position := ⟨1, 0⟩

def advance (p : Position) (b : UInt8) : Position :=
  if b = Ascii.lineFeed then ⟨p.line + 1, 0⟩ else ⟨p.line, p.column + 1⟩

def after (bytes : Bytes) : Position := bytes.foldl advance start

@[simp] theorem after_concat (bytes : Bytes) (b : UInt8) :
    after (bytes ++ [b]) = (after bytes).advance b := by
  simp [after]

def lastLineFeed? (bytes : Bytes) : Option Nat :=
  (bytes.reverse.findIdx? (· == Ascii.lineFeed)).map (bytes.length - 1 - ·)

def lineStart (bytes : Bytes) : Nat := (lastLineFeed? bytes).elim 0 (· + 1)

/-- Whether `p` is the end of `bytes`: its line counts the line feeds before the last line, its
column what the last line holds. -/
def isEndOf (p : Position) (bytes : Bytes) : Bool :=
  p.line == 1 + (bytes.take (lineStart bytes)).count Ascii.lineFeed
    && p.column == bytes.length - lineStart bytes

end Position

inductive Cause where
  | unfinishedValue
  | unfinishedString
  | unfinishedList
  | unfinishedObject
  | expectedValue
  | expectedWord
  | expectedColon
  | expectedItemEnd
  | expectedMemberEnd
  | keyNotString
  | trailingComma
  | trailingCharacters
  | tooDeep
  | invalidNumber
  | numberOutOfRange
  | controlCharacter
  | invalidEscape
  | loneSurrogate
  | missingSurrogate
  | invalidCodePoint
  /-- A value of a kind that is not wanted. -/
  | wrongKind (found : Json) (wanted : String)
  /-- A value of the wanted kind outside the wanted bounds. -/
  | outOfBounds (found : Json) (wanted : String)

/-- Whether more text could have helped, no text could, or the text is well formed and not what
was asked for. -/
inductive Category where
  | unfinished
  | malformed
  | unwanted
  deriving DecidableEq, Repr

namespace Cause

def category : Cause → Category
  | unfinishedValue | unfinishedString | unfinishedList | unfinishedObject => .unfinished
  | wrongKind _ _ | outOfBounds _ _ => .unwanted
  | _ => .malformed

def describe : Json → String
  | .null => "null"
  | .bool b => "boolean \x60" ++ (if b then "true" else "false") ++ "\x60"
  | .number (.integer n) => "integer \x60" ++ toString n ++ "\x60"
  | .number (.float f) => "floating point \x60" ++ (Number.float f).text ++ "\x60"
  | .string s => "string " ++ Text.quoted s
  | .array _ => "sequence"
  | .object _ => "map"

def message : Cause → String
  | unfinishedValue => "EOF while parsing a value"
  | unfinishedString => "EOF while parsing a string"
  | unfinishedList => "EOF while parsing a list"
  | unfinishedObject => "EOF while parsing an object"
  | expectedValue => "expected value"
  | expectedWord => "expected ident"
  | expectedColon => "expected \x60:\x60"
  | expectedItemEnd => "expected \x60,\x60 or \x60]\x60"
  | expectedMemberEnd => "expected \x60,\x60 or \x60\x7d\x60"
  | keyNotString => "key must be a string"
  | trailingComma => "trailing comma"
  | trailingCharacters => "trailing characters"
  | tooDeep => "recursion limit exceeded"
  | invalidNumber => "invalid number"
  | numberOutOfRange => "number out of range"
  | controlCharacter => "control character (\\u0000-\\u001F) found while parsing a string"
  | invalidEscape => "invalid escape"
  | loneSurrogate => "lone leading surrogate in hex escape"
  | missingSurrogate => "unexpected end of hex escape"
  | invalidCodePoint => "invalid unicode code point"
  | wrongKind found wanted => "invalid type: " ++ describe found ++ ", expected " ++ wanted
  | outOfBounds found wanted => "invalid value: " ++ describe found ++ ", expected " ++ wanted

end Cause

structure Fault where
  cause : Cause
  position : Position

namespace Fault

/-- The fault found in `text` with its first `index` bytes behind it. -/
def inText (text : Bytes) (cause : Cause) (index : Nat) : Fault :=
  ⟨cause, Position.after (text.take index)⟩

def message (f : Fault) : String :=
  f.cause.message ++ " at line " ++ toString f.position.line ++ " column "
    ++ toString f.position.column

end Fault

end PlayableCards
