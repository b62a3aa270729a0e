import PlayableCards.Json.Fault

/-!
# Numbers in JSON text

A number is taken in byte by byte. Integers are exact while they fit in 64 bits. All others are
floats made in three roundings at most: the leading digits that fit in 64 bits, a power of ten,
and their product or quotient.
-/

namespace PlayableCards

/-- A number being read. `digits` are its leading digits as one number, `scale` the power of ten
that they have to be multiplied by. -/
inductive Numeral where
  | signed
  /-- A zero in front, which nothing but a point or an exponent may follow. -/
  | zero (negative : Bool)
  | whole (negative : Bool) (digits : Nat)
  /-- Integer digits past those that fit. -/
  | long (negative : Bool) (digits : Nat) (scale : Int)
  | point (negative : Bool) (digits : Nat) (scale : Int)
  | fraction (negative : Bool) (digits : Nat) (scale : Int)
  /-- Fraction digits past those that fit. -/
  | longFraction (negative : Bool) (digits : Nat) (scale : Int)
  | mark (negative : Bool) (digits : Nat) (scale : Int)
  | signedMark (negative : Bool) (digits : Nat) (scale : Int) (downward : Bool)
  | power (negative : Bool) (digits : Nat) (scale : Int) (downward : Bool) (power : Nat)
  /-- A zero, or a number too small to tell from it, whose exponent is past all bounds. -/
  | vanished (negative : Bool)

namespace Numeral

inductive Step where
  | next (n : Numeral)
  /-- The byte is not part of the numeral, which is complete. -/
  | past
  | fault (cause : Cause)

/-- Digits are kept while they fit in 64 bits. -/
def fits (n : Nat) : Bool := n ≤ 0xFFFFFFFFFFFFFFFF

/-- Exponents are kept while they fit in 31 bits. -/
def powerFits (n : Nat) : Bool := n ≤ 0x7FFFFFFF

def isMark (b : UInt8) : Bool := b == 0x65 || b == 0x45

def start? (b : UInt8) : Option Numeral :=
  if b = Ascii.minus then some signed
  else if b = Ascii.zero then some (zero false)
  else if Ascii.isDigit b then some (whole false (Ascii.digitValue b))
  else none

def afterDigits (negative : Bool) (digits : Nat) (scale : Int) (b : UInt8) : Step :=
  if isMark b then .next (mark negative digits scale) else .past

def fractionDigit (negative : Bool) (digits : Nat) (scale : Int) (b : UInt8) : Numeral :=
  let more := digits * 10 + Ascii.digitValue b
  if fits more then fraction negative more (scale - 1) else longFraction negative digits scale

def powerDigit (negative : Bool) (digits : Nat) (scale : Int) (downward : Bool) (soFar : Nat)
    (b : UInt8) : Step :=
  let more := soFar * 10 + Ascii.digitValue b
  if powerFits more then .next (power negative digits scale downward more)
  else if digits != 0 && !downward then .fault .numberOutOfRange
  else .next (vanished negative)

def step (n : Numeral) (b : UInt8) : Step :=
  match n with
  | signed =>
    if b = Ascii.zero then .next (zero true)
    else if Ascii.isDigit b then .next (whole true (Ascii.digitValue b))
    else .fault .invalidNumber
  | zero negative =>
    if Ascii.isDigit b then .fault .invalidNumber
    else if b = Ascii.point then .next (point negative 0 0)
    else afterDigits negative 0 0 b
  | whole negative digits =>
    if Ascii.isDigit b then
      let more := digits * 10 + Ascii.digitValue b
      .next (if fits more then whole negative more else long negative digits 1)
    else if b = Ascii.point then .next (point negative digits 0)
    else afterDigits negative digits 0 b
  | long negative digits scale =>
    if Ascii.isDigit b then .next (long negative digits (scale + 1))
    else if b = Ascii.point then .next (point negative digits scale)
    else afterDigits negative digits scale b
  | point negative digits scale =>
    if Ascii.isDigit b then .next (fractionDigit negative digits scale b)
    else .fault .invalidNumber
  | fraction negative digits scale =>
    if Ascii.isDigit b then .next (fractionDigit negative digits scale b)
    else afterDigits negative digits scale b
  | longFraction negative digits scale =>
    if Ascii.isDigit b then .next (longFraction negative digits scale)
    else afterDigits negative digits scale b
  | mark negative digits scale =>
    if b = Ascii.plus then .next (signedMark negative digits scale false)
    else if b = Ascii.minus then .next (signedMark negative digits scale true)
    else if Ascii.isDigit b then
      .next (power negative digits scale false (Ascii.digitValue b))
    else .fault .invalidNumber
  | signedMark negative digits scale downward =>
    if Ascii.isDigit b then .next (power negative digits scale downward (Ascii.digitValue b))
    else .fault .invalidNumber
  | power negative digits scale downward soFar =>
    if Ascii.isDigit b then powerDigit negative digits scale downward soFar b else .past
  | vanished negative => if Ascii.isDigit b then .next (vanished negative) else .past

def tenTo (n : Nat) : Float := Float.ofScientific 1 false n

/-- `f · 10 ^ scale`, in steps of at most 308 places, or none when it is too large. -/
def scaled (f : Float) (scale : Int) : Option Float :=
  if scale.natAbs ≤ 308 then
    if 0 ≤ scale then
      let product := f * tenTo scale.natAbs
      if product.isInf then none else some product
    else some (f / tenTo scale.natAbs)
  else if f == 0 then some f
  else if 0 ≤ scale then none
  else scaled (f / tenTo 308) (scale + 308)
termination_by scale.natAbs

def float (negative : Bool) (digits : Nat) (scale : Int) : Except Cause Number :=
  match scaled digits.toUInt64.toFloat scale with
  | some f => .ok (.float (if negative then -f else f))
  | none => .error .numberOutOfRange

/-- Minus zero and what lies below 64 bits are floats. -/
def integer (negative : Bool) (digits : Nat) : Number :=
  if !negative then .integer digits
  else if digits = 0 || 0x8000000000000000 < digits then .float (-digits.toUInt64.toFloat)
  else .integer (-digits)

def finish : Numeral → Except Cause Number
  | zero negative => .ok (integer negative 0)
  | whole negative digits => .ok (integer negative digits)
  | long negative digits scale | fraction negative digits scale
  | longFraction negative digits scale => float negative digits scale
  | power negative digits scale downward p =>
    float negative digits (if downward then scale - p else scale + p)
  | vanished negative => .ok (.float (if negative then -0.0 else 0.0))
  | signed | point _ _ _ | mark _ _ _ | signedMark _ _ _ _ => .error .unfinishedValue

end Numeral

end PlayableCards
