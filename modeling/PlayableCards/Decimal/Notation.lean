import PlayableCards.Decimal.Shortest

/-!
# Decimal notation

How a decimal is spelled: plainly with at least one decimal place while its leading digit lies in
a given range of places, else in powers of ten with a signed exponent.
-/

namespace PlayableCards
namespace Decimal

structure Style where
  /-- The lowest place of a leading digit that is written plainly. -/
  lowestPlain : Int
  highestPlain : Int

def zeros (n : Nat) : List Char := List.replicate n '0'

/-- Digits whose leading one stands at `place ≥ 0`. -/
def plainLarge (digits : List Char) (place : Nat) : List Char :=
  if digits.length ≤ place + 1 then digits ++ zeros (place + 1 - digits.length) ++ ['.', '0']
  else digits.take (place + 1) ++ '.' :: digits.drop (place + 1)

/-- Digits whose leading one stands `gap + 1` places after the point. -/
def plainSmall (digits : List Char) (gap : Nat) : List Char :=
  '0' :: '.' :: zeros gap ++ digits

def inPowers (digits : List Char) (place : Int) : List Char :=
  let fraction := match digits.drop 1 with
    | [] => []
    | rest => '.' :: rest
  let sign := if place < 0 then '-' else '+'
  digits.take 1 ++ fraction ++ 'e' :: sign :: Nat.toDigits 10 place.natAbs

def Style.spell (style : Style) (d : Scientific) : List Char :=
  let digits := Nat.toDigits 10 d.digits
  let place := d.exponent + digits.length - 1
  if style.lowestPlain ≤ place ∧ place ≤ style.highestPlain then
    if 0 ≤ place then plainLarge digits place.toNat else plainSmall digits (-place - 1).toNat
  else inPowers digits place

def Style.spellFloat (style : Style) (f : Float) : String :=
  let bits := f.toBits
  let magnitude := (Binary.ofBits bits).shortest
  let sign := if 0x8000000000000000 ≤ bits then ['-'] else []
  String.ofList (sign ++ style.spell magnitude)

end Decimal
end PlayableCards
