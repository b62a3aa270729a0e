/-!
# UTF-8

Characters as bytes and back. Reading takes the longest valid run of characters; what is left
starts at the first byte that no valid sequence explains.
-/

namespace PlayableCards

abbrev Bytes := List UInt8

namespace Utf8

def encode (cs : List Char) : Bytes := cs.flatMap String.utf8EncodeChar

def ofString (s : String) : Bytes := encode s.toList

def isTail (b : UInt8) : Bool := 0x80 ≤ b && b ≤ 0xBF

def tailBits (b : UInt8) : Nat := b.toNat - 0x80

def isSingle (a : UInt8) : Bool := a < 0x80

/-- A character of two bytes; below `C2` the form would be overlong. -/
def isPair (a b : UInt8) : Bool := 0xC2 ≤ a && a ≤ 0xDF && isTail b

/-- A character of three bytes, neither overlong nor a surrogate. -/
def isTriple (a b c : UInt8) : Bool :=
  0xE0 ≤ a && a ≤ 0xEF && isTail b && isTail c && (a != 0xE0 || 0xA0 ≤ b)
    && (a != 0xED || b < 0xA0)

/-- A character of four bytes, not overlong and at most U+10FFFF. -/
def isQuad (a b c d : UInt8) : Bool :=
  0xF0 ≤ a && a ≤ 0xF4 && isTail b && isTail c && isTail d && (a != 0xF0 || 0x90 ≤ b)
    && (a != 0xF4 || b < 0x90)

def single (a : UInt8) : Char := Char.ofNat a.toNat

def pair (a b : UInt8) : Char := Char.ofNat ((a.toNat - 0xC0) * 0x40 + tailBits b)

def triple (a b c : UInt8) : Char :=
  Char.ofNat ((a.toNat - 0xE0) * 0x1000 + tailBits b * 0x40 + tailBits c)

def quad (a b c d : UInt8) : Char :=
  Char.ofNat ((a.toNat - 0xF0) * 0x40000 + tailBits b * 0x1000 + tailBits c * 0x40 + tailBits d)

/-- The longest valid run of characters in front, after those already `read` (last first), and
the bytes that follow it. -/
def span (read : List Char) : Bytes → List Char × Bytes
  | [] => (read.reverse, [])
  | a :: after =>
    if isSingle a then span (single a :: read) after
    else match after with
      | [] => (read.reverse, [a])
      | b :: after =>
        if isPair a b then span (pair a b :: read) after
        else match after with
          | [] => (read.reverse, [a, b])
          | c :: after =>
            if isTriple a b c then span (triple a b c :: read) after
            else match after with
              | [] => (read.reverse, [a, b, c])
              | d :: after =>
                if isQuad a b c d then span (quad a b c d :: read) after
                else (read.reverse, a :: b :: c :: d :: after)

/-- The text of `bytes`, or how many bytes remain from the first invalid one. -/
def decode (bytes : Bytes) : Except Nat String :=
  match span [] bytes with
  | (cs, []) => .ok (String.ofList cs)
  | (_, rest) => .error rest.length

end Utf8
end PlayableCards
