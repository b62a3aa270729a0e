import PlayableCards.Decimal.Notation

/-!
# JSON values

Objects keep their members in the order in which each key first came; a key that comes again
takes the later value in the earlier place.
-/

namespace PlayableCards

/-- An integer when it was written as one and fits in 64 bits, signed or unsigned. -/
inductive Number where
  | integer (n : Int)
  | float (f : Float)

namespace Number

/-- Floats are written plainly from five places after the point to sixteen before it. -/
def style : Decimal.Style := ⟨-5, 15⟩

def text : Number → String
  | integer n => toString n
  | float f => style.spellFloat f

def isZero : Number → Bool
  | integer n => n == 0
  | float f => f == 0

end Number

inductive Json where
  | null
  | bool (b : Bool)
  | number (n : Number)
  | string (s : String)
  | array (items : List Json)
  | object (members : List (String × Json))
  deriving Inhabited

abbrev Members := List (String × Json)

namespace Members

/-- Puts a member last, or in place of the one of the same key. -/
def insert (key : String) (value : Json) : Members → Members
  | [] => [(key, value)]
  | (k, v) :: rest => if k = key then (k, value) :: rest else (k, v) :: insert key value rest

def find? (members : Members) (key : String) : Option Json :=
  match members with
  | [] => none
  | (k, v) :: rest => if k = key then some v else find? rest key

@[simp] theorem find?_nil (key : String) : find? [] key = none := rfl

theorem find?_insert_self (ms : Members) (key : String) (value : Json) :
    find? (insert key value ms) key = some value := by
  induction ms with
  | nil => simp [insert, find?]
  | cons m rest ih =>
    obtain ⟨k, v⟩ := m
    by_cases hk : k = key <;> simp [insert, find?, hk, ih]

theorem find?_insert_of_ne (ms : Members) {key other : String} (value : Json) (h : other ≠ key) :
    find? (insert key value ms) other = find? ms other := by
  induction ms with
  | nil => simp [insert, find?, Ne.symm h]
  | cons m rest ih =>
    obtain ⟨k, v⟩ := m
    by_cases hk : k = key
    · subst hk
      simp [insert, find?, Ne.symm h]
    · by_cases ho : k = other
      · subst ho
        simp [insert, find?, h]
      · simp [insert, find?, hk, ho, ih]

end Members

end PlayableCards
