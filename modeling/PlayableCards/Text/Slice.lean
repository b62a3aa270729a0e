import PlayableCards.Text.Utf8

/-!
# Texts by byte offsets

Places in a text are counted in the bytes of its UTF-8 form. A text can be cut where a character
begins or the text ends, and nowhere else.
-/

namespace PlayableCards
namespace Text

def size (cs : List Char) : Nat := (Utf8.encode cs).length

@[simp] theorem size_nil : size [] = 0 := rfl

@[simp] theorem size_cons (c : Char) (cs : List Char) : size (c :: cs) = c.utf8Size + size cs := by
  simp [size, Utf8.encode]

@[simp] theorem size_append (cs cs' : List Char) : size (cs ++ cs') = size cs + size cs' := by
  simp [size, Utf8.encode]

/-- What is before an offset, and what is from it on. Within a character and past the end of the
text there is no place to cut. -/
def splitAt? (cs : List Char) (offset : Nat) : Option (List Char × List Char) :=
  if offset = 0 then some ([], cs)
  else
    match cs with
    | [] => none
    | c :: cs =>
      if offset < c.utf8Size then none
      else (splitAt? cs (offset - c.utf8Size)).map fun parts => (c :: parts.1, parts.2)

def offset? (part : List Char) : List Char → Option Nat
  | [] => if part.isEmpty then some 0 else none
  | c :: cs =>
    if part.isPrefixOf (c :: cs) then some 0 else (offset? part cs).map (c.utf8Size + ·)

theorem splitAt?_zero (cs : List Char) : splitAt? cs 0 = some ([], cs) := by
  cases cs <;> rfl

theorem splitAt?_append (front rest : List Char) :
    splitAt? (front ++ rest) (size front) = some (front, rest) := by
  induction front with
  | nil => exact splitAt?_zero rest
  | cons c front ih =>
    have := c.utf8Size_pos
    rw [List.cons_append, size_cons, splitAt?, if_neg (by omega), if_neg (by omega),
      Nat.add_sub_cancel_left, ih]
    rfl

theorem splitAt?_eq_some {cs front rest : List Char} {offset : Nat} :
    splitAt? cs offset = some (front, rest) ↔ cs = front ++ rest ∧ size front = offset := by
  constructor
  · intro h
    fun_induction splitAt? cs offset generalizing front with
    | case1 cs => simp_all
    | case2 => cases h
    | case3 => cases h
    | case4 offset hoffset c cs hwithin ih =>
      simp only [Option.map_eq_some_iff, Prod.mk.injEq] at h
      obtain ⟨⟨front', rest'⟩, hsplit, rfl, rfl⟩ := h
      obtain ⟨rfl, hsize⟩ := ih hsplit
      refine ⟨rfl, ?_⟩
      simp only [size_cons] at hsize ⊢
      omega
  · rintro ⟨rfl, rfl⟩
    exact splitAt?_append front rest

theorem le_size_of_splitAt? {cs : List Char} {offset : Nat} {parts : List Char × List Char}
    (h : splitAt? cs offset = some parts) : offset ≤ size cs := by
  obtain ⟨rfl, rfl⟩ := splitAt?_eq_some.mp h
  rw [size_append]
  omega

end Text
end PlayableCards
