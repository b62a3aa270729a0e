import PlayableCards.Json.Target

/-!
# Skipping

What is left of a text behind the bytes in front that satisfy a condition, and that more text does
not change it once a byte is left.
-/

namespace PlayableCards

variable {p : UInt8 → Bool} {text tail : Bytes} {first : UInt8}

theorem drop_length_takeWhile (p : UInt8 → Bool) (text : Bytes) :
    text.drop (text.takeWhile p).length = text.dropWhile p :=
  calc text.drop (text.takeWhile p).length
    _ = (text.takeWhile p ++ text.dropWhile p).drop (text.takeWhile p).length := by
      rw [List.takeWhile_append_dropWhile]
    _ = text.dropWhile p := List.drop_left

theorem neg_of_dropWhile (h : text.dropWhile p = first :: tail) : p first = false := by
  have hhead := List.head?_dropWhile_not p text
  simpa [h] using hhead

theorem takeWhile_of_take {n : Nat} (h : ∀ b ∈ text.take n, p b) :
    text.takeWhile p = text.take n ++ (text.drop n).takeWhile p := by
  rw [← List.takeWhile_append_of_pos h, List.take_append_drop]

theorem dropWhile_append_of_cons (h : text.dropWhile p = first :: tail) (more : Bytes) :
    (text ++ more).dropWhile p = first :: (tail ++ more) := by
  simp [List.dropWhile_append, h]

namespace Target

theorem drop_blanks (text : Bytes) : text.drop (blanks text) = text.dropWhile Ascii.isSpace :=
  drop_length_takeWhile Ascii.isSpace text

theorem blanks_le (text : Bytes) : blanks text ≤ text.length :=
  (List.takeWhile_prefix _).length_le

theorem blanks_append (h : text.dropWhile Ascii.isSpace = first :: tail) (more : Bytes) :
    blanks (text ++ more) = blanks text := by
  have hsplit := List.takeWhile_append_dropWhile (p := Ascii.isSpace) (l := text)
  have hlength := congrArg List.length hsplit
  rw [List.length_append, h, List.length_cons] at hlength
  rw [blanks, blanks, List.takeWhile_append, if_neg (by omega)]

end Target
end PlayableCards
