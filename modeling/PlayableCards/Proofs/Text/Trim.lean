import PlayableCards.Text.Blank

/-!
# Texts without the blanks around them

Cutting blanks from both ends leaves the one part of a text that begins and ends with no blank and
has nothing but blanks around it.
-/

namespace PlayableCards
namespace Text

variable {cs core : List Char}

/-- A text is `core` with nothing but blanks around it, and `core` has none at its ends. -/
structure Trimmed (cs core : List Char) : Prop where
  within : ∃ front back, cs = front ++ (core ++ back) ∧ front.all isBlank ∧ back.all isBlank
  first : core.head?.any isBlank = false
  last : core.getLast?.any isBlank = false

theorem any_head?_dropWhile (p : Char → Bool) (cs : List Char) :
    (cs.dropWhile p).head?.any p = false := by
  have hhead := List.head?_dropWhile_not p cs
  cases h : (cs.dropWhile p).head? with
  | none => rfl
  | some c => simpa [h] using hhead

theorem dropWhile_of_head? {p : Char → Bool} (h : cs.head?.any p = false) :
    cs.dropWhile p = cs := by
  cases cs with
  | nil => rfl
  | cons c cs =>
    rw [List.dropWhile_cons_of_neg]
    simpa using h

theorem dropWhile_append_of_all {p : Char → Bool} {front : List Char} (h : front.all p)
    (rest : List Char) : (front ++ rest).dropWhile p = rest.dropWhile p :=
  List.dropWhile_append_of_pos fun c hc => List.all_eq_true.mp h c hc

theorem trimmed_trim (cs : List Char) : Trimmed cs (trim cs) := by
  have hfront := List.takeWhile_append_dropWhile (p := isBlank) (l := cs)
  have hback := List.takeWhile_append_dropWhile (p := isBlank)
    (l := (cs.dropWhile isBlank).reverse)
  have hsplit : cs.dropWhile isBlank
      = trim cs ++ ((cs.dropWhile isBlank).reverse.takeWhile isBlank).reverse := by
    rw [trim, ← List.reverse_append, hback, List.reverse_reverse]
  refine ⟨⟨cs.takeWhile isBlank, _, by rw [← hsplit, hfront], List.all_takeWhile, ?_⟩, ?_, ?_⟩
  · rw [List.all_reverse]
    exact List.all_takeWhile
  · cases hcore : trim cs with
    | nil => rfl
    | cons c core =>
      have hhead := any_head?_dropWhile isBlank cs
      rwa [hsplit, hcore, List.cons_append, List.head?_cons, ← List.head?_cons (l := core)] at hhead
  · rw [trim, List.getLast?_reverse]
    exact any_head?_dropWhile _ _

theorem Trimmed.eq (h : Trimmed cs core) : trim cs = core := by
  obtain ⟨⟨front, back, rfl, hfront, hback⟩, hfirst, hlast⟩ := h
  have hreverse : back.reverse.all isBlank := by rwa [List.all_reverse]
  cases core with
  | nil =>
    rw [trim, dropWhile_append_of_all hfront, List.nil_append,
      ← List.append_nil back, dropWhile_append_of_all hback]
    rfl
  | cons c core =>
    have hdrop : (c :: core ++ back).dropWhile isBlank = c :: core ++ back :=
      dropWhile_of_head? (by simpa using hfirst)
    rw [trim, dropWhile_append_of_all hfront, hdrop, List.reverse_append,
      dropWhile_append_of_all hreverse, dropWhile_of_head?, List.reverse_reverse]
    rwa [List.head?_reverse]

theorem trim_eq_iff : trim cs = core ↔ Trimmed cs core :=
  ⟨fun h => h ▸ trimmed_trim cs, Trimmed.eq⟩

end Text
end PlayableCards
