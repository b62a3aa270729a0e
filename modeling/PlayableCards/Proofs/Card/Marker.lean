import Mathlib.Data.List.Basic
import PlayableCards.Card.Marker

/-!
# Where markers stand

A search by offsets finds a marker in a text if and only if it stands there by itself: each
occurrence is tried, from the first on, and the text is cut between characters only.
-/

namespace PlayableCards

namespace Text

theorem of_offset?_eq_some {part cs : List Char} {offset : Nat}
    (h : offset? part cs = some offset) :
    ∃ front rest, cs = front ++ (part ++ rest) ∧ size front = offset
      ∧ ∀ front' rest', cs = front' ++ (part ++ rest') → front.length ≤ front'.length := by
  induction cs generalizing offset with
  | nil =>
    rw [offset?] at h
    split at h
    · rename_i hpart
      cases h
      rw [List.isEmpty_iff.mp hpart]
      exact ⟨[], [], rfl, rfl, fun _ _ _ => Nat.zero_le _⟩
    · cases h
  | cons c cs ih =>
    rw [offset?] at h
    split at h
    · rename_i hfirst
      cases h
      obtain ⟨rest, hrest⟩ := List.isPrefixOf_iff_prefix.mp hfirst
      exact ⟨[], rest, hrest.symm, rfl, fun _ _ _ => Nat.zero_le _⟩
    · rename_i hfirst
      obtain ⟨offset', hoffset, rfl⟩ := Option.map_eq_some_iff.mp h
      obtain ⟨front, rest, rfl, rfl, hleast⟩ := ih hoffset
      refine ⟨c :: front, rest, rfl, size_cons c front, fun front' rest' hcs => ?_⟩
      cases front' with
      | nil =>
        rw [List.nil_append] at hcs
        exact absurd (List.isPrefixOf_iff_prefix.mpr ⟨rest', hcs.symm⟩) hfirst
      | cons c' front' =>
        injection hcs with hc hcs
        exact Nat.succ_le_succ (hleast front' rest' hcs)

theorem of_offset?_eq_none {part cs : List Char} (h : offset? part cs = none)
    (front rest : List Char) : cs ≠ front ++ (part ++ rest) := by
  induction cs generalizing front with
  | nil =>
    intro hcs
    simp_all [offset?]
  | cons c cs ih =>
    intro hcs
    rw [offset?] at h
    split at h
    · cases h
    · rename_i hfirst
      rw [Option.map_eq_none_iff] at h
      cases front with
      | nil =>
        rw [List.nil_append] at hcs
        exact hfirst (List.isPrefixOf_iff_prefix.mpr ⟨rest, hcs.symm⟩)
      | cons c' front =>
        injection hcs with hc hcs
        exact ih h front hcs

end Text

namespace Marker

variable {marker text : List Char}

/-- `marker` stands by itself in a text: neither the character directly before it nor the one
directly after it is alphabetic. -/
def Stands (marker text : List Char) : Prop :=
  ∃ before after, text = before ++ (marker ++ after)
    ∧ bounds before.getLast? = true ∧ bounds after.head? = true

/-- `marker` stands by itself in a text that follows `front`. -/
def StandsBehind (marker front text : List Char) : Prop :=
  ∃ before after, text = before ++ (marker ++ after)
    ∧ bounds (front ++ before).getLast? = true ∧ bounds after.head? = true

/-- After an occurrence that does not stand by itself, the search goes on behind its first
character. -/
theorem standsBehind_iff_of_rejected {front skipped after : List Char} {c : Char}
    (hleast : ∀ before after', skipped ++ (c :: marker ++ after) = before ++ (c :: marker ++ after') →
      skipped.length ≤ before.length)
    (hrejected : (bounds (front ++ skipped).getLast? && bounds after.head?) = false) :
    StandsBehind (c :: marker) front (skipped ++ (c :: marker ++ after))
      ↔ StandsBehind (c :: marker) (front ++ skipped ++ [c]) (marker ++ after) := by
  constructor
  · rintro ⟨before, after', htext, hbefore, hafter⟩
    obtain ⟨between, rfl⟩ : skipped <+: before :=
      List.prefix_of_prefix_length_le (List.prefix_append _ _) ⟨_, htext.symm⟩
        (hleast before after' htext)
    rw [List.append_assoc, List.append_cancel_left_eq] at htext
    cases between with
    | nil =>
      -- this is the occurrence that was rejected
      obtain rfl : after = after' := by simpa using htext
      rw [List.append_nil] at hbefore
      rw [hbefore, hafter] at hrejected
      cases hrejected
    | cons c' between =>
      injection htext with hc htext
      subst hc
      exact ⟨between, after', htext, by simpa using hbefore, hafter⟩
  · rintro ⟨between, after', htext, hbefore, hafter⟩
    refine ⟨skipped ++ c :: between, after', ?_, by simpa using hbefore, hafter⟩
    simp only [List.cons_append, htext, List.append_assoc]

theorem cuts_of_offset? {part front rest : List Char} {start skipped : Nat}
    (hcut : Text.splitAt? text start = some (front, rest))
    (hoffset : Text.offset? part rest = some skipped) :
    ∃ between after, rest = between ++ (part ++ after)
      ∧ (∀ between' after', rest = between' ++ (part ++ after') →
        between.length ≤ between'.length)
      ∧ Text.splitAt? text (start + skipped) = some (front ++ between, part ++ after)
      ∧ Text.splitAt? text (start + skipped + Text.size part)
        = some (front ++ between ++ part, after) := by
  obtain ⟨rfl, rfl⟩ := Text.splitAt?_eq_some.mp hcut
  obtain ⟨between, after, rfl, rfl, hleast⟩ := Text.of_offset?_eq_some hoffset
  refine ⟨between, after, rfl, hleast, ?_, ?_⟩ <;>
    simp [Text.splitAt?_eq_some, Nat.add_assoc]

/-- **A search from an offset on is answered**, by whether the marker stands behind it. -/
theorem scan?_eq_some (hmarker : marker ≠ []) {front rest : List Char} {start : Nat}
    (h : Text.splitAt? text start = some (front, rest)) :
    ∃ answer, scan? marker text start = some answer
      ∧ (answer = true ↔ StandsBehind marker front rest) := by
  fun_induction scan? marker text start generalizing front rest with
  | case1 start hcut =>
    cases hcut.symm.trans h
  | case2 start _ _ hcut hoffset =>
    cases hcut.symm.trans h
    refine ⟨false, rfl, iff_of_false Bool.false_ne_true ?_⟩
    rintro ⟨before, after, hrest, -⟩
    exact Text.of_offset?_eq_none hoffset before after hrest
  | case3 start front' rest' hcut skipped hoffset before here _ after hend hstart hbounds =>
    cases hcut.symm.trans h
    obtain ⟨between, after', hrest, -, hstart', hend'⟩ := cuts_of_offset? h hoffset
    cases hstart.symm.trans hstart'
    cases hend.symm.trans hend'
    obtain ⟨hbefore, hafter⟩ := Bool.and_eq_true_iff.mp hbounds
    exact ⟨true, rfl, iff_of_true rfl ⟨between, after, hrest, hbefore, hafter⟩⟩
  | case4 start front' rest' hcut skipped hoffset before here _ after hend hstart hbounds ih =>
    cases hcut.symm.trans h
    obtain ⟨between, after', hrest, hleast, hstart', hend'⟩ := cuts_of_offset? h hoffset
    cases hstart.symm.trans hstart'
    cases hend.symm.trans hend'
    cases marker with
    | nil => exact absurd rfl hmarker
    | cons c marker =>
      have hnext : Text.splitAt? text (start + skipped + stride (c :: marker ++ after))
          = some (front' ++ between ++ [c], marker ++ after) := by
        obtain ⟨htext, hsize⟩ := Text.splitAt?_eq_some.mp hstart
        rw [Text.splitAt?_eq_some, htext, ← hsize]
        simp [stride, Nat.add_assoc]
      obtain ⟨answer, hscan, hanswer⟩ := ih hnext
      refine ⟨answer, hscan, hanswer.trans ?_⟩
      rw [hrest] at hleast ⊢
      exact (standsBehind_iff_of_rejected hleast (Bool.eq_false_iff.mpr hbounds)).symm
  | case5 start _ _ hcut skipped hoffset huncut =>
    cases hcut.symm.trans h
    obtain ⟨between, after, -, -, hstart, hend⟩ := cuts_of_offset? h hoffset
    exact (huncut _ _ _ _ hstart hend).elim

theorem search?_eq_some (marker text : List Char) :
    ∃ answer, search? marker text = some answer
      ∧ (answer = true ↔ marker ≠ [] ∧ Stands marker text) := by
  rw [search?]
  cases marker with
  | nil => exact ⟨false, rfl, iff_of_false Bool.false_ne_true fun h => h.1 rfl⟩
  | cons c marker =>
    obtain ⟨answer, hscan, hanswer⟩ := scan?_eq_some (List.cons_ne_nil c marker)
      (Text.splitAt?_zero text)
    exact ⟨answer, hscan, hanswer.trans (iff_and_self.mpr fun _ => List.cons_ne_nil c marker)⟩

theorem found_eq_true {marker text : String} :
    found marker text = true ↔ marker.toList ≠ [] ∧ Stands marker.toList text.toList := by
  obtain ⟨answer, hsearch, hanswer⟩ := search?_eq_some marker.toList text.toList
  rw [found, hsearch, ← hanswer, beq_iff_eq, Option.some.injEq]

theorem ne_nil_of_mem_digitalOnly {marker : String} (h : marker ∈ digitalOnly) :
    marker.toList ≠ [] := by
  have hall : ∀ marker ∈ digitalOnly, marker.toList ≠ [] := by decide +kernel
  exact hall marker h

theorem anyDigital_iff_stands {text : String} :
    anyDigital text = true
      ↔ ∃ marker ∈ digitalOnly, Stands marker.toList (Text.lowercase text.toList) := by
  simp only [anyDigital, List.any_eq_true, found_eq_true, String.toList_ofList]
  exact exists_congr fun marker => and_congr_right fun hmarker =>
    and_iff_right (ne_nil_of_mem_digitalOnly hmarker)

/-- **A marker is found** where it stands by itself, be it behind or within other occurrences, and
nowhere else. The search always has an answer: it cuts the text between characters only. The empty
marker is not found. -/
theorem found_iff_stands (marker text : String) :
    search? marker.toList text.toList = some (found marker text)
      ∧ (found marker text = true ↔ marker ≠ "" ∧ Stands marker.toList text.toList) := by
  refine ⟨?_, found_eq_true.trans (and_congr_left fun _ => not_congr String.toList_eq_nil_iff)⟩
  obtain ⟨answer, hsearch, -⟩ := search?_eq_some marker.toList text.toList
  rw [found, hsearch]
  cases answer <;> rfl

/-- Two occurrences that overlap; the first has a letter before it. -/
example : found "a-a" "xa-a-a" = true := by decide +kernel

end Marker
end PlayableCards
