import PlayableCards.Proofs.Reader.Extent
import PlayableCards.Proofs.Stream.Next
import PlayableCards.Proofs.Verdict

/-!
# Parts of a value's text

A value is decoded from its own bytes whenever it is decoded from a text that they begin. Before
the end of the input is known, a part of a text is decoded to the value in front as soon as it
shows where the value ends, and no sooner.
-/

namespace PlayableCards
namespace Target

variable {t : Target α}

theorem decode_of_through_map (f : Json → α) {part : Bytes} {r : Reader}
    (h : Reader.start.through part = some r) : (map f).decode part false = .incomplete := by
  cases hfirst : part.dropWhile Ascii.isSpace with
  | nil => simp [decode, hfirst]
  | cons first tail => exact decode_of_through hfirst rfl h (by
      rintro ⟨number, cause, -, hrefuses⟩
      cases hrefuses)

theorem decode_of_read (f : Json → α) {part : Bytes} {v : Json} {used : Nat} {rest : Bytes}
    (h : Reader.read part = .value v used rest) (hrest : rest.head?.all separates) {final : Bool}
    (hgrow : (!final && mayGrow part rest) = false) :
    (map f).decode part final = .complete (f v) used := by
  obtain ⟨first, tail, hfirst, -⟩ := Reader.begunBy_of_read h
  refine decode_of_readFirst hfirst ?_ ?_ hgrow
  · simp only [readFirst_eq hfirst, refusal?, map, h]
  · cases rest with
    | nil => simp [mayPrecede]
    | cons b rest => simpa [mayPrecede] using .inr hrest

/-- **What is decoded from a part of a text**, before the end is known: the value in front if the
part shows where it ends, and nothing if not. -/
theorem decode_part (f : Json → α) {text part : Bytes} {v : Json} {used : Nat} {rest : Bytes}
    (h : Reader.read text = .value v used rest) (hrest : rest.head?.all separates)
    (hpart : part <+: text) :
    (map f).decode part false
      = if used + v.lookahead ≤ part.length then .complete (f v) used else .incomplete := by
  have hsettled := Reader.through_take_of_read h hpart.length_le
  rw [← List.prefix_iff_eq_take.mp hpart] at hsettled
  by_cases hlength : used + v.lookahead ≤ part.length
  · rw [if_pos hlength]
    obtain ⟨more, rfl⟩ := hpart
    have hpart := Reader.read_of_settled (hsettled.mpr hlength) more
    rw [h] at hpart
    cases hread : Reader.read part with
    | fault cause index => simp [hread, Reader.Outcome.before] at hpart
    | value v' used' rest' =>
      simp only [hread, Reader.Outcome.before, Reader.Outcome.value.injEq] at hpart
      obtain ⟨rfl, rfl, rfl⟩ := hpart
      cases rest' with
      | nil =>
        have hused := Reader.read_value hread
        rw [List.length_nil] at hused
        have hshape := Json.lookahead_eq_zero.mp (show v.lookahead = 0 by omega)
        have hstart : Reader.start.Worded := trivial
        refine decode_of_read f hread rfl ?_
        simp [mayGrow, Reader.getLast?_of_run hstart hread hshape]
      | cons b rest' =>
        refine decode_of_read f hread hrest ?_
        rw [mayGrow_of_ne_nil (List.cons_ne_nil _ _), Bool.and_false]
  · rw [if_neg hlength]
    cases hthrough : Reader.start.through part with
    | none => exact absurd (hsettled.mp hthrough) hlength
    | some r => exact decode_of_through_map f hthrough

theorem decode_part_final (f : Json → α) {text part : Bytes} {v : Json} {used : Nat} {rest : Bytes}
    (h : Reader.read text = .value v used rest) (hrest : rest.head?.all separates)
    (hpart : part <+: text) (hused : used ≤ part.length) :
    (map f).decode part true = .complete (f v) used := by
  have hdecode := decode_part f h hrest hpart
  by_cases hlength : used + v.lookahead ≤ part.length
  · rw [if_pos hlength] at hdecode
    rw [decode_final (by simp [hdecode]), hdecode]
  · -- a number that ends with the part
    have hlookahead : v.lookahead ≤ 1 := by cases v <;> simp [Json.lookahead]
    have halone := Reader.read_take h
    rw [List.prefix_iff_eq_take.mp hpart, show part.length = used by omega]
    exact decode_of_read f halone rfl rfl

theorem foresees_of_through (f : Json → α) {text : Bytes} {r : Reader}
    (h : Reader.start.through text = some r) : (map f).Foresees text := by
  rintro part ⟨more, rfl⟩ seen hseen
  rw [Reader.through_append, Option.bind_eq_some_iff] at h
  obtain ⟨r', hpart, -⟩ := h
  cases part with
  | nil => cases hseen
  | cons b part =>
    simp only [Stream.sight?, decode_of_through_map f hpart] at hseen
    split at hseen
    · rename_i hb
      subst hb
      cases hpart
    · cases hseen

/-- **What is decoded from a part that breaks off within a value**, once the end is known: what may
be a number is taken for one, and all else is incomplete, except a number out of range. -/
theorem decode_cut (f : Json → α) {text part : Bytes} {v : Json} {used : Nat} {rest : Bytes}
    (h : Reader.read text = .value v used rest) (hpart : part <+: text) (hused : part.length < used)
    {first : UInt8} {tail : Bytes} (hfirst : part.dropWhile Ascii.isSpace = first :: tail) :
    (∃ value, (map f).decode part true = .complete value part.length ∧ v.shape = .number
        ∧ ∀ index, Reader.read part ≠ .fault .numberOutOfRange index)
      ∨ ((map f).decode part true = .incomplete
        ∧ ∀ index, Reader.read part ≠ .fault .numberOutOfRange index)
      ∨ ∃ fault index, (map f).decode part true = .invalid fault
        ∧ Reader.read part = .fault .numberOutOfRange index := by
  obtain ⟨r, hthrough⟩ := Reader.through_of_cut h hpart hused
  obtain ⟨more, rfl⟩ := hpart
  have hread : Reader.read part = r.run part.length [] := by
    simpa using Reader.read_of_through hthrough []
  rw [Reader.run] at hread
  cases hfinish : r.finish with
  | ok w =>
    obtain ⟨n, number, rfl, -, rfl⟩ := Reader.finish_eq_ok hfinish
    simp only [hfinish] at hread
    rw [Reader.read_of_through hthrough more] at h
    refine .inl ⟨f (.number number), decode_of_read f hread rfl rfl, Reader.run_shape rfl h, ?_⟩
    simp [hread]
  | error cause =>
    simp only [hfinish] at hread
    have hnext : (map f).readNext first part = .error (.inText part cause part.length) := by
      simp only [readNext, readFirst_eq hfirst, refusal?, map, hread]
    rcases Reader.finish_error hfinish with hcategory | rfl
    · refine .inr (.inl ⟨?_, ?_⟩)
      · simp only [decode, hfirst, hnext, Fault.inText, hcategory]
      · rintro index heq
        cases hread.symm.trans heq
        cases hcategory
    · refine .inr (.inr ⟨.inText part .numberOutOfRange part.length, part.length, ?_, hread⟩)
      simp only [decode, hfirst, hnext, Fault.inText, Cause.category, Bool.not_true,
        Bool.false_and, Bool.false_eq_true, if_false]

end Target
end PlayableCards
