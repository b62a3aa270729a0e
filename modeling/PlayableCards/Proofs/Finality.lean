import PlayableCards.Proofs.Foresight

/-!
# Final verdicts

What is decided of a buffer before the end of the input is decided for good, for targets that take
every value: a fault always, and a value that ends before the buffer does or ends itself. A word at
the end of the buffer is neither, for more letters may follow it.
-/

namespace PlayableCards
namespace Target

variable {t : Target α}

theorem decode_append_of_closed {text : Bytes} {value : α} {used : Nat}
    (h : t.decode text false = .complete value used)
    (hclosed : used < text.length
      ∨ ((text.take used).dropWhile Ascii.isSpace).head?.any endsItself = true)
    (more : Bytes) (final : Bool) : t.decode (text ++ more) final = .complete value used := by
  obtain ⟨first, tail, rest, hfirst, hread, hprecede, -⟩ := decode_eq_complete h
  refine decode_append_of_mayPrecede hfirst h hread ?_ final
  rcases hclosed with hused | hends
  · -- a byte of the buffer follows the value, and what is behind that byte does not matter
    obtain ⟨v, hvalue, -⟩ := readFirst_eq_ok hread
    have hlength := Reader.read_value hvalue
    have hrest : rest ≠ [] := by
      rintro rfl
      simp only [List.length_nil] at hlength
      omega
    rwa [mayPrecede_append hrest]
  · cases hvalue : (text.take used).dropWhile Ascii.isSpace with
    | nil => simp [hvalue] at hends
    | cons b bytes =>
      have htext := dropWhile_append_of_cons hvalue (text.drop used)
      rw [List.take_append_drop, hfirst] at htext
      cases htext
      rw [hvalue, List.head?_cons, Option.any_some] at hends
      simp [mayPrecede, hends]

/-- **Verdicts are final.** A buffer at fault is so whatever follows, with the same message at the
same place. A value that ends before the buffer does, or that is a string or a container, is the
value of every text that the buffer begins, and takes as much of it. -/
theorem verdict_is_final (f : Json → α) (buffer more : Bytes) (final : Bool) :
    (∀ fault, (map f).decode buffer false = .invalid fault →
        (map f).decode (buffer ++ more) final = .invalid fault)
      ∧ ∀ value used, (map f).decode buffer false = .complete value used →
        (used < buffer.length
          ∨ ((buffer.take used).dropWhile Ascii.isSpace).head?.any endsItself = true) →
        (map f).decode (buffer ++ more) final = .complete value used := by
  refine ⟨fun fault h => ?_, fun value used h hclosed => ?_⟩
  · exact decode_invalid_append h (not_refusesNumber_map f buffer) more final
  · exact decode_append_of_closed h hclosed more final

/-- The buffers `[1 2]`, which lacks a comma, and `"x"`, before more of the input. -/
theorem verdict_before_more : ∃ fault,
    (map id).decode [0x5B, 0x31, 0x20, 0x32, 0x5D] false = .invalid fault
      ∧ (map id).decode ([0x5B, 0x31, 0x20, 0x32, 0x5D] ++ [0x2C, 0x33]) true = .invalid fault
      ∧ (map id).decode [0x22, 0x78, 0x22] false = .complete (.string "x") 3
      ∧ (map id).decode ([0x22, 0x78, 0x22] ++ [0x78]) true = .complete (.string "x") 3 := by
  have hlist : (map id).decode [0x5B, 0x31, 0x20, 0x32, 0x5D] false
      = .invalid (.inText [0x5B, 0x31, 0x20, 0x32, 0x5D] .expectedItemEnd 4) := by rfl
  have hstring : (map id).decode [0x22, 0x78, 0x22] false = .complete (.string "x") 3 := by rfl
  exact ⟨_, hlist, (verdict_is_final id _ _ true).1 _ hlist, hstring,
    (verdict_is_final id _ _ true).2 _ _ hstring (.inr rfl)⟩

end Target
end PlayableCards
