import PlayableCards.Json.Basic

/-!
# Members by key

What a look-up finds among some of the members of an object.
-/

namespace PlayableCards
namespace Members

/-- The members with the keys that satisfy a condition. -/
def part (p : String → Bool) (members : Members) : Members := members.filter fun m => p m.1

def without (key : String) (members : Members) : Members := members.part (· != key)

theorem find?_part (p : String → Bool) (members : Members) (key : String) :
    (members.part p).find? key = if p key then members.find? key else none := by
  induction members with
  | nil => simp [part]
  | cons m rest ih =>
    obtain ⟨k, v⟩ := m
    rw [part] at ih ⊢
    rw [List.filter_cons]
    by_cases hk : k = key
    · subst hk
      by_cases hp : p k = true
      · simp [hp, find?]
      · simpa [hp] using ih
    · by_cases hp : p k = true
      · simpa [hp, find?, hk] using ih
      · simpa [hp, find?, hk] using ih

@[simp] theorem find?_without_self (key : String) (members : Members) :
    (members.without key).find? key = none := by
  simp [without, find?_part]

theorem find?_without_of_ne {key other : String} (h : other ≠ key) (members : Members) :
    (members.without key).find? other = members.find? other := by
  simp [without, find?_part, h]

theorem read_without {members : Members} {key : String} {v : Json} (has : members.find? key = some v)
    (read : Option Json → β) (other : String) (h : other = key → read (some v) = read none) :
    read ((members.without key).find? other) = read (members.find? other) := by
  by_cases heq : other = key
  · rw [heq, find?_without_self, has, h heq]
  · rw [find?_without_of_ne heq]

end Members
end PlayableCards
