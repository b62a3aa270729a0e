import PlayableCards.Proofs.Json.Members

/-!
# Taking members out of an object

A member is taken out of an object by putting the last member in its place. That changes the order
of the others, and nothing else: when no key comes twice, what is found for the other keys stays.
-/

namespace PlayableCards
namespace Members

def Distinct (members : Members) : Prop := (members.map Prod.fst).Nodup

theorem distinct_nil : Distinct [] := List.nodup_nil

theorem map_fst_insert (key : String) (value : Json) (members : Members) :
    (members.insert key value).map Prod.fst
      = if key ∈ members.map Prod.fst then members.map Prod.fst
        else members.map Prod.fst ++ [key] := by
  induction members with
  | nil => rfl
  | cons m rest ih =>
    obtain ⟨k, v⟩ := m
    by_cases hk : k = key
    · simp [insert, hk]
    · rw [insert, if_neg hk, List.map_cons, ih, List.map_cons]
      by_cases hmem : key ∈ rest.map Prod.fst
      · rw [if_pos hmem, if_pos (List.mem_cons_of_mem _ hmem)]
      · rw [if_neg hmem, if_neg (by simpa [Ne.symm hk] using hmem)]
        rfl

theorem Distinct.insert {members : Members} (h : members.Distinct) (key : String) (value : Json) :
    (members.insert key value).Distinct := by
  rw [Distinct, map_fst_insert]
  split
  · exact h
  · rename_i hkey
    refine List.nodup_append.mpr ⟨h, by simp, fun k hk other hother => ?_⟩
    rw [List.mem_singleton.mp hother]
    rintro rfl
    exact hkey hk

theorem find?_eq_some_iff {members : Members} (h : members.Distinct) {key : String} {v : Json} :
    members.find? key = some v ↔ (key, v) ∈ members := by
  induction members with
  | nil => simp
  | cons m rest ih =>
    obtain ⟨k, w⟩ := m
    obtain ⟨hk, hrest⟩ := List.nodup_cons.mp h
    rw [find?, List.mem_cons]
    by_cases heq : k = key
    · subst heq
      have hnot : (k, v) ∉ rest := fun hmem => hk (List.mem_map.mpr ⟨_, hmem, rfl⟩)
      simp [hnot, eq_comm]
    · rw [if_neg heq, ih hrest]
      simp [Ne.symm heq]

theorem find?_of_perm {members members' : Members} (h : members.Distinct)
    (hperm : members.Perm members') (key : String) : members.find? key = members'.find? key := by
  have h' : members'.Distinct := (hperm.map Prod.fst).nodup_iff.mp h
  refine Option.ext fun v => ?_
  rw [find?_eq_some_iff h, find?_eq_some_iff h', hperm.mem_iff]

/-- The members without the one of a key, in whose place the last one stands. -/
def swapRemove (key : String) : Members → Members
  | [] => []
  | m :: rest =>
    if m.1 = key then
      match rest.getLast? with
      | none => []
      | some last => last :: rest.dropLast
    else m :: swapRemove key rest

theorem perm_swapRemove {members : Members} (h : members.Distinct) (key : String) :
    (members.swapRemove key).Perm (members.without key) := by
  induction members with
  | nil => exact .nil
  | cons m rest ih =>
    obtain ⟨hkey, hrest⟩ := List.nodup_cons.mp h
    by_cases hm : m.1 = key
    · have hwithout : without key (m :: rest) = rest := by
        rw [without, part, List.filter_cons_of_neg (by simp [hm])]
        refine List.filter_eq_self.mpr fun other hother => ?_
        have hne : other.1 ≠ key := fun heq =>
          hkey (hm.trans heq.symm ▸ List.mem_map_of_mem hother)
        simpa using hne
      rw [swapRemove, if_pos hm, hwithout]
      cases hlast : rest.getLast? with
      | none => rw [List.getLast?_eq_none_iff.mp hlast]
      | some last =>
        obtain ⟨front, rfl⟩ := List.getLast?_eq_some_iff.mp hlast
        rw [List.dropLast_concat]
        exact (List.perm_append_singleton last front).symm
    · rw [swapRemove, if_neg hm, without, part, List.filter_cons_of_pos (by simpa using hm)]
      exact (ih hrest).cons m

theorem Distinct.swapRemove {members : Members} (h : members.Distinct) (key : String) :
    (members.swapRemove key).Distinct := by
  have hsublist : (members.without key).Sublist members := List.filter_sublist
  exact ((perm_swapRemove h key).map Prod.fst).nodup_iff.mpr (h.sublist (hsublist.map Prod.fst))

/-- **Taking one member out leaves the others to be found.** -/
theorem find?_swapRemove {members : Members} (h : members.Distinct) (key other : String) :
    (members.swapRemove key).find? other = if other = key then none else members.find? other := by
  rw [find?_of_perm (h.swapRemove key) (perm_swapRemove h key)]
  split
  · rename_i heq
    rw [heq, find?_without_self]
  · rename_i hne
    exact find?_without_of_ne hne members

/-- What is left without the members of some keys, of which the last is taken first. -/
def removing : List String → Members → Members
  | [], members => members
  | key :: keys, members => (members.removing keys).swapRemove key

theorem Distinct.removing {members : Members} (h : members.Distinct) (keys : List String) :
    (members.removing keys).Distinct := by
  induction keys with
  | nil => exact h
  | cons key keys ih => exact ih.swapRemove key

theorem find?_removing {members : Members} (h : members.Distinct) {keys : List String}
    {key : String} (hkey : key ∉ keys) :
    (members.removing keys).find? key = members.find? key := by
  induction keys with
  | nil => rfl
  | cons other keys ih =>
    rw [List.mem_cons, not_or] at hkey
    rw [removing, find?_swapRemove (h.removing keys), if_neg hkey.1, ih hkey.2]

def take (key : String) : StateM Members (Option Json) :=
  fun members => (members.find? key, members.swapRemove key)

/-- **A member is taken as it was in the whole object**, whatever has been taken before. -/
theorem take_removing {members : Members} (h : members.Distinct) {keys : List String}
    {key : String} (hkey : key ∉ keys) :
    (take key).run (members.removing keys)
      = pure (members.find? key, members.removing (key :: keys)) := by
  rw [← find?_removing h hkey]
  rfl

end Members
end PlayableCards
