import Mathlib.Algebra.GroupWithZero.Nat
import Mathlib.Data.List.Sort
import Mathlib.Logic.Function.Defs
import PlayableCards.Export.Stats

/-!
# Counts

Statistics count the outcomes of the cards recorded. A tally keeps its rules in order, so that each
has one entry at most.
-/

namespace PlayableCards

namespace Exclusion

theorem rank_pairwise : all.Pairwise fun r r' => r.rank < r'.rank := by decide

theorem mem_all (r : Exclusion) : r ∈ all := by cases r <;> decide

end Exclusion

namespace Tally

def Sorted (t : Tally) : Prop := t.Pairwise fun a b => a.1.rank < b.1.rank

theorem rank_injective : Function.Injective Exclusion.rank := by
  intro e e' h
  cases e <;> cases e' <;> first | rfl | cases h

theorem lt_of_sorted {t : Tally} {first : Exclusion × Nat} (h : Sorted (first :: t)) {e : Exclusion}
    (he : e.rank < first.1.rank) : ∀ entry ∈ first :: t, e.rank < entry.1.rank := by
  intro entry hentry
  rcases List.mem_cons.mp hentry with rfl | hentry
  · exact he
  · exact Nat.lt_trans he ((List.pairwise_cons.mp h).1 entry hentry)

theorem mem_add {t : Tally} {e : Exclusion} {entry : Exclusion × Nat} (h : entry ∈ t.add e) :
    entry.1 = e ∨ ∃ n, (entry.1, n) ∈ t := by
  induction t with
  | nil => simp_all [add]
  | cons first rest ih =>
    obtain ⟨other, n⟩ := first
    rw [add] at h
    grind

theorem sorted_add {t : Tally} (h : t.Sorted) (e : Exclusion) : (t.add e).Sorted := by
  induction t with
  | nil => exact List.pairwise_singleton _ _
  | cons first rest ih =>
    obtain ⟨other, n⟩ := first
    obtain ⟨hfirst, hrest⟩ := List.pairwise_cons.mp h
    rw [add]
    by_cases heq : e = other
    · rw [if_pos heq]
      exact List.pairwise_cons.mpr ⟨hfirst, hrest⟩
    · rw [if_neg heq]
      by_cases hlt : e.rank < other.rank
      · rw [if_pos hlt]
        exact List.pairwise_cons.mpr ⟨lt_of_sorted h hlt, h⟩
      · rw [if_neg hlt]
        refine List.pairwise_cons.mpr ⟨fun entry hentry => ?_, ih hrest⟩
        have hne : e.rank ≠ other.rank := fun hrank => heq (rank_injective hrank)
        rcases mem_add hentry with hmem | ⟨k, hmem⟩
        · simp only [hmem]
          omega
        · exact hfirst (entry.1, k) hmem

theorem count_of_lt {t : Tally} {e : Exclusion} (h : ∀ entry ∈ t, e.rank < entry.1.rank) :
    t.count e = 0 := by
  induction t with
  | nil => rfl
  | cons first rest ih =>
    obtain ⟨other, n⟩ := first
    have hne : other ≠ e := by
      rintro rfl
      exact Nat.lt_irrefl _ (h (other, n) List.mem_cons_self)
    rw [count, if_neg hne]
    exact ih fun entry hentry => h entry (List.mem_cons_of_mem _ hentry)

theorem count_add {t : Tally} (h : t.Sorted) (e e' : Exclusion) :
    (t.add e).count e' = t.count e' + if e = e' then 1 else 0 := by
  induction t with
  | nil => simp [add, count]
  | cons first rest ih =>
    obtain ⟨other, n⟩ := first
    have hrest : Sorted rest := (List.pairwise_cons.mp h).2
    rw [add]
    by_cases heq : e = other
    · rw [if_pos heq, count, count]
      by_cases he : other = e' <;> simp [he, heq]
    · rw [if_neg heq]
      by_cases hlt : e.rank < other.rank
      · rw [if_pos hlt, count]
        by_cases he : e = e'
        · subst he
          have hzero : count ((other, n) :: rest) e = 0 := count_of_lt (lt_of_sorted h hlt)
          simp [hzero]
        · simp [he]
      · rw [if_neg hlt, count, count, ih hrest]
        by_cases he : other = e'
        · have : e ≠ e' := fun h => heq (h.trans he.symm)
          simp [he, this]
        · simp [he]

def Positive (t : Tally) : Prop := ∀ entry ∈ t, 0 < entry.2

theorem positive_add {t : Tally} (h : t.Positive) (e : Exclusion) : (t.add e).Positive := by
  induction t with
  | nil => exact List.forall_mem_singleton.mpr Nat.zero_lt_one
  | cons first rest ih =>
    obtain ⟨other, n⟩ := first
    obtain ⟨hfirst, hrest⟩ := List.forall_mem_cons.mp h
    rw [add]
    by_cases heq : e = other
    · rw [if_pos heq]
      exact List.forall_mem_cons.mpr ⟨Nat.zero_lt_succ n, hrest⟩
    · rw [if_neg heq]
      by_cases hlt : e.rank < other.rank
      · rw [if_pos hlt]
        exact List.forall_mem_cons.mpr ⟨Nat.zero_lt_one, h⟩
      · rw [if_neg hlt]
        exact List.forall_mem_cons.mpr ⟨hfirst, ih hrest⟩

theorem mem_iff_count {t : Tally} (hs : t.Sorted) (hp : t.Positive) {e : Exclusion} {n : Nat} :
    (e, n) ∈ t ↔ 0 < n ∧ t.count e = n := by
  induction t with
  | nil =>
    refine iff_of_false List.not_mem_nil ?_
    rintro ⟨hn, rfl⟩
    exact Nat.lt_irrefl 0 hn
  | cons first rest ih =>
    obtain ⟨other, k⟩ := first
    obtain ⟨hbefore, hrest⟩ := List.pairwise_cons.mp hs
    obtain ⟨hk, hpositive⟩ := List.forall_mem_cons.mp hp
    rw [List.mem_cons, count, ih hrest hpositive]
    by_cases heq : other = e
    · subst heq
      have hzero : count rest other = 0 := count_of_lt hbefore
      rw [if_pos rfl, hzero, Prod.mk.injEq]
      constructor
      · rintro (⟨-, rfl⟩ | ⟨hn, rfl⟩)
        · exact ⟨hk, rfl⟩
        · exact absurd hn (Nat.lt_irrefl 0)
      · rintro ⟨-, rfl⟩
        exact .inl ⟨rfl, rfl⟩
    · rw [if_neg heq, Prod.mk.injEq]
      exact or_iff_right fun h => heq h.1.symm

theorem lookup_eq_some_iff {t : Tally} (h : t.Sorted) {e : Exclusion} {n : Nat} :
    t.lookup e = some n ↔ (e, n) ∈ t := by
  rw [List.lookup_eq_some_iff]
  constructor
  · rintro ⟨before, after, rfl, -⟩
    exact List.mem_append_right before List.mem_cons_self
  · intro hmem
    obtain ⟨before, after, rfl⟩ := List.append_of_mem hmem
    refine ⟨before, after, rfl, fun entry hentry => ?_⟩
    have hlt := (List.pairwise_append.mp h).2.2 entry hentry (e, n) List.mem_cons_self
    rw [bne_iff_ne]
    rintro rfl
    exact Nat.lt_irrefl _ hlt

theorem total_eq_sum (t : Tally) : t.total = (t.map Prod.snd).sum := by
  induction t with
  | nil => rfl
  | cons first rest ih => rw [total, ih, List.map_cons, List.sum_cons]

end Tally

namespace Stats

/-- The counts of what has become of cards. -/
structure Counts (s : Stats) (outcomes : List Outcome) : Prop where
  records : s.records = outcomes.length
  blocks : s.blocks = outcomes.countP fun o => o matches .block _
  unnamed : s.unnamed = outcomes.count .unnamed
  sorted : s.excluded.Sorted
  excluded : ∀ e, s.excluded.count e = outcomes.count (.excluded e)

theorem positive_zero : zero.excluded.Positive := by
  simp [Tally.Positive, zero]

theorem positive_record {s : Stats} (h : s.excluded.Positive) (o : Outcome) :
    (s.record o).excluded.Positive := by
  cases o with
  | block b => exact h
  | unnamed => exact h
  | excluded e => exact Tally.positive_add h e

theorem counts_zero : zero.Counts [] := ⟨rfl, rfl, rfl, List.Pairwise.nil, fun _ => rfl⟩

theorem counts_record {s : Stats} {outcomes : List Outcome} (h : s.Counts outcomes) (o : Outcome) :
    (s.record o).Counts (outcomes ++ [o]) := by
  obtain ⟨hrecords, hblocks, hunnamed, hsorted, hexcluded⟩ := h
  cases o with
  | block b =>
    constructor
    all_goals simp [record, hrecords, hblocks, hunnamed, hsorted, hexcluded]
  | unnamed =>
    constructor
    all_goals simp [record, hrecords, hblocks, hunnamed, hsorted, hexcluded]
  | excluded e =>
    constructor
    case sorted => exact Tally.sorted_add hsorted e
    case excluded =>
      intro e'
      simp [record, Tally.count_add hsorted, hexcluded, List.count_append, List.count_singleton]
    all_goals simp [record, hrecords, hblocks, hunnamed]

/-- Going through all rules finds the entries of a tally, and in their order. -/
theorem listed_eq_excluded {s : Stats} (h : s.excluded.Sorted) : s.listed = s.excluded := by
  have : Std.Irrefl fun a b : Exclusion × Nat => a.1.rank < b.1.rank := ⟨fun a => Nat.lt_irrefl _⟩
  have : Std.Antisymm fun a b : Exclusion × Nat => a.1.rank < b.1.rank :=
    ⟨fun a b hlt hgt => absurd hgt (Nat.lt_asymm hlt)⟩
  refine List.Pairwise.eq_of_mem_iff ?_ h fun entry => ?_
  · refine Exclusion.rank_pairwise.filterMap _ fun e e' hlt entry hentry entry' hentry' => ?_
    obtain ⟨n, -, rfl⟩ := Option.map_eq_some_iff.mp hentry
    obtain ⟨n', -, rfl⟩ := Option.map_eq_some_iff.mp hentry'
    exact hlt
  · obtain ⟨e, n⟩ := entry
    rw [listed, List.mem_filterMap, ← Tally.lookup_eq_some_iff h]
    constructor
    · rintro ⟨e', -, hentry⟩
      obtain ⟨k, hk, heq⟩ := Option.map_eq_some_iff.mp hentry
      cases heq
      exact hk
    · intro hn
      exact ⟨e, Exclusion.mem_all e, by rw [hn, Option.map_some]⟩

end Stats
end PlayableCards
