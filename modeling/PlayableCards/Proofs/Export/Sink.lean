import PlayableCards.Export.Sink

/-!
# What sinks take

A sink may take the bytes in any portions and interrupt any calls; as long as it takes some in each
call short of its limit, it comes to hold all that is written, up to the limit.
-/

namespace PlayableCards
namespace Sink

/-- The sink takes some bytes in every call that its limit leaves room for. -/
structure Willing (s : Sink) : Prop where
  most : s.most ≠ some 0
  portions : ∀ calls, s.portions calls ≠ some 0

/-- The sink will take `n` bytes more: it takes some in every call and is that far from its
limit. -/
structure Takes (s : Sink) (n : Nat) : Prop where
  most : s.most ≠ some 0
  portions : ∀ calls, s.portions calls ≠ some 0
  limit : ∀ limit, s.limit = some limit → s.written.size + n ≤ limit

structure Like (s s' : Sink) : Prop where
  limit : s.limit = s'.limit
  most : s.most = s'.most
  portions : s.portions = s'.portions
  refusal : s.refusal = s'.refusal
  flushFault : s.flushFault = s'.flushFault
  flushes : s.flushes = s'.flushes

/-- How writing fails when the limit is reached. -/
def limitFault (s : Sink) : IoFault := s.refusal.getD .shortWrite

theorem willing_unlimited : unlimited.Willing := ⟨by simp [unlimited], by simp [unlimited]⟩

theorem Takes.willing {s : Sink} {n : Nat} (h : s.Takes n) : s.Willing := ⟨h.most, h.portions⟩

theorem Like.refl (s : Sink) : s.Like s := ⟨rfl, rfl, rfl, rfl, rfl, rfl⟩

theorem Like.trans {s s' s'' : Sink} (h : s.Like s') (h' : s'.Like s'') : s.Like s'' :=
  ⟨h.limit.trans h'.limit, h.most.trans h'.most, h.portions.trans h'.portions,
    h.refusal.trans h'.refusal, h.flushFault.trans h'.flushFault, h.flushes.trans h'.flushes⟩

theorem Like.limitFault {s s' : Sink} (h : s.Like s') : s.limitFault = s'.limitFault := by
  rw [Sink.limitFault, Sink.limitFault, h.refusal]

theorem Like.willing {s s' : Sink} (h : s.Like s') (hw : s'.Willing) : s.Willing :=
  ⟨h.most ▸ hw.most, h.portions ▸ hw.portions⟩

theorem room_of_takes {s : Sink} {n : Nat} (h : s.Takes n) : s.room n = n := by
  rw [room]
  cases hlimit : s.limit with
  | none => rfl
  | some limit =>
    have := h.limit limit hlimit
    simp only
    omega

theorem room_of_no_limit {s : Sink} (h : s.limit = none) (n : Nat) : s.room n = n := by
  rw [room, h]

theorem room_le (s : Sink) (n : Nat) : s.room n ≤ n := by
  rw [room]
  split <;> omega

theorem room_of_le (s : Sink) {m n : Nat} (h : m ≤ n) : s.room m = min m (s.room n) := by
  simp only [room]
  split <;> omega

theorem room_sub {s s' : Sink} {bytes : Bytes} {n : Nat} (hlike : s'.Like s)
    (hwritten : s'.written.toList = s.written.toList ++ bytes) (h : bytes.length ≤ s.room n) :
    s'.room (n - bytes.length) = s.room n - bytes.length := by
  have hsize : s'.written.size = s.written.size + bytes.length := by
    simpa using congrArg List.length hwritten
  simp only [room, hlike.limit, hsize] at h ⊢
  split <;> rename_i hlimit <;> simp only [hlimit] at h <;> omega

theorem atLimit_iff {s : Sink} {n : Nat} (hn : 0 < n) : s.atLimit = true ↔ s.room n = 0 := by
  rw [atLimit, room]
  cases s.limit with
  | none => simp only [Option.any_none, Bool.false_eq_true, false_iff]; omega
  | some limit => simp only [Option.any_some, decide_eq_true_eq]; omega

theorem elim_min {bound : Option Nat} (h : bound ≠ some 0) {n : Nat} (hn : 0 < n) :
    0 < bound.elim id min n ∧ bound.elim id min n ≤ n := by
  cases bound with
  | none => exact ⟨hn, Nat.le_refl n⟩
  | some b =>
    have hb : b ≠ 0 := fun hzero => h (congrArg some hzero)
    simp only [Option.elim_some]
    omega

theorem share_of_willing {s : Sink} (h : s.Willing) {n : Nat} (hn : 0 < s.room n) :
    0 < s.share n ∧ s.share n ≤ s.room n := by
  obtain ⟨hmost, hmostle⟩ := elim_min h.most hn
  obtain ⟨hshare, hsharele⟩ := elim_min (h.portions s.calls) hmost
  exact ⟨hshare, Nat.le_trans hsharele hmostle⟩

theorem share_of_no_room {s : Sink} {n : Nat} (hn : s.room n = 0) : s.share n = 0 := by
  rw [share, hn]
  cases s.most <;> cases s.portions s.calls <;> simp

theorem take_of_room {s : Sink} (h : s.Willing) {bytes : Bytes} (hroom : 0 < s.room bytes.length) :
    ∃ n s', s.take bytes = (.ok (n + 1), s') ∧ n + 1 ≤ s.room bytes.length
      ∧ s'.written.toList = s.written.toList ++ bytes.take (n + 1) ∧ s'.Like s := by
  have hpos : 0 < bytes.length := Nat.lt_of_lt_of_le hroom (room_le s _)
  have hcall : Willing { s with calls := s.calls + s.interruptions s.calls + 1 } :=
    ⟨h.most, h.portions⟩
  obtain ⟨hshare, hle⟩ := share_of_willing hcall hroom
  have hlimit : atLimit { s with calls := s.calls + s.interruptions s.calls + 1 } = false := by
    rw [← Bool.not_eq_true, atLimit_iff hpos]
    exact Nat.ne_of_gt hroom
  obtain ⟨n, hn⟩ := Nat.exists_eq_add_one.mpr hshare
  rw [hn] at hle
  rcases htake : s.take bytes with ⟨outcome, s'⟩
  simp only [take, hlimit, hn, Prod.mk.injEq] at htake
  obtain ⟨rfl, rfl⟩ := htake
  exact ⟨n, _, rfl, hle, by simp, ⟨rfl, rfl, rfl, rfl, rfl, rfl⟩⟩

theorem take_of_no_room {s : Sink} {bytes : Bytes} (hne : bytes ≠ [])
    (hroom : s.room bytes.length = 0) :
    ∃ s', s'.written = s.written ∧ s'.Like s
      ∧ (s.take bytes = (.error s.limitFault, s')
        ∨ s.take bytes = (.ok 0, s') ∧ s.limitFault = .shortWrite) := by
  have hlimit : atLimit { s with calls := s.calls + s.interruptions s.calls + 1 } = true :=
    (atLimit_iff (List.length_pos_iff.mpr hne)).mpr hroom
  have hshare : share { s with calls := s.calls + s.interruptions s.calls + 1 } bytes.length = 0 :=
    share_of_no_room hroom
  refine ⟨{ s with calls := s.calls + s.interruptions s.calls + 1 }, rfl,
    ⟨rfl, rfl, rfl, rfl, rfl, rfl⟩, ?_⟩
  simp only [take, hlimit, hshare, limitFault, List.take_zero]
  cases s.refusal with
  | some fault => exact .inl rfl
  | none => exact .inr ⟨by simp, rfl⟩

/-- **What is written** is taken up to the limit, in however many calls, and writing fails if that
is not all. -/
theorem write_of_willing {s : Sink} (h : s.Willing) (bytes : Bytes) :
    ∃ s', s.write bytes
        = (if s.room bytes.length < bytes.length then some s.limitFault else none, s')
      ∧ s'.written.toList = s.written.toList ++ bytes.take (s.room bytes.length)
      ∧ s'.Like s := by
  by_cases hne : bytes = []
  · subst hne
    exact ⟨s, by simp [write], by simp, .refl s⟩
  · rcases Nat.eq_zero_or_pos (s.room bytes.length) with hzero | hpos
    · obtain ⟨s', hwritten, hlike, htake⟩ := take_of_no_room hne hzero
      have hlength := List.length_pos_iff.mpr hne
      refine ⟨s', ?_, by simp [hwritten, hzero], hlike⟩
      rw [write, dif_neg (by simpa using hne), hzero, if_pos hlength]
      rcases htake with htake | ⟨htake, hfault⟩
      · rw [htake]
      · rw [htake, hfault]
    · obtain ⟨n, s₁, htake, hle, hwritten, hlike⟩ := take_of_room h hpos
      have hbytes := room_le s bytes.length
      have hfront : (bytes.take (n + 1)).length = n + 1 := by
        rw [List.length_take]
        omega
      obtain ⟨s', hwrite, hwritten', hlike'⟩ :=
        write_of_willing (hlike.willing h) (bytes.drop (n + 1))
      have hroom := room_sub hlike hwritten (n := bytes.length) (by rwa [hfront])
      rw [hfront] at hroom
      rw [List.length_drop, hroom] at hwrite hwritten'
      refine ⟨s', ?_, ?_, hlike'.trans hlike⟩
      · rw [write, dif_neg (by simpa using hne), htake]
        simp only [hwrite, hlike.limitFault, Nat.sub_lt_sub_iff_right hle]
      · rw [hwritten', hwritten, List.append_assoc, ← List.take_add, Nat.add_sub_cancel' hle]
termination_by bytes.length
decreasing_by
  simp only [List.length_drop]
  have := List.length_pos_iff.mpr hne
  omega

end Sink
end PlayableCards
