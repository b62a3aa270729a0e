import PlayableCards.Proofs.Stream.Next

/-!
# Accounts of whole runs

What a stream yields from here to its end, each item with the offset that it leaves the stream at.
-/

namespace PlayableCards

/-- What `n` calls give that yield all of the items, then the fault, if there is one, and then
nothing. -/
def Yield.sequence (items : List α) (fault : Option StreamFault) (n : Nat) : List (Yield α) :=
  (items.map Yield.item ++ fault.toList.map Yield.failed ++ List.replicate n Yield.ended).take n

inductive Call where
  | next
  | chunk (size : Nat)
  deriving DecidableEq, Repr

def Call.nexts (calls : List Call) : Nat := calls.count .next

/-- A run to its end: the items, each with the offset after it, the fault that ends them if there
is one, and the offset then. -/
structure Account (α : Type) where
  items : List (α × Nat)
  fault : Option StreamFault
  offset : Nat

namespace Account

/-- What the first `n` calls give: after the items and the fault, every call finds the end. -/
def answers (a : Account α) (n : Nat) : List (Yield α × Nat) :=
  (a.items.map (fun (i : α × Nat) => (Yield.item i.1, i.2))
    ++ a.fault.toList.map (fun f => (Yield.failed f, a.offset))
    ++ List.replicate n (Yield.ended, a.offset)).take n

def cons (item : α × Nat) (a : Account α) : Account α := { a with items := item :: a.items }

private theorem take_append_replicate_succ {β : Type} (front : List β) (last : β) (n : Nat) :
    (front ++ List.replicate (n + 1) last).take n = (front ++ List.replicate n last).take n := by
  rw [List.replicate_succ', ← List.append_assoc, List.take_append_of_le_length (by simp)]

theorem answers_cons (item : α × Nat) (a : Account α) (n : Nat) :
    (a.cons item).answers (n + 1) = (.item item.1, item.2) :: a.answers n := by
  simp only [answers, cons, List.map_cons, List.cons_append, List.take_succ_cons]
  rw [take_append_replicate_succ]

theorem answers_ended (offset n : Nat) :
    (⟨[], none, offset⟩ : Account α).answers n = List.replicate n (.ended, offset) := by
  simp [answers]

theorem answers_failed (fault : StreamFault) (offset n : Nat) :
    (⟨[], some fault, offset⟩ : Account α).answers (n + 1)
      = (.failed fault, offset) :: List.replicate n (.ended, offset) := by
  simp only [answers, List.map_nil, List.nil_append, Option.toList_some, List.map_cons,
    List.cons_append, List.take_succ_cons, List.replicate_succ', List.take_append]
  simp

theorem map_fst_answers (a : Account α) (n : Nat) :
    (a.answers n).map Prod.fst = ((a.items.map Prod.fst).map Yield.item
      ++ a.fault.toList.map Yield.failed ++ List.replicate n Yield.ended).take n := by
  simp only [answers, List.map_take, List.map_append, List.map_map, List.map_replicate]
  rfl

end Account

namespace Stream

/-- What a sequence of calls gives, with the offset after each item asked for. -/
def answers (t : Target α) (s : Stream) : List Call → List (Yield α × Nat)
  | [] => []
  | .chunk size :: calls => (s.withChunk size).answers t calls
  | .next :: calls =>
    match s.next t with
    | (yielded, s') => (yielded, s'.offset) :: s'.answers t calls

def after (t : Target α) (s : Stream) : Nat → Stream
  | 0 => s
  | n + 1 => (s.next t).2.after t n

/-- After a fault or the end nothing follows. -/
theorem phase_next {t : Target α} {s s' : Stream} {yielded : Yield α}
    (h : s.next t = (yielded, s')) (hitem : ∀ value, yielded ≠ .item value) : s'.phase = .done := by
  have hwithin : ∀ s : Stream, s.nextItem t = (yielded, s') → s'.phase = .done := by
    intro s h
    rw [nextItem] at h
    split at h <;> cases h
    case h_2 => exact absurd rfl (hitem _)
    all_goals rfl
  rw [next] at h
  split at h
  · cases h
    assumption
  · exact hwithin s h
  · split at h
    · cases h
      rfl
    · cases h
      rfl
    · exact hwithin _ h

/-- A stream gives what an account tells, whatever else is called. -/
def Yields (t : Target α) (s : Stream) (a : Account α) : Prop :=
  ∀ calls, s.answers t calls = a.answers (Call.nexts calls)

theorem Yields.of_item {t : Target α} {s s' : Stream} {a : Account α} {value : α} {offset : Nat}
    (h : s.Yields t (a.cons (value, offset))) (hnext : s.next t = (.item value, s')) :
    s'.Yields t a := by
  intro calls
  have hcalls := h (.next :: calls)
  have hnexts : Call.nexts (.next :: calls) = Call.nexts calls + 1 := List.count_cons_self
  simp only [answers, hnext, hnexts, Account.answers_cons, List.cons.injEq] at hcalls
  exact hcalls.2

theorem Yields.failed {t : Target α} {s : Stream} {fault : StreamFault} {offset : Nat}
    (h : s.Yields t ⟨[], some fault, offset⟩) : (s.next t).1 = .failed fault := by
  have hfirst : [((s.next t).1, (s.next t).2.offset)] = [(.failed fault, offset)] := h [.next]
  exact congrArg Prod.fst (List.head_eq_of_cons_eq hfirst)

theorem Yields.ended {t : Target α} {s : Stream} {offset : Nat}
    (h : s.Yields t ⟨[], none, offset⟩) : (s.next t).1 = .ended := by
  have hfirst : [((s.next t).1, (s.next t).2.offset)] = [(.ended, offset)] := h [.next]
  exact congrArg Prod.fst (List.head_eq_of_cons_eq hfirst)

def account (t : Target α) (s : Stream) : Account α :=
  match _h : s.next t with
  | (.ended, s') => ⟨[], none, s'.offset⟩
  | (.failed fault, s') => ⟨[], some fault, s'.offset⟩
  | (.item value, s') => (account t s').cons (value, s'.offset)
termination_by s.remaining
decreasing_by exact remaining_next_lt _h

theorem account_of_item {t : Target α} {s s' : Stream} {value : α}
    (h : s.next t = (.item value, s')) : s.account t = (s'.account t).cons (value, s'.offset) := by
  rw [account]
  split <;> rename_i heq <;> cases h.symm.trans heq
  rfl

theorem account_of_failed {t : Target α} {s s' : Stream} {fault : StreamFault}
    (h : s.next t = (.failed fault, s')) : s.account t = ⟨[], some fault, s'.offset⟩ := by
  rw [account]
  split <;> rename_i heq <;> cases h.symm.trans heq
  rfl

theorem account_of_ended {t : Target α} {s s' : Stream}
    (h : s.next t = (.ended, s')) : s.account t = ⟨[], none, s'.offset⟩ := by
  rw [account]
  split <;> rename_i heq <;> cases h.symm.trans heq
  rfl

theorem account_of_yields {t : Target α} {s : Stream} {a : Account α} (h : s.Yields t a) :
    s.account t = a := by
  obtain ⟨items, fault, offset⟩ := a
  induction items generalizing s with
  | nil =>
    rcases hnext : s.next t with ⟨yielded, s'⟩
    cases fault with
    | none =>
      have hfirst : [((s.next t).1, (s.next t).2.offset)] = [(.ended, offset)] := h [.next]
      rw [hnext] at hfirst
      cases hfirst
      exact account_of_ended hnext
    | some fault =>
      have hfirst : [((s.next t).1, (s.next t).2.offset)] = [(.failed fault, offset)] := h [.next]
      rw [hnext] at hfirst
      cases hfirst
      exact account_of_failed hnext
  | cons item items ih =>
    have hcons : s.Yields t ((⟨items, fault, offset⟩ : Account α).cons item) := h
    rcases hnext : s.next t with ⟨yielded, s'⟩
    have hfirst : [((s.next t).1, (s.next t).2.offset)] = [(.item item.1, item.2)] := h [.next]
    simp only [hnext, List.cons.injEq, Prod.mk.injEq, and_true] at hfirst
    rw [hfirst.1] at hnext
    rw [account_of_item hnext, ih (hcons.of_item hnext), hfirst.2]
    rfl

theorem answers_done {t : Target α} {s : Stream} (h : s.phase = .done) (calls : List Call) :
    s.answers t calls = List.replicate (Call.nexts calls) (.ended, s.offset) := by
  induction calls generalizing s with
  | nil => rfl
  | cons call calls ih =>
    cases call with
    | chunk size =>
      simp only [answers]
      rw [ih (s := s.withChunk size) h]
      simp [Call.nexts, withChunk, offset]
    | next =>
      have hnext : s.next t = (.ended, s) := by simp only [next, h]
      simp only [answers, hnext, ih h, Call.nexts, List.count_cons_self, List.replicate_succ]

theorem answers_account (t : Target α) (s : Stream) (n : Nat) :
    s.answers t (List.replicate n .next) = (s.account t).answers n := by
  induction n generalizing s with
  | zero => rfl
  | succ n ih =>
    rw [List.replicate_succ]
    have hdone : ∀ s' : Stream, s'.phase = .done →
        s'.answers t (List.replicate n .next) = List.replicate n (.ended, s'.offset) := by
      intro s' h
      simpa [Call.nexts] using answers_done (t := t) h (List.replicate n .next)
    rcases hnext : s.next t with ⟨yielded, s'⟩
    simp only [answers, hnext]
    cases yielded with
    | item value => rw [account_of_item hnext, Account.answers_cons, ih]
    | failed fault =>
      rw [account_of_failed hnext, Account.answers_failed, hdone s' (phase_next hnext (by simp))]
    | ended =>
      rw [account_of_ended hnext, Account.answers_ended, hdone s' (phase_next hnext (by simp))]
      rfl

end Stream
end PlayableCards
