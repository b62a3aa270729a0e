import PlayableCards.Proofs.Stream.Account
import PlayableCards.Stream.Feed

/-!
# Runs that are fed to a consumer

A run hands over the items of its account, up to the one at which the consumer fails. A consumer
that asks for some of the items only, one by one, is given those of the account.
-/

namespace PlayableCards

/-- The account of the items for which `f` gives something. -/
def Account.pick (f : α → Option β) (a : Account α) : Account β :=
  { a with items := a.items.filterMap fun item => (f item.1).map (·, item.2) }

theorem Account.pick_cons_of_some {f : α → Option β} {value : α} {b : β} (h : f value = some b)
    (offset : Nat) (a : Account α) :
    (a.cons (value, offset)).pick f = (a.pick f).cons (b, offset) := by
  simp [pick, cons, h]

theorem Account.pick_cons_of_none {f : α → Option β} {value : α} (h : f value = none)
    (offset : Nat) (a : Account α) : (a.cons (value, offset)).pick f = a.pick f := by
  simp [pick, cons, h]

namespace Stream

def feedItems (take : σ → α → Option IoFault × σ) (fault : Option StreamFault) :
    σ → List α → Option StreamFault × σ
  | acc, [] => (fault, acc)
  | acc, value :: values =>
    match take acc value with
    | (some fault, acc') => (some (.io fault), acc')
    | (none, acc') => feedItems take fault acc' values

/-- The calls that hand the items of an account to `take`: one for each up to that at which it
fails, or one for each and one that finds the end. -/
def feedCalls (take : σ → α → Option IoFault × σ) : σ → List α → Nat
  | _, [] => 1
  | acc, value :: values =>
    match take acc value with
    | (some _, _) => 1
    | (none, acc') => feedCalls take acc' values + 1

/-- **What a stream is run to** is what the items of its account are fed to, and no call is made
after that at whose item the consumer fails. -/
theorem feed_eq (t : Target α) (take : σ → α → Option IoFault × σ) (acc : σ) (s : Stream) :
    s.feed t take acc
      = ((feedItems take (s.account t).fault acc ((s.account t).items.map Prod.fst)).1,
        (feedItems take (s.account t).fault acc ((s.account t).items.map Prod.fst)).2,
        s.after t (feedCalls take acc ((s.account t).items.map Prod.fst))) := by
  fun_induction feed t take acc s with
  | case1 acc s s' hnext =>
    rw [account_of_ended hnext]
    simp [feedItems, feedCalls, after, hnext]
  | case2 acc s fault s' hnext =>
    rw [account_of_failed hnext]
    simp [feedItems, feedCalls, after, hnext]
  | case3 acc s value s' hnext fault acc' htake =>
    rw [account_of_item hnext]
    simp [Account.cons, feedItems, feedCalls, after, htake, hnext]
  | case4 acc s value s' hnext acc' htake ih =>
    rw [ih, account_of_item hnext]
    simp [Account.cons, feedItems, feedCalls, after, htake, hnext]

theorem feed_of_yields {t : Target α} (take : σ → α → Option IoFault × σ) {s : Stream}
    {items : List (α × Nat)} {fault : Option StreamFault} {offset : Nat}
    (h : s.Yields t ⟨items, fault, offset⟩) (acc : σ) :
    ∃ s', s.feed t take acc = ((feedItems take fault acc (items.map Prod.fst)).1,
      (feedItems take fault acc (items.map Prod.fst)).2, s') := by
  have haccount := account_of_yields h
  have hfeed := feed_eq t take acc s
  rw [haccount] at hfeed
  exact ⟨_, hfeed⟩

def taken (call : Stream → Yield β × Stream) (s : Stream) : Nat → List (Yield β × Nat)
  | 0 => []
  | n + 1 =>
    match call s with
    | (yielded, s') => (yielded, s'.offset) :: s'.taken call n

theorem taken_next (t : Target α) (s : Stream) (n : Nat) :
    s.taken (next t) n = (s.account t).answers n := by
  rw [← answers_account]
  induction n generalizing s with
  | zero => rfl
  | succ n ih => simp only [taken, List.replicate_succ, answers, ih]

theorem nextSome_cases (t : Target α) (f : α → Option β) (s : Stream) :
    (∃ b s', s.nextSome t f = (.item b, s')
        ∧ (s.account t).pick f = ((s'.account t).pick f).cons (b, s'.offset))
      ∨ (∃ fault s', s.nextSome t f = (.failed fault, s') ∧ s'.phase = .done
        ∧ (s.account t).pick f = ⟨[], some fault, s'.offset⟩)
      ∨ ∃ s', s.nextSome t f = (.ended, s') ∧ s'.phase = .done
        ∧ (s.account t).pick f = ⟨[], none, s'.offset⟩ := by
  fun_induction nextSome t f s with
  | case1 s s' hnext =>
    refine .inr (.inr ⟨s', rfl, phase_next hnext (by simp), ?_⟩)
    rw [account_of_ended hnext]
    rfl
  | case2 s fault s' hnext =>
    refine .inr (.inl ⟨fault, s', rfl, phase_next hnext (by simp), ?_⟩)
    rw [account_of_failed hnext]
    rfl
  | case3 s value s' hnext b hb =>
    refine .inl ⟨b, s', rfl, ?_⟩
    rw [account_of_item hnext, Account.pick_cons_of_some hb]
  | case4 s value s' hnext hnone ih =>
    rwa [account_of_item hnext, Account.pick_cons_of_none hnone]

theorem taken_done {t : Target α} (f : α → Option β) {s : Stream} (h : s.phase = .done) (n : Nat) :
    s.taken (nextSome t f) n = List.replicate n (.ended, s.offset) := by
  have hnext : s.nextSome t f = (.ended, s) := by
    rw [nextSome]
    split <;> rename_i heq <;> simp only [next, h] at heq <;> cases heq
    rfl
  induction n with
  | zero => rfl
  | succ n ih => simp only [taken, hnext, ih, List.replicate_succ]

/-- **Items that are picked one by one** are those of the account that `f` gives something for, up
to its fault or its end. -/
theorem taken_nextSome (t : Target α) (f : α → Option β) (s : Stream) (n : Nat) :
    s.taken (nextSome t f) n = ((s.account t).pick f).answers n := by
  induction n generalizing s with
  | zero => rfl
  | succ n ih =>
    rcases nextSome_cases t f s with ⟨b, s', hnext, hpick⟩ | ⟨fault, s', hnext, hdone, hpick⟩
      | ⟨s', hnext, hdone, hpick⟩
    · simp only [taken, hnext, hpick, Account.answers_cons, ih]
    · simp only [taken, hnext, hpick, Account.answers_failed, taken_done f hdone]
    · simp only [taken, hnext, hpick, Account.answers_ended, taken_done f hdone,
        List.replicate_succ]

end Stream
end PlayableCards
