import PlayableCards.Proofs.Stream.Failing
import PlayableCards.Proofs.Stream.Moves

/-!
# Ends of streams

A stream ends once. After the end or a fault, calls give the end and leave everything else as it is.
After a read that brought nothing, no call reads again, whatever the source still holds.
-/

namespace PlayableCards
namespace Stream

variable {t : Target α} {s s' s'' : Stream}

def afterCalls (t : Target α) (s : Stream) (calls : List Call) (k : Nat) : Stream :=
  (calls.take k).foldl (call t) s

theorem afterCalls_succ (t : Target α) (s : Stream) (calls : List Call) (k : Nat) :
    s.afterCalls t calls (k + 1) = match calls[k]? with
      | none => s.afterCalls t calls k
      | some c => (s.afterCalls t calls k).call t c := by
  rw [afterCalls, List.take_add_one, List.foldl_append]
  cases calls[k]? <;> rfl

/-- From one stream to the other nothing but reads is done to the source, and a read that brings
nothing is the last. -/
def Ceases (s s' : Stream) : Prop :=
  ∃ n, s'.source = s.source.reads s.chunk n
    ∧ (∀ m < n, ((s.source.reads s.chunk m).read s.chunk).1 = .ok [] →
      m + 1 = n ∧ s'.exhausted = true)
    ∧ (s.exhausted = true → n = 0 ∧ s'.exhausted = true)

theorem Ceases.of_quiet (hsource : s'.source = s.source) (hexhausted : s'.exhausted = s.exhausted) :
    Ceases s s' :=
  ⟨0, hsource, fun m hm => absurd hm (Nat.not_lt_zero m), fun h => ⟨rfl, hexhausted.trans h⟩⟩

theorem Ceases.congr (h : Ceases s s') (hsource : s''.source = s'.source)
    (hexhausted : s''.exhausted = s'.exhausted) : Ceases s s'' := by
  rw [Ceases, hsource, hexhausted]
  exact h

/-- Reads go on only where none has come back empty. -/
theorem Ceases.trans (h : Ceases s s') (hchunk : s'.chunk = s.chunk) (h' : Ceases s' s'') :
    Ceases s s'' := by
  obtain ⟨n, hreads, hlast, hrest⟩ := h
  obtain ⟨n', hreads', hlast', hrest'⟩ := h'
  rw [hchunk, hreads, ← Source.reads_add] at hreads'
  rw [hchunk, hreads] at hlast'
  refine ⟨n + n', hreads', fun m hm hempty => ?_, fun hexhausted => ?_⟩
  · rcases Nat.lt_or_ge m n with hlt | hge
    · obtain ⟨heq, hexhausted⟩ := hlast m hlt hempty
      obtain ⟨hnone, hexhausted'⟩ := hrest' hexhausted
      exact ⟨by omega, hexhausted'⟩
    · have hsplit : n + (m - n) = m := Nat.add_sub_cancel' hge
      rw [← hsplit, Source.reads_add] at hempty
      obtain ⟨heq, hexhausted⟩ := hlast' (m - n) (by omega) hempty
      exact ⟨by omega, hexhausted⟩
  · obtain ⟨hnone, hexhausted'⟩ := hrest hexhausted
    obtain ⟨hnone', hexhausted''⟩ := hrest' hexhausted'
    exact ⟨by omega, hexhausted''⟩

theorem ceases_fill {fault : Option IoFault} (hmore : s.exhausted = false)
    (h : s.fill = (fault, s')) : Ceases s s' := by
  refine ⟨1, (fill_source h).1, fun m hm hempty => ?_, fun h => ?_⟩
  · obtain rfl : m = 0 := Nat.lt_one_iff.mp hm
    rw [Source.reads] at hempty
    rw [fill] at h
    split at h <;> rename_i hread <;> rw [hread] at hempty <;> cases hempty
    cases h
    exact ⟨rfl, rfl⟩
  · exact absurd (hmore.symm.trans h) Bool.false_ne_true

theorem ceases_gather (p : UInt8 → Bool) (look : Bytes → Option β) (last : Bytes → β) (s : Stream) :
    Ceases s (s.gather p look last).2 := by
  fun_induction gather p look last s with
  | case1 s ahead | case2 s ahead => exact .of_quiet rfl rfl
  | case3 s ahead hexhausted hlook fault s' hfill =>
    exact ceases_fill (s := ahead) (by simpa using hexhausted) hfill
  | case4 s ahead hexhausted hlook s' hfill ih =>
    have hread : Ceases s s' := ceases_fill (s := ahead) (by simpa using hexhausted) hfill
    exact hread.trans (fill_source hfill).2 ih

theorem ceases_skipMark (s : Stream) : Ceases s s.skipMark.2 := by
  have hgather := ceases_gather (fun _ => false) marked?
    (fun bytes => marked? bytes == some true) s
  rw [skipMark]
  split <;> rename_i heq <;> rw [heq] at hgather
  · exact hgather
  · split <;> exact hgather.congr rfl rfl

theorem ceases_enter (s : Stream) : Ceases s s.enter.2 := by
  have hmark := ceases_skipMark s
  have hchunk := (draws_skipMark s).1
  rw [enter]
  split <;> rename_i g hskip <;> rw [hskip] at hmark hchunk
  · exact hmark
  · have hgather := ceases_gather Ascii.isSpace opens? (fun bytes => opens? bytes == some true) g
    refine hmark.trans hchunk ?_
    split
    · rename_i hopens
      rw [hopens] at hgather
      exact hgather.congr rfl rfl
    · exact hgather

theorem ceases_nextItem (t : Target α) (s : Stream) : Ceases s (s.nextItem t).2 := by
  have hgather := ceases_gather isBetween (sight? t false)
    (fun bytes => (sight? t true bytes).getD .nothing) s
  rw [nextItem]
  split <;> rename_i heq <;> rw [heq] at hgather <;> exact hgather.congr rfl rfl

/-- **A call reads on until a read comes back empty**, at the latest, and not at all if one has. -/
theorem ceases_next (t : Target α) (s : Stream) : Ceases s (s.next t).2 := by
  have henter := ceases_enter s
  have hchunk : s.enter.2.chunk = s.chunk := ((draws_skipMark s).trans (draws_enter s)).1
  rw [next]
  split
  · exact .of_quiet rfl rfl
  · exact ceases_nextItem t s
  · split <;> rename_i hentry <;> rw [hentry] at henter hchunk
    · exact henter.congr rfl rfl
    · exact henter.congr rfl rfl
    · exact henter.trans hchunk (ceases_nextItem t _)

theorem ceases_call (t : Target α) (s : Stream) (c : Call) : Ceases s (s.call t c) := by
  cases c with
  | next => exact ceases_next t s
  | chunk size => exact .of_quiet rfl rfl

theorem ceases_afterCalls (t : Target α) (s : Stream) (calls : List Call) (k : Nat) :
    Ceases (s.afterCalls t calls k) (s.afterCalls t calls (k + 1)) := by
  rw [afterCalls_succ]
  cases calls[k]? with
  | none => exact .of_quiet rfl rfl
  | some c => exact ceases_call t _ c

theorem exhausted_afterCalls {calls : List Call} {k j : Nat} (hkj : k ≤ j)
    (h : (s.afterCalls t calls k).exhausted = true) :
    (s.afterCalls t calls j).exhausted = true := by
  induction j, hkj using Nat.le_induction with
  | base => exact h
  | succ j _ ih =>
    obtain ⟨_, -, -, hrest⟩ := ceases_afterCalls t s calls j
    exact (hrest ih).2

theorem next_done (h : s.phase = .done) : s.next t = (.ended, s) := by
  simp only [next, h]

theorem afterCalls_of_done {calls : List Call} {k j : Nat} (hkj : k ≤ j)
    (h : (s.afterCalls t calls k).phase = .done) :
    (s.afterCalls t calls j).phase = .done
      ∧ (s.afterCalls t calls j).source = (s.afterCalls t calls k).source
      ∧ (s.afterCalls t calls j).offset = (s.afterCalls t calls k).offset := by
  induction j, hkj using Nat.le_induction with
  | base => exact ⟨h, rfl, rfl⟩
  | succ j _ ih =>
    rw [afterCalls_succ]
    cases calls[j]? with
    | none => exact ih
    | some c =>
      cases c with
      | chunk size => exact ih
      | next =>
        simp only [call, next_done ih.1]
        exact ih

theorem exists_account (t : Target α) (s : Stream) (calls : List Call) :
    ∃ a : Account α, s.answers t calls = a.answers (Call.nexts calls) := by
  induction calls generalizing s with
  | nil => exact ⟨⟨[], none, 0⟩, rfl⟩
  | cons c calls ih =>
    cases c with
    | chunk size => exact ih (s.withChunk size)
    | next =>
      have hnexts : Call.nexts (.next :: calls) = Call.nexts calls + 1 := List.count_cons_self
      rcases hnext : s.next t with ⟨yielded, s'⟩
      simp only [answers, hnext, hnexts]
      cases yielded with
      | item value =>
        obtain ⟨a, ha⟩ := ih s'
        exact ⟨a.cons (value, s'.offset), by rw [Account.answers_cons, ha]⟩
      | failed fault =>
        refine ⟨⟨[], some fault, s'.offset⟩, ?_⟩
        rw [Account.answers_failed, answers_done (phase_next hnext (by simp))]
      | ended =>
        refine ⟨⟨[], none, s'.offset⟩, ?_⟩
        rw [Account.answers_ended, answers_done (phase_next hnext (by simp)), List.replicate_succ]

/-- **A run ends once, and reading ends once**, whatever the source does and whatever is called.
What the calls give are items, then at most one fault, and from there on the end. After a call that
gave no item, every call gives the end, reads nothing and leaves the offset. The reads of a call are
`reads k` in number; after one that brought nothing there is no other, be it in that call or in any
later one. -/
theorem calls_cease (t : Target α) (input : Bytes) (script : List ReadEvent) (calls : List Call) :
    let start := ofSource (.ofBytes input script)
    let s := start.afterCalls t calls
    (∃ a : Account α, start.answers t calls = a.answers (Call.nexts calls))
      ∧ (∀ k, calls[k]? = some .next → (∀ value, ((s k).next t).1 ≠ .item value) →
        ∀ j, k < j → (s j).next t = (.ended, s j) ∧ (s j).source = (s (k + 1)).source
          ∧ (s j).offset = (s (k + 1)).offset)
      ∧ ∃ reads : Nat → Nat, ∀ k, (s (k + 1)).source = (s k).source.reads (s k).chunk (reads k)
        ∧ ∀ m < reads k, (((s k).source.reads (s k).chunk m).read (s k).chunk).1 = .ok [] →
          m + 1 = reads k ∧ ∀ j, k < j → reads j = 0 := by
  intro start s
  refine ⟨exists_account t start calls, fun k hk hitem j hkj => ?_, ?_⟩
  · have hdone : (s (k + 1)).phase = .done := by
      have hcall : s (k + 1) = ((s k).next t).2 := by
        simp only [s, afterCalls_succ, hk]
        rfl
      rw [hcall]
      exact phase_next rfl hitem
    obtain ⟨hphase, hsource, hoffset⟩ := afterCalls_of_done hkj hdone
    exact ⟨next_done hphase, hsource, hoffset⟩
  · choose reads hreads hlast hrest using ceases_afterCalls t start calls
    refine ⟨reads, fun k => ⟨hreads k, fun m hm hempty => ?_⟩⟩
    obtain ⟨hm', hexhausted⟩ := hlast k m hm hempty
    exact ⟨hm', fun j hkj => (hrest j (exhausted_afterCalls hkj hexhausted)).1⟩

/-- The document `[1,2]`, whose source brings nothing behind the one: the rest is never read. -/
theorem calls_cease_before_rest :
    let s := (ofSource (.ofBytes [0x5B, 0x31, 0x2C, 0x32, 0x5D]
      [.deliver 2, .deliver 0])).afterCalls .json [.next, .chunk 4, .next, .next]
    ∀ j, 2 < j → (s j).next .json = (.ended, s j) ∧ (s j).source.unread = [0x2C, 0x32, 0x5D] := by
  intro s j hj
  obtain ⟨-, hends, -⟩ := calls_cease .json [0x5B, 0x31, 0x2C, 0x32, 0x5D] [.deliver 2, .deliver 0]
    [.next, .chunk 4, .next, .next]
  have hsilent : ((s 2).next .json).1.silent = true := by decide +kernel
  have hunread : (s 3).source.unread = [0x2C, 0x32, 0x5D] := by decide +kernel
  obtain ⟨hended, hsource, -⟩ := hends 2 rfl (fun value hitem => by
    rw [hitem] at hsilent
    cases hsilent) j hj
  exact ⟨hended, by rw [hsource, hunread]⟩

end Stream
end PlayableCards
