import PlayableCards.Proofs.Stream.Moves

/-!
# Passes of the loops

Reading, coming to the array and coming to an item are loops. A pass looks at the bytes at hand and
leaves its loop or goes on. One that goes on has consumed a byte, or taken one from the source, or
found that there are no more; so every loop is left, for what the stream is defined to do.
-/

namespace PlayableCards

inductive Pass (σ β : Type) where
  | again (s : σ)
  | leave (result : β) (s : σ)

namespace Pass

/-- Passes until one leaves the loop, and `n` at most. -/
def run (pass : σ → Pass σ β) : Nat → σ → Option (β × σ)
  | 0, _ => none
  | n + 1, s =>
    match pass s with
    | again s' => run pass n s'
    | leave result s' => some (result, s')

/-- The pass leaves with the outcome, or keeps it and lowers what is left to do. -/
def Nears (outcome : σ → β × σ) (effort : σ → Nat) (s : σ) : Pass σ β → Prop
  | again s' => effort s' < effort s ∧ outcome s' = outcome s
  | leave result s' => outcome s = (result, s')

theorem Nears.of_le {outcome : σ → β × σ} {effort : σ → Nat} {s ahead : σ} {p : Pass σ β}
    (h : p.Nears outcome effort ahead) (heffort : effort ahead ≤ effort s)
    (houtcome : outcome ahead = outcome s) : p.Nears outcome effort s := by
  cases p with
  | again s' => exact ⟨Nat.lt_of_lt_of_le h.1 heffort, h.2.trans houtcome⟩
  | leave result s' => exact houtcome.symm.trans h

theorem run_eq {pass : σ → Pass σ β} {outcome : σ → β × σ} {effort : σ → Nat}
    (h : ∀ s, (pass s).Nears outcome effort s) {n : Nat} {s : σ} (hn : effort s < n) :
    run pass n s = some (outcome s) := by
  induction n generalizing s with
  | zero => exact absurd hn (Nat.not_lt_zero _)
  | succ n ih =>
    have hpass := h s
    cases hs : pass s with
    | again s' =>
      obtain ⟨heffort, houtcome⟩ := hs ▸ hpass
      simp only [run, hs, ← houtcome]
      exact ih (Nat.lt_of_lt_of_le heffort (Nat.le_of_lt_succ hn))
    | leave result s' =>
      rw [hs] at hpass
      simp only [run, hs]
      exact congrArg some hpass.symm

end Pass

namespace Source

/-- One call, after which only an interruption makes another one needed. -/
def readPass (room : Nat) (s : Source) : Pass Source (Except IoFault Bytes) :=
  match s.script with
  | [] =>
    match s.deliver room with
    | (result, s') => .leave result s'
  | .deliver most :: script =>
    match { s with script }.deliver (min most room) with
    | (result, s') => .leave result s'
  | .interrupt :: script => .again { s with script, calls := s.calls + 1 }
  | .fail fault :: script => .leave (.error fault) { s with script, calls := s.calls + 1 }

def interruptions (s : Source) : Nat := (s.script.takeWhile (· == .interrupt)).length

theorem readBy_with_script (s : Source) (room : Nat) (script other : List ReadEvent) :
    { s with script := other }.readBy room script = s.readBy room script := by
  induction script generalizing s with
  | nil => rfl
  | cons event script ih =>
    cases event with
    | interrupt => exact ih { s with calls := s.calls + 1 }
    | deliver most => rfl
    | fail fault => rfl

theorem readPass_nears (room : Nat) (s : Source) :
    (s.readPass room).Nears (·.read room) interruptions s := by
  obtain ⟨unread, script, calls, delivered⟩ := s
  cases script with
  | nil => rfl
  | cons event script =>
    cases event with
    | interrupt => exact ⟨Nat.lt_succ_self _, (readBy_with_script _ room script _).symm⟩
    | deliver most => rfl
    | fail fault => rfl

end Source

theorem Window.skip_skip (w : Window) (m n : Nat) : (w.skip m).skip n = w.skip (m + n) := by
  simp only [Window.skip, List.take_add, List.drop_drop, List.reverse_append, List.append_assoc,
    List.length_append, Nat.add_assoc]

namespace Stream

def more (s : Stream) : Except IoFault Bool × Stream :=
  if s.exhausted then (.ok false, s)
  else
    match s.fill with
    | (some fault, s') => (.error fault, s')
    | (none, s') => (.ok !s'.exhausted, s')

def seekPass (s : Stream) : Pass Stream (Except IoFault Bool) :=
  let ahead := s.skipWhile Ascii.isSpace
  match ahead.window.pending with
  | b :: _ =>
    if b = Ascii.openBracket then .leave (.ok true) (ahead.skip 1) else .leave (.ok false) ahead
  | [] =>
    match ahead.more with
    | (.error fault, s') => .leave (.error fault) s'
    | (.ok true, s') => .again s'
    | (.ok false, s') => .leave (.ok false) s'

def waitPass (s : Stream) : Pass Stream (Except IoFault Bool) :=
  match s.more with
  | (.error fault, s') => .leave (.error fault) s'
  | (.ok true, s') => .again s'
  | (.ok false, s') => s'.seekPass

/-- Passes over a byte-order mark where the input starts, or looks for an array. -/
def openPass (s : Stream) : Pass Stream (Except IoFault Bool) :=
  if s.offset = 0 ∧ s.window.pending ≠ [] then
    if byteOrderMark.isPrefixOf s.window.pending then .again (s.skip byteOrderMark.length)
    else if s.window.pending.isPrefixOf byteOrderMark then s.waitPass
    else s.seekPass
  else s.seekPass

def takePass (t : Target α) (s : Stream) : Pass Stream (Yield α) :=
  match s.window.pending with
  | [] =>
    match s.more with
    | (.error fault, s') => .leave (.failed (.io fault)) s'.finish
    | (.ok true, s') => .again s'
    | (.ok false, s') => .leave .ended s'.finish
  | b :: rest =>
    if b = Ascii.closeBracket then .leave .ended (s.skip 1).finish
    else if b = Ascii.comma then .again (s.skip 1)
    else
      match t.decode (b :: rest) s.exhausted with
      | .complete value used => .leave (.item value) { s.skip used with phase := .items }
      | .invalid fault => .leave (.failed (.parse s.offset fault)) s.finish
      | .incomplete =>
        if s.exhausted then .leave .ended s.finish
        else
          match s.more with
          | (.error fault, s') => .leave (.failed (.io fault)) s'.finish
          | (.ok _, s') => .again s'

def itemPass (t : Target α) (s : Stream) : Pass Stream (Yield α) :=
  (s.skipWhile Ascii.isSpace).takePass t

/-- A call for an item in which no loop makes more than `n` passes. -/
def nextBy (t : Target α) (n : Nat) (s : Stream) : Option (Yield α × Stream) :=
  match s.phase with
  | .done => some (.ended, s)
  | .items => Pass.run (itemPass t) n s
  | .opening =>
    match Pass.run openPass n s with
    | none => none
    | some (.error fault, s') => some (.failed (.io fault), s'.finish)
    | some (.ok false, s') => some (.ended, s'.finish)
    | some (.ok true, s') => Pass.run (itemPass t) n s'

/-- What is left to do: bytes to take and to consume, and the read that shows that there are no
more. -/
def effort (s : Stream) : Nat := s.demand + s.window.pending.length

variable {t : Target α} {s s' : Stream}

theorem effort_skip (s : Stream) (n : Nat) :
    (s.skip n).effort = s.demand + (s.window.pending.length - n) :=
  congrArg (s.demand + ·) List.length_drop

theorem effort_skip_le (s : Stream) (n : Nat) : (s.skip n).effort ≤ s.effort := by
  rw [effort_skip, effort]
  omega

theorem effort_skip_lt {n : Nat} (hn : 0 < n) (h : n ≤ s.window.pending.length) :
    (s.skip n).effort < s.effort := by
  rw [effort_skip, effort]
  omega

theorem effort_fill_lt (h : s.fill = (none, s')) (hs : s.exhausted = false) :
    s'.effort < s.effort := by
  have hdemand := demand_fill h hs
  have hremaining := remaining_fill h
  cases hs' : s'.exhausted <;>
    simp only [effort, demand, remaining, hs, hs', Bool.false_eq_true, if_true, if_false] at * <;>
    omega

theorem pending_fill (h : s.fill = (none, s')) (hs : s'.exhausted = true) :
    s'.window.pending = s.window.pending := by
  rw [fill] at h
  split at h <;> cases h
  rename_i bytes source hread
  simp only [Window.pending_append, Window.pending_compact, List.isEmpty_iff.mp hs,
    List.append_nil]

theorem offset_fill {fault : Option IoFault} (h : s.fill = (fault, s')) : s'.offset = s.offset := by
  rw [fill] at h
  split at h <;> cases h <;> rfl

inductive Asked (s : Stream) : Except IoFault Bool × Stream → Prop where
  | spent (hs : s.exhausted = true) : Asked s (.ok false, s)
  | failed {fault : IoFault} {s' : Stream} (hs : s.exhausted = false)
      (hfill : s.fill = (some fault, s')) : Asked s (.error fault, s')
  | bytes {s' : Stream} (hs : s.exhausted = false) (hfill : s.fill = (none, s'))
      (hs' : s'.exhausted = false) : Asked s (.ok true, s')
  | last {s' : Stream} (hs : s.exhausted = false) (hfill : s.fill = (none, s'))
      (hs' : s'.exhausted = true) : Asked s (.ok false, s')

theorem asked (s : Stream) : s.Asked s.more := by
  cases hs : s.exhausted with
  | true =>
    simp only [more, hs, if_true]
    exact .spent hs
  | false =>
    rcases hfill : s.fill with ⟨_ | fault, s'⟩ <;>
      simp only [more, hs, hfill, Bool.false_eq_true, if_false]
    · cases hs' : s'.exhausted
      · exact .bytes hs hfill hs'
      · exact .last hs hfill hs'
    · exact .failed hs hfill

section Gather

variable {p : UInt8 → Bool} {look : Bytes → Option β} {last : Bytes → β}

theorem skipWhile_of_nil (h : s.window.pending = []) : s.skipWhile p = s := by
  obtain ⟨source, ⟨passed, pending, offset⟩, chunk, exhausted, phase⟩ := s
  cases h
  rfl

theorem skipWhile_of_neg {b : UInt8} {rest : Bytes} (h : s.window.pending = b :: rest)
    (hb : p b = false) : s.skipWhile p = s := by
  obtain ⟨source, ⟨passed, pending, offset⟩, chunk, exhausted, phase⟩ := s
  cases h
  simp [skipWhile, Window.skipWhile, Window.skip, hb]

theorem skip_skipWhile {n : Nat} (hn : n ≤ s.window.pending.length)
    (h : ∀ b ∈ s.window.pending.take n, p b) : (s.skip n).skipWhile p = s.skipWhile p := by
  have hlength : (s.window.pending.takeWhile p).length
      = n + ((s.window.pending.drop n).takeWhile p).length := by
    rw [takeWhile_of_take h, List.length_append, List.length_take, Nat.min_eq_left hn]
  simp only [skipWhile, skip, Window.skipWhile, Window.skip_skip, Window.pending_skip, hlength]

theorem gather_congr (h : s'.skipWhile p = s.skipWhile p) :
    s'.gather p look last = s.gather p look last := by
  rw [gather, h, ← gather]

theorem gather_of_told {b : β} (hlook : look (s.skipWhile p).window.pending = some b)
    (hlast : last (s.skipWhile p).window.pending = b) :
    s.gather p look last = (.ok b, s.skipWhile p) := by
  cases hs : s.exhausted with
  | true => rw [gather_of_exhausted hs, hlast]
  | false => exact gather_of_look hs hlook

end Gather

def seek (s : Stream) : Except IoFault Bool × Stream :=
  match s.gather Ascii.isSpace opens? (fun bytes => opens? bytes == some true) with
  | (.ok true, s') => (.ok true, s'.skip 1)
  | other => other

theorem enter_of_skipMark (h : s.skipMark = (.ok (), s')) : s.enter = s'.seek := by
  simp only [enter, h]
  rfl

theorem seek_of_exhausted (h : s.exhausted = true) (hpending : s.window.pending = []) :
    s.seek = (.ok false, s) := by
  simp only [seek, gather_of_exhausted h, skipWhile_of_nil hpending, hpending]
  rfl

theorem seekPass_nears (s : Stream) : s.seekPass.Nears seek effort s := by
  have hskip : (s.skipWhile Ascii.isSpace).effort ≤ s.effort := effort_skip_le s _
  rw [seekPass]
  cases hpending : (s.skipWhile Ascii.isSpace).window.pending with
  | cons b rest =>
    have hgather : s.gather Ascii.isSpace opens? (fun bytes => opens? bytes == some true)
        = (.ok (b == Ascii.openBracket), s.skipWhile Ascii.isSpace) :=
      gather_of_told (by rw [hpending]; rfl) (by simp [hpending, opens?])
    by_cases hb : b = Ascii.openBracket <;> simp [Pass.Nears, seek, hgather, hb]
  | nil =>
    have hlook : opens? (s.skipWhile Ascii.isSpace).window.pending = none := by rw [hpending]; rfl
    have hseek : ∀ s', s.exhausted = false → (s.skipWhile Ascii.isSpace).fill = (none, s') →
        s.seek = s'.seek := by
      intro s' hs hfill
      simp only [seek, gather_of_fill hs hlook hfill]
    generalize hmore : (s.skipWhile Ascii.isSpace).more = outcome
    cases hmore ▸ asked (s.skipWhile Ascii.isSpace) with
    | spent hs =>
      simp [Pass.Nears, seek, gather_of_exhausted (show s.exhausted = true from hs), hpending,
        opens?]
    | failed hs hfill =>
      simp [Pass.Nears, seek, gather_of_fault (show s.exhausted = false from hs) hlook hfill]
    | bytes hs hfill =>
      exact ⟨Nat.lt_of_lt_of_le (effort_fill_lt hfill hs) hskip, (hseek _ hs hfill).symm⟩
    | last hs hfill hs' =>
      have hpending' := (pending_fill hfill hs').trans hpending
      exact (hseek _ hs hfill).trans (seek_of_exhausted hs' hpending')

theorem skipWhile_false (s : Stream) : s.skipWhile (fun _ => false) = s := by
  cases hpending : s.window.pending with
  | nil => exact skipWhile_of_nil hpending
  | cons b rest => exact skipWhile_of_neg hpending rfl

theorem skipMark_of_marked {marked : Bool} (h : marked? s.window.pending = some marked) :
    s.skipMark = (.ok (), if marked then s.skip byteOrderMark.length else s) := by
  have hskip := skipWhile_false s
  have hgather : s.gather (fun _ => false) marked? (fun bytes => marked? bytes == some true)
      = (.ok marked, s) := by
    rw [gather_of_told (b := marked) (by rwa [hskip]) (by rw [hskip, h]; cases marked <;> rfl),
      hskip]
  simp only [skipMark, hgather]

theorem seekPass_of_exhausted (h : s.exhausted = true)
    (hfront : s.window.pending.isPrefixOf byteOrderMark = true) :
    s.seekPass = .leave (.ok false) s := by
  rw [seekPass]
  cases hpending : s.window.pending with
  | nil => simp only [skipWhile_of_nil hpending, hpending, more, h, if_true]
  | cons b rest =>
    rw [hpending] at hfront
    simp only [byteOrderMark, List.isPrefixOf, Bool.and_eq_true, beq_iff_eq] at hfront
    obtain ⟨rfl, -⟩ := hfront
    simp only [skipWhile_of_neg hpending (p := Ascii.isSpace) rfl, hpending]
    rfl

theorem front_of_unsettled {bytes : Bytes} (h : marked? bytes = none) :
    bytes.isPrefixOf byteOrderMark = true := by
  rw [marked?] at h
  grind

/-- As long as it is open whether there is a mark, the stream waits for more. -/
theorem enter_of_unsettled (h : marked? s.window.pending = none) :
    (s.exhausted = true → s.enter = (.ok false, s))
      ∧ (s.exhausted = false →
        (∀ fault s', s.fill = (some fault, s') → s.enter = (.error fault, s'))
          ∧ ∀ s', s.fill = (none, s') → s.enter = s'.enter) := by
  have hskip := skipWhile_false s
  refine ⟨fun hs => ?_, fun hs => ⟨fun fault s' hfill => ?_, fun s' hfill => ?_⟩⟩
  · have hmark : s.skipMark = (.ok (), s) := by
      simp only [skipMark, gather_of_exhausted hs, hskip, h]
      rfl
    have hseek := seekPass_nears s
    rw [seekPass_of_exhausted hs (front_of_unsettled h)] at hseek
    rw [enter_of_skipMark hmark]
    exact hseek
  · simp only [enter, skipMark, gather_of_fault hs (hskip.symm ▸ h) (hskip.symm ▸ hfill)]
  · simp only [enter, skipMark, gather_of_fill hs (hskip.symm ▸ h) (hskip.symm ▸ hfill)]

def opened (s : Stream) : Except IoFault Bool × Stream :=
  if s.offset = 0 then s.enter else s.seek

theorem opened_of_offset (h : s.offset ≠ 0) : s.opened = s.seek := if_neg h

theorem offset_seekPass (h : s.seekPass = .again s') :
    s'.offset = s.offset + s.window.pending.length := by
  rw [seekPass] at h
  split at h
  · split at h <;> cases h
  · rename_i hpending
    have hall : s.window.pending.length ≤ (s.window.pending.takeWhile Ascii.isSpace).length :=
      List.drop_eq_nil_iff.mp hpending
    have hahead : (s.skipWhile Ascii.isSpace).offset = s.offset + s.window.pending.length := by
      have := List.take_of_length_le hall
      simp only [offset, skipWhile, Window.skipWhile, Window.skip, this]
    generalize hmore : (s.skipWhile Ascii.isSpace).more = outcome at h
    cases hmore ▸ asked (s.skipWhile Ascii.isSpace) with
    | bytes hs hfill =>
      cases h
      rw [offset_fill hfill, hahead]
    | _ => cases h

/-- Once bytes have been seen that are no mark, only an array is looked for. -/
theorem seekPass_nears_opened (h : s.opened = s.seek)
    (hseen : s.offset ≠ 0 ∨ s.window.pending ≠ []) : s.seekPass.Nears opened effort s := by
  have hseek := seekPass_nears s
  cases hpass : s.seekPass <;> rw [hpass] at hseek
  case leave result s' => exact h.trans hseek
  case again s' =>
    have hoffset : s'.offset ≠ 0 := by
      rw [offset_seekPass hpass]
      rcases hseen with hseen | hseen
      · omega
      · have := List.length_pos_iff.mpr hseen
        omega
    exact ⟨hseek.1, by rw [opened_of_offset hoffset, h, hseek.2]⟩

theorem waitPass_nears (hoffset : s.offset = 0) (h : marked? s.window.pending = none) :
    s.waitPass.Nears opened effort s := by
  have hopened : s.opened = s.enter := if_pos hoffset
  have hfront := front_of_unsettled h
  obtain ⟨hend, hgo⟩ := enter_of_unsettled h
  rw [waitPass]
  generalize hmore : s.more = outcome
  cases hmore ▸ s.asked with
  | spent hs =>
    simp only [seekPass_of_exhausted hs hfront]
    exact hopened.trans (hend hs)
  | failed hs hfill => exact hopened.trans ((hgo hs).1 _ _ hfill)
  | @bytes s' hs hfill =>
    have hopened' : s'.opened = s'.enter := if_pos ((offset_fill hfill).trans hoffset)
    refine ⟨effort_fill_lt hfill hs, ?_⟩
    rw [hopened', hopened, (hgo hs).2 s' hfill]
  | @last s' hs hfill hs' =>
    rw [← pending_fill hfill hs'] at hfront h
    simp only [seekPass_of_exhausted hs' hfront]
    exact (hopened.trans ((hgo hs).2 s' hfill)).trans ((enter_of_unsettled h).1 hs')

theorem seekPass_eq_waitPass (h : s.window.pending = []) : s.seekPass = s.waitPass := by
  have hfront : s.window.pending.isPrefixOf byteOrderMark = true := by rw [h]; rfl
  rw [waitPass]
  generalize hmore : s.more = outcome
  cases hmore ▸ s.asked with
  | spent => rfl
  | failed | bytes => simp only [seekPass, skipWhile_of_nil h, h, hmore]
  | last hs hfill hs' =>
    simp only [seekPass_of_exhausted hs' (pending_fill hfill hs' ▸ hfront)]
    simp only [seekPass, skipWhile_of_nil h, h, hmore]

/-- **A pass before the array** leaves with what entering it comes to, or nears that. -/
theorem openPass_nears (s : Stream) : s.openPass.Nears opened effort s := by
  rw [openPass]
  split
  · rename_i hstart
    obtain ⟨hoffset, hpending⟩ := hstart
    have hopened : s.opened = s.enter := if_pos hoffset
    split
    · rename_i hmark
      have hlength := (List.isPrefixOf_iff_prefix.mp hmark).length_le
      have hskip : (s.skip byteOrderMark.length).offset ≠ 0 := by
        have : (s.window.pending.take byteOrderMark.length).length = 3 := by
          rw [List.length_take, Nat.min_eq_left hlength]
          rfl
        simp only [offset, skip, Window.skip, this]
        omega
      refine ⟨effort_skip_lt (by decide) hlength, ?_⟩
      rw [opened_of_offset hskip, hopened]
      have hmarked : marked? s.window.pending = some true := by rw [marked?, if_pos hmark]
      exact (enter_of_skipMark (skipMark_of_marked hmarked)).symm
    · rename_i hmark
      split
      · rename_i hfront
        exact waitPass_nears hoffset (by rw [marked?, if_neg hmark, if_pos hfront])
      · rename_i hfront
        have hmarked : marked? s.window.pending = some false := by
          rw [marked?, if_neg hmark, if_neg hfront]
        refine seekPass_nears_opened ?_ (.inr hpending)
        rw [hopened]
        exact enter_of_skipMark (skipMark_of_marked hmarked)
  · rename_i hstart
    by_cases hoffset : s.offset = 0
    · have hpending : s.window.pending = [] := by
        by_contra hne
        exact hstart ⟨hoffset, hne⟩
      rw [seekPass_eq_waitPass hpending]
      exact waitPass_nears hoffset (by rw [hpending]; rfl)
    · exact seekPass_nears_opened (opened_of_offset hoffset) (.inl hoffset)

theorem gather_of_sight {seen : Sight α}
    (h : sight? t s.exhausted (s.skipWhile isBetween).window.pending = some seen) :
    s.gather isBetween (sight? t false) (fun bytes => (sight? t true bytes).getD .nothing)
      = (.ok seen, s.skipWhile isBetween) := by
  cases hs : s.exhausted <;> rw [hs] at h
  · exact gather_of_look hs h
  · rw [gather_of_exhausted hs, h]
    rfl

theorem nextItem_of_unseen
    (h : sight? t s.exhausted (s.skipWhile isBetween).window.pending = none) :
    (s.exhausted = true → s.nextItem t = (.ended, (s.skipWhile isBetween).finish))
      ∧ (s.exhausted = false →
        (∀ fault s', (s.skipWhile isBetween).fill = (some fault, s') →
          s.nextItem t = (.failed (.io fault), s'.finish))
          ∧ ∀ s', (s.skipWhile isBetween).fill = (none, s') → s.nextItem t = s'.nextItem t) := by
  refine ⟨fun hs => ?_, fun hs => ?_⟩ <;> rw [hs] at h
  · simp only [nextItem, gather_of_exhausted hs, h]
    rfl
  · exact ⟨fun fault s' hfill => by simp only [nextItem, gather_of_fault hs h hfill],
      fun s' hfill => by simp only [nextItem, gather_of_fill hs h hfill]⟩

theorem nextItem_of_skipWhile (h : s'.skipWhile isBetween = s.skipWhile isBetween) :
    s'.nextItem t = s.nextItem t := by
  simp only [nextItem, gather_congr h]

theorem skipWhile_isBetween (s : Stream) :
    (s.skipWhile Ascii.isSpace).skipWhile isBetween = s.skipWhile isBetween := by
  have hfront := List.takeWhile_prefix (l := s.window.pending) Ascii.isSpace
  refine skip_skipWhile hfront.length_le fun b hb => ?_
  rw [← List.prefix_iff_eq_take.mp hfront] at hb
  simp only [isBetween, List.mem_takeWhile_imp hb, Bool.true_or]

theorem takePass_nears (h : ∀ b rest, s.window.pending = b :: rest → Ascii.isSpace b = false) :
    (s.takePass t).Nears (nextItem t) effort s := by
  rw [takePass]
  cases hpending : s.window.pending with
  | nil =>
    have hskip : s.skipWhile isBetween = s := skipWhile_of_nil hpending
    obtain ⟨hend, hgo⟩ := nextItem_of_unseen (t := t) (s := s) (by rw [hskip, hpending]; rfl)
    rw [hskip] at hend hgo
    generalize hmore : s.more = outcome
    cases hmore ▸ s.asked with
    | spent hs => exact hend hs
    | failed hs hfill => exact (hgo hs).1 _ _ hfill
    | bytes hs hfill => exact ⟨effort_fill_lt hfill hs, ((hgo hs).2 _ hfill).symm⟩
    | @last s' hs hfill hs' =>
      -- the read showed that there are no more
      have hpending' := (pending_fill hfill hs').trans hpending
      have hskip' : s'.skipWhile isBetween = s' := skipWhile_of_nil hpending'
      obtain ⟨hend', -⟩ := nextItem_of_unseen (t := t) (s := s') (by rw [hskip', hpending']; rfl)
      rw [hskip'] at hend'
      exact ((hgo hs).2 s' hfill).trans (hend' hs')
  | cons b rest =>
    by_cases hcomma : b = Ascii.comma
    · subst hcomma
      refine ⟨effort_skip_lt Nat.one_pos (by rw [hpending]; exact Nat.succ_pos _), ?_⟩
      refine nextItem_of_skipWhile (skip_skipWhile (by rw [hpending]; exact Nat.succ_pos _) ?_)
      rw [hpending]
      simp [isBetween]
    have hskip : s.skipWhile isBetween = s :=
      skipWhile_of_neg hpending (by simp [isBetween, h b rest hpending, hcomma])
    have hsight := @gather_of_sight α t s
    have hunseen := nextItem_of_unseen (t := t) (s := s)
    rw [hskip, hpending, sight?] at hsight hunseen
    by_cases hclose : b = Ascii.closeBracket
    · simp only [if_pos hclose, Pass.Nears, nextItem, hsight (if_pos hclose)]
    simp only [if_neg hclose, if_neg hcomma] at hsight hunseen ⊢
    cases hdecode : t.decode (b :: rest) s.exhausted with
    | complete value used =>
      simp only [Pass.Nears, nextItem, hsight (by rw [hdecode])]
    | invalid fault => simp only [Pass.Nears, nextItem, hsight (by rw [hdecode])]
    | incomplete =>
      obtain ⟨hend, hgo⟩ := hunseen (by rw [hdecode])
      generalize hmore : s.more = outcome
      cases hmore ▸ s.asked with
      | spent hs =>
        rw [hs]
        exact hend hs
      | failed hs hfill =>
        rw [hs]
        exact (hgo hs).1 _ _ hfill
      | bytes hs hfill | last hs hfill =>
        rw [hs]
        exact ⟨effort_fill_lt hfill hs, ((hgo hs).2 _ hfill).symm⟩

/-- **A pass between items** leaves with what the next item comes to, or nears that. -/
theorem itemPass_nears (t : Target α) (s : Stream) :
    (s.itemPass t).Nears (nextItem t) effort s := by
  have hnext : (s.skipWhile Ascii.isSpace).nextItem t = s.nextItem t :=
    nextItem_of_skipWhile (skipWhile_isBetween s)
  refine (takePass_nears fun b rest hpending => ?_).of_le (effort_skip_le s _) hnext
  have hdrop : s.window.pending.dropWhile Ascii.isSpace = b :: rest := by
    rw [← drop_length_takeWhile]
    exact hpending
  exact neg_of_dropWhile hdrop

theorem effort_move_le (h : Move s s') : s'.effort ≤ s.effort := by
  cases h with
  | skip => exact effort_skip_le s _
  | @fill _ fault hopen hread =>
    cases fault with
    | none => exact Nat.le_of_lt (effort_fill_lt hread hopen)
    | some fault =>
      rw [fill] at hread
      split at hread <;> rename_i hfailed <;> cases hread
      have hunread := Source.read_unread_of_error hfailed
      simp only [effort, demand, hunread, Window.pending_compact, Nat.le_refl]
  | chunk | phase => exact Nat.le_refl _

theorem remaining_move_le (h : Move s s') : s'.remaining ≤ s.remaining := by
  cases h with
  | skip hand => exact Nat.le_of_add_right_le (Nat.le_of_eq (remaining_skip s _ hand))
  | fill hopen hread => exact Nat.le_of_eq (remaining_fill hread)
  | chunk | phase => exact Nat.le_refl _

theorem le_of_reaches {f : Stream → Nat} (hf : ∀ {s s'}, Move s s' → f s' ≤ f s)
    (h : Reaches s s') : f s' ≤ f s := by
  induction h with
  | refl => exact Nat.le_refl _
  | tail _ hmove ih => exact Nat.le_trans (hf hmove) ih

/-- A call for an item is what its loops come to, if they may make as many passes as there are
things left to do. -/
theorem nextBy_eq (t : Target α) {n : Nat} (hoffset : s.phase = .opening → s.offset = 0)
    (hn : s.effort < n) : s.nextBy t n = some (s.next t) := by
  rw [nextBy, next]
  cases hphase : s.phase with
  | done => rfl
  | items => exact Pass.run_eq (itemPass_nears t) hn
  | opening =>
    have hopened : s.opened = s.enter := if_pos (hoffset hphase)
    have heffort := le_of_reaches effort_move_le (reaches_enter s)
    simp only [Pass.run_eq openPass_nears hn, hopened]
    rcases henter : s.enter with ⟨fault | (_ | _), s'⟩
    · rfl
    · rfl
    · rw [henter] at heffort
      exact Pass.run_eq (itemPass_nears t) (Nat.lt_of_le_of_lt heffort hn)

theorem phase_next_ne_opening (t : Target α) (s : Stream) : (s.next t).2.phase ≠ .opening := by
  have hitem : ∀ s : Stream, (s.nextItem t).2.phase ≠ .opening := by
    intro s
    rw [nextItem]
    split <;> simp [finish]
  rw [next]
  split
  · simp [*]
  · exact hitem s
  · split
    · simp [finish]
    · simp [finish]
    · exact hitem _

theorem offset_of_opening (t : Target α) (calls : List Call)
    (h : s.phase = .opening → s.offset = 0) (hphase : (calls.foldl (call t) s).phase = .opening) :
    (calls.foldl (call t) s).offset = 0 := by
  induction calls generalizing s with
  | nil => exact h hphase
  | cons c calls ih =>
    cases c with
    | next => exact ih (s := (s.next t).2) (fun hopening => absurd hopening
        (phase_next_ne_opening t s)) hphase
    | chunk size => exact ih (s := s.withChunk size) h hphase

end Stream

def Yield.isItem : Yield α → Bool
  | item _ => true
  | failed _ | ended => false

namespace Stream

variable {t : Target α}

theorem countP_isItem_le (t : Target α) (s : Stream) (calls : List Call) :
    (s.answers t calls).countP (fun answer => answer.1.isItem) ≤ s.remaining := by
  induction calls generalizing s with
  | nil => exact Nat.zero_le _
  | cons c calls ih =>
    cases c with
    | chunk size => exact ih (s.withChunk size)
    | next =>
      have hreach := le_of_reaches remaining_move_le (reaches_next t s)
      rcases hnext : s.next t with ⟨yielded, s'⟩
      have hrest := ih s'
      rw [hnext] at hreach
      simp only [answers, hnext, List.countP_cons]
      cases yielded with
      | item value =>
        have hlt := remaining_next_lt hnext
        exact Nat.lt_of_le_of_lt hrest hlt
      | failed fault | ended => exact Nat.le_trans hrest hreach

/-- **Every loop ends**, whatever the input and however it is read. In any call for an item the
loops before and within the array make at most two passes for each byte of the input and two more;
a read makes a call for each interruption in front and one more. A value that is decoded takes at
least a byte, and no more than are there; so a run gives no more items than the input has bytes. -/
theorem loops_end (t : Target α) (input : Bytes) (script : List ReadEvent) (calls : List Call) :
    let start := ofSource (.ofBytes input script)
    let s := calls.foldl (call t) start
    s.nextBy t (2 * input.length + 2) = some (s.next t)
      ∧ (∀ (source : Source) (room : Nat),
        Pass.run (Source.readPass room) (source.interruptions + 1) source = some (source.read room))
      ∧ (∀ bytes final value used, t.decode bytes final = .complete value used →
        0 < used ∧ used ≤ bytes.length)
      ∧ (start.answers t calls).countP (fun answer => answer.1.isItem) ≤ input.length := by
  intro start s
  have heffort : start.effort = 2 * input.length + 1 := rfl
  refine ⟨nextBy_eq t (offset_of_opening t calls fun _ => rfl) ?_, fun source room => ?_,
    fun bytes final value used hdecode => ?_, ?_⟩
  · have hle : s.effort ≤ start.effort :=
      le_of_reaches effort_move_le (reaches_calls t start calls)
    omega
  · exact Pass.run_eq (Source.readPass_nears room) (Nat.lt_succ_self _)
  · exact ⟨Target.decode_complete_pos hdecode, Target.decode_complete_le hdecode⟩
  · exact countP_isItem_le t start calls

/-- The input `[1,,x`, whose bytes come one by one, after its only item: the next call faults. -/
theorem loops_end_before_fault :
    let start := ofSource (.ofBytes [0x5B, 0x31, 0x2C, 0x2C, 0x78]
      [.deliver 1, .interrupt, .deliver 1, .deliver 1])
    let s := [Call.chunk 1, .next].foldl (call (.map id)) start
    s.nextBy (.map id) 12 = some (s.next (.map id))
      ∧ (start.answers (.map id) [.chunk 1, .next]).countP (fun answer => answer.1.isItem) ≤ 5
      ∧ (Target.map id).decode [0x31, 0x2C] false = .complete (.number (.integer 1)) 1
      ∧ 0 < 1 ∧ 1 ≤ ([0x31, 0x2C] : Bytes).length := by
  intro start s
  obtain ⟨hnext, -, hdecode, hcount⟩ := loops_end (.map id) [0x5B, 0x31, 0x2C, 0x2C, 0x78]
    [.deliver 1, .interrupt, .deliver 1, .deliver 1] [.chunk 1, .next]
  have hone : (Target.map id).decode [0x31, 0x2C] false = .complete (.number (.integer 1)) 1 := rfl
  exact ⟨hnext, hcount, hone, hdecode _ _ _ _ hone⟩

end Stream
end PlayableCards
