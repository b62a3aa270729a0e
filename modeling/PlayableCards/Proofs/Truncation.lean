import PlayableCards.Proofs.Portion
import PlayableCards.Proofs.Stream.Chunking
import PlayableCards.Proofs.Stream.Place

/-!
# Documents that break off

An input that breaks off anywhere within a document yields the elements that it holds and ends
silently, be it that a number which breaks off is taken for one. But a number may be out of range as
far as it goes, though the whole of it is not; an input that breaks off there is at fault.
-/

namespace PlayableCards

namespace Element

def CutBy (e : Element) (part : Bytes) : Prop := e.start < part.length ∧ part.length < e.stop

theorem CutBy.drop {e : Element} {part : Bytes} (h : e.CutBy part) {input : Bytes}
    (hpart : part <+: input) :
    part.drop e.start <+: input.drop e.start
      ∧ (part.drop e.start).length < e.stop - e.start := by
  obtain ⟨more, rfl⟩ := hpart
  rw [List.drop_append_of_le_length (Nat.le_of_lt h.1), List.length_drop]
  exact ⟨List.prefix_append _ _, Nat.sub_lt_sub_right (Nat.le_of_lt h.1) h.2⟩

/-- What the part holds of the element is a number out of range, or ends with one. -/
def OutOfRange (e : Element) (part : Bytes) : Prop :=
  ∃ index, Reader.read (part.drop e.start) = .fault .numberOutOfRange index

end Element

/-- What is yielded of a part of an input, by the elements of the whole. -/
structure Truncated (f : Json → α) (elements : List Element) (part : Bytes) (a : Account α) :
    Prop where
  /-- The elements within the part, and at most one item more, for a number that breaks off. -/
  items : ∃ further, a.items
      = (elements.filter (·.stop ≤ part.length)).map (fun e => (f e.value, e.stop)) ++ further
    ∧ further.length ≤ 1
    ∧ (further ≠ [] → ∃ e ∈ elements, e.CutBy part ∧ e.value.shape = .number)
  silent : a.fault = none ↔ ¬ ∃ e ∈ elements, e.CutBy part ∧ e.OutOfRange part
  fault : ∀ fault, a.fault = some fault →
    ∃ e ∈ elements, e.CutBy part ∧ ∃ cause, fault = .parse e.start cause

namespace Truncated

variable {f : Json → α} {e : Element} {elements : List Element} {part : Bytes}

theorem of_le (h : ∀ e ∈ elements, part.length ≤ e.start ∧ e.start < e.stop) (offset : Nat) :
    Truncated f elements part ⟨[], none, offset⟩ := by
  have hfilter : elements.filter (·.stop ≤ part.length) = [] := by
    refine List.filter_eq_nil_iff.mpr fun e he => ?_
    have := h e he
    simp only [decide_eq_true_eq]
    omega
  refine ⟨⟨[], by simp [hfilter], by simp, by simp⟩, iff_of_true rfl ?_, by simp⟩
  rintro ⟨e, he, hcut, -⟩
  exact Nat.not_lt.mpr (h e he).1 hcut.1

theorem cons {a : Account α} (h : Truncated f elements part a) (he : e.stop ≤ part.length) :
    Truncated f (e :: elements) part (a.cons (f e.value, e.stop)) := by
  have hwhole : ¬ e.CutBy part := fun hcut => Nat.not_lt.mpr he hcut.2
  obtain ⟨further, hitems, hlength, hfurther⟩ := h.items
  refine ⟨⟨further, ?_, hlength, fun hne => ?_⟩, ?_, fun fault hfault => ?_⟩
  · simp [Account.cons, List.filter_cons_of_pos, he, hitems]
  · obtain ⟨e', he', hcut⟩ := hfurther hne
    exact ⟨e', List.mem_cons_of_mem _ he', hcut⟩
  · simpa [hwhole, Account.cons] using h.silent
  · obtain ⟨e', he', hcut⟩ := h.fault fault hfault
    exact ⟨e', List.mem_cons_of_mem _ he', hcut⟩

theorem cut (he : e.CutBy part)
    (hlater : ∀ e' ∈ elements, part.length ≤ e'.start ∧ e'.start < e'.stop)
    {further : List (α × Nat)} {fault : Option StreamFault} {offset : Nat}
    (hlength : further.length ≤ 1) (hfurther : further ≠ [] → e.value.shape = .number)
    (hsilent : fault = none ↔ ¬ e.OutOfRange part)
    (hfault : ∀ told, fault = some told → ∃ cause, told = .parse e.start cause) :
    Truncated f (e :: elements) part ⟨further, fault, offset⟩ := by
  have hmem := List.mem_cons_self (a := e) (l := elements)
  have hfilter : (e :: elements).filter (·.stop ≤ part.length) = [] := by
    refine List.filter_eq_nil_iff.mpr fun e' he' => ?_
    rw [decide_eq_true_eq, Nat.not_le]
    rcases List.mem_cons.mp he' with rfl | he'
    · exact he.2
    · exact Nat.lt_of_le_of_lt (hlater e' he').1 (hlater e' he').2
  refine ⟨⟨further, by simp [hfilter], hlength, fun hne => ⟨e, hmem, he, hfurther hne⟩⟩, ?_,
    fun told htold => ⟨e, hmem, he, hfault told htold⟩⟩
  rw [hsilent, not_iff_not]
  refine ⟨fun hrange => ⟨e, hmem, he, hrange⟩, ?_⟩
  rintro ⟨e', he', hcut, hrange⟩
  rcases List.mem_cons.mp he' with rfl | he'
  · exact hrange
  · exact absurd hcut.1 (Nat.not_lt.mpr (hlater e' he').1)

end Truncated

namespace Cursor

theorem truncated_of_cut (f : Json → α) {input part : Bytes} (hpart : part <+: input) {e : Element}
    (held : e.In input) (hcut : e.CutBy part) {elements : List Element}
    (hlater : ∀ e' ∈ elements, part.length ≤ e'.start ∧ e'.start < e'.stop) {offset : Nat}
    (gap : Stream.Separated part offset e.start) (begins : Stream.Begins part e.start)
    {phase : Phase} {cur : Cursor}
    (hcur : cur.next (.map f) = (place phase part offset).nextItem (.map f)) :
    Truncated f (e :: elements) part (cur.account (.map f)) := by
  have hnext := hcur.trans (nextItem_of_begins gap begins)
  have hlength : (part.drop e.start).length = part.length - e.start := List.length_drop
  obtain ⟨hdrop, hshort⟩ := hcut.drop hpart
  obtain ⟨b, tail, htext, hbetween, -⟩ := begins.drop_eq
  have hfirst : (part.drop e.start).dropWhile Ascii.isSpace = b :: tail := by
    rw [Stream.isBetween, Bool.or_eq_false_iff] at hbetween
    rw [htext, List.dropWhile_cons_of_neg (by simp [hbetween.1])]
  rcases Target.decode_cut f held.reads hdrop hshort hfirst with
    ⟨value, hdecode, hshape, hrange⟩ | ⟨hdecode, hrange⟩ | ⟨fault, index, hdecode, hrange⟩
  · rw [hdecode, hlength] at hnext
    simp only [Nat.add_sub_cancel' (Nat.le_of_lt hcut.1)] at hnext
    have hended : (place .items part part.length).next (.map f)
        = (.ended, place .done part part.length) :=
      nextItem_of_end (Stream.separated_self part part.length)
    rw [account_of_item hnext, account_of_ended hended]
    exact .cut hcut hlater (by simp) (fun _ => hshape) (iff_of_true rfl (not_exists.mpr hrange))
      (by simp)
  · rw [hdecode] at hnext
    rw [account_of_ended hnext]
    exact .cut hcut hlater (by simp) (by simp) (iff_of_true rfl (not_exists.mpr hrange)) (by simp)
  · rw [hdecode] at hnext
    rw [account_of_failed hnext]
    exact .cut hcut hlater (by simp) (by simp)
      (iff_of_false (by simp) (not_not_intro ⟨index, hrange⟩)) (by simp)

/-- **What a part of an input yields**, by the elements that the whole of it lists. -/
theorem truncated_of_listed (f : Json → α) {input part : Bytes} (hpart : part <+: input)
    {offset close : Nat} {elements : List Element} (h : Listed input offset elements close)
    (hoffset : offset ≤ part.length) {phase : Phase} {cur : Cursor}
    (hcur : cur.next (.map f) = (place phase part offset).nextItem (.map f)) :
    Truncated f elements part (cur.account (.map f)) := by
  have htake := List.prefix_iff_eq_take.mp hpart
  generalize hn : part.length = n at htake hoffset
  subst htake
  induction h generalizing phase cur with
  | @nil offset close gap closes =>
    have hended : ∃ cur', cur.next (.map f) = (.ended, cur') := by
      rw [hcur]
      by_cases hclose : close < n
      · exact ⟨_, nextItem_of_closes (gap.take (Nat.le_refl _) gap.1 (Nat.le_of_lt hclose))
          ((Stream.getElem?_take hclose).trans closes)⟩
      · refine ⟨_, nextItem_of_end ?_⟩
        rw [hn]
        exact gap.take (Nat.not_lt.mp hclose) hoffset (Nat.le_refl n)
    obtain ⟨cur', hended⟩ := hended
    rw [account_of_ended hended]
    exact .of_le (by simp) _
  | @cons offset close e elements gap held more ih =>
    have hlt := held.lt
    have hlater : ∀ n ≤ e.stop, ∀ e' ∈ elements, n ≤ e'.start ∧ e'.start < e'.stop :=
      fun n hle e' he' =>
        ⟨Nat.le_trans hle (more.bounds he').2.1, (more.bounds he').1.lt⟩
    by_cases hstart : e.start < n
    · have hgap := gap.take (Nat.le_refl _) gap.1 (Nat.le_of_lt hstart)
      have hbegins := held.begins.take hstart
      by_cases hstop : e.stop ≤ n
      · have hdrop : (input.take n).drop e.start <+: input.drop e.start := by
          rw [List.drop_take]
          exact List.take_prefix _ _
        have hused : e.stop - e.start ≤ ((input.take n).drop e.start).length := by
          rw [List.length_drop, hn]
          omega
        have hnext := hcur.trans (nextItem_of_begins hgap hbegins)
        rw [Target.decode_part_final f held.reads held.separates hdrop hused] at hnext
        simp only [Nat.add_sub_cancel' (Nat.le_of_lt hlt)] at hnext
        rw [account_of_item hnext]
        exact .cons (ih hstop rfl) (by rwa [hn])
      · have hcut : e.CutBy (input.take n) := by
          rw [Element.CutBy, hn]
          exact ⟨hstart, Nat.not_le.mp hstop⟩
        exact truncated_of_cut f hpart held hcut (hlater _ (Nat.le_of_lt hcut.2)) hgap hbegins hcur
    · have hend : Stream.Separated (input.take n) offset (input.take n).length := by
        rw [hn]
        exact gap.take (Nat.not_lt.mp hstart) hoffset (Nat.le_refl n)
      rw [account_of_ended (hcur.trans (nextItem_of_end hend))]
      refine .of_le (fun e' he' => ?_) _
      rw [hn]
      rcases List.mem_cons.mp he' with rfl | he'
      · exact ⟨Nat.not_lt.mp hstart, hlt⟩
      · exact hlater n (by omega) e' he'

end Cursor

namespace Stream

theorem yields_of_truncated {f : Json → α} {input part : Bytes} (hpart : part <+: input)
    {offset close : Nat} {elements : List Element} (hlisted : Listed input offset elements close)
    (h : Truncated f elements part ((Cursor.start part).account (.map f)))
    {script : List ReadEvent} (hscript : script.all ReadEvent.brings) :
    (ofSource (.ofBytes part script)).Yields (.map f) ((Cursor.start part).account (.map f)) := by
  rcases haccount : (Cursor.start part).account (.map f) with ⟨items, fault, last⟩
  rw [haccount] at h
  cases fault with
  | none => exact yields_of_ended f haccount hscript
  | some fault =>
    obtain ⟨e, he, hcut, cause, rfl⟩ := h.fault fault rfl
    obtain ⟨-, hdrop⟩ := Cursor.seen_of_failed haccount (Cursor.within_start part)
    have hlast : (Target.map f).Foresees ((Cursor.start part).last (.map f)).upcoming := by
      obtain ⟨hheld, hshort⟩ := hcut.drop hpart
      obtain ⟨r, hthrough⟩ := Reader.through_of_cut (hlisted.bounds he).1.reads hheld hshort
      rw [hdrop]
      exact Target.foresees_of_through f hthrough
    rw [← haccount]
    exact (yields_iff_foresees (fun _ _ _ => Target.foresees_of_item (Target.firm_map f))
      part).mpr hlast script hscript

/-- **A document that breaks off** yields the elements that the part holds, whatever the schedule,
and ends silently if and only if it does not break off at a number that is out of range as it
stands. -/
theorem truncated_document (f : Json → α) {doc : Bytes} {items : List Json}
    (h : Target.json.readDocument doc = .ok (.array items)) :
    ∃ offset elements close, Enters doc offset ∧ Listed doc offset elements close
      ∧ elements.map Element.value = items
      ∧ ∀ part, part <+: doc → ∃ account, Truncated f elements part account
        ∧ ∀ script, script.all ReadEvent.brings →
          (ofSource (.ofBytes part script)).Yields (.map f) account := by
  obtain ⟨offset, elements, close, henters, hlisted, hvalues⟩ := listed_of_document h false []
  have hdoc : Cursor.mark false ++ (doc ++ []) = doc := List.append_nil doc
  rw [hdoc] at henters hlisted
  refine ⟨offset, elements, close, henters, hlisted, hvalues, fun part hpart => ?_⟩
  have htruncated : Truncated f elements part ((Cursor.start part).account (.map f)) := by
    by_cases hoffset : offset ≤ part.length
    · have henters' := henters.take hoffset hpart.length_le
      rw [← List.prefix_iff_eq_take.mp hpart] at henters'
      exact Cursor.truncated_of_listed f hpart hlisted hoffset (Cursor.next_of_enters henters')
    · obtain ⟨cur, hended⟩ := Cursor.next_of_not_entered (t := .map f) henters
        (Nat.not_le.mp hoffset)
      rw [← List.prefix_iff_eq_take.mp hpart] at hended
      rw [Cursor.account_of_ended hended]
      refine .of_le (fun e he => ?_) _
      obtain ⟨hheld, hstart, -⟩ := hlisted.bounds he
      exact ⟨Nat.le_trans (Nat.le_of_lt (Nat.not_le.mp hoffset)) hstart, hheld.lt⟩
  exact ⟨_, htruncated, fun script hscript => yields_of_truncated hpart hlisted htruncated hscript⟩

/-- The document `[12]`, which breaks off behind the one. -/
theorem truncated_within_number : ∃ account : Account Json, account.fault = none
    ∧ ∀ script, script.all ReadEvent.brings →
      (ofSource (.ofBytes [0x5B, 0x31] script)).Yields (.map id) account := by
  have hdoc : Target.json.readDocument [0x5B, 0x31, 0x32, 0x5D]
      = .ok (.array [.number (.integer 12)]) := rfl
  obtain ⟨offset, elements, close, -, -, -, hparts⟩ := truncated_document id hdoc
  obtain ⟨account, htruncated, hyields⟩ := hparts [0x5B, 0x31] ⟨[0x32, 0x5D], rfl⟩
  refine ⟨account, htruncated.silent.mpr ?_, hyields⟩
  rintro ⟨⟨v, start, stop⟩, -, ⟨hstart, -⟩, index, hrange⟩
  match start, hstart with
  | 0, _ | 1, _ => cases hrange

/-- The document that holds a one and 309 zeros, with the exponent -9, within two brackets: behind
the zeros the number is out of range. -/
theorem out_of_range_before_exponent :
    (∃ items, Target.json.readDocument ([0x5B, 0x5B, 0x31] ++ List.replicate 309 0x30
        ++ [0x65, 0x2D, 0x39, 0x5D, 0x5D]) = .ok (.array items))
      ∧ ∃ fault, ((ofSource (.ofBytes ([0x5B, 0x5B, 0x31] ++ List.replicate 309 0x30) [])).next
        .json).1 = .failed fault := by
  constructor
  · have hdoc : (Target.json.readDocument ([0x5B, 0x5B, 0x31] ++ List.replicate 309 0x30
        ++ [0x65, 0x2D, 0x39, 0x5D, 0x5D])).toOption.map Json.shape = some .list := by
      decide +kernel
    generalize Target.json.readDocument _ = read at hdoc ⊢
    cases read with
    | error fault => cases hdoc
    | ok v =>
      cases v with
      | array items => exact ⟨items, rfl⟩
      | _ => cases hdoc
  · have hfirst : (((ofSource (.ofBytes ([0x5B, 0x5B, 0x31] ++ List.replicate 309 0x30) [])).next
        .json).1 matches .failed _) = true := by decide +kernel
    generalize (Stream.next _ _).1 = yielded at hfirst ⊢
    cases yielded with
    | failed fault => exact ⟨fault, rfl⟩
    | item value => cases hfirst
    | ended => cases hfirst

end Stream
end PlayableCards
