import PlayableCards.Proofs.Truncation

/-!
# Documents

A stream yields the items of every list that a reader accepts, whatever the list is cut into and
whatever comes behind it.
-/

namespace PlayableCards

theorem Truncated.whole {f : Json → α} {input : Bytes} {offset close : Nat}
    {elements : List Element} (hlisted : Listed input offset elements close) {a : Account α}
    (h : Truncated f elements input a) :
    a.items.map Prod.fst = (elements.map Element.value).map f ∧ a.fault = none := by
  have hcut : ∀ e ∈ elements, ¬ e.CutBy input := fun e he hcut =>
    Nat.lt_asymm hcut.2 (hlisted.bounds he).1.stop_lt
  have hfilter : elements.filter (·.stop ≤ input.length) = elements := by
    refine List.filter_eq_self.mpr fun e he => ?_
    simpa using Nat.le_of_lt (hlisted.bounds he).1.stop_lt
  obtain ⟨further, hitems, -, hfurther⟩ := h.items
  have hnone : further = [] := by
    by_contra hne
    obtain ⟨e, he, hcut', -⟩ := hfurther hne
    exact hcut e he hcut'
  refine ⟨?_, h.silent.mpr ?_⟩
  · rw [hitems, hnone, hfilter, List.append_nil, List.map_map, List.map_map]
    rfl
  · rintro ⟨e, he, hcut', -⟩
    exact hcut e he hcut'

namespace Cursor

theorem account_of_document (f : Json → α) {doc : Bytes} {items : List Json}
    (h : Target.json.readDocument doc = .ok (.array items)) (marked : Bool) (tail : Bytes) :
    ((start (mark marked ++ (doc ++ tail))).account (.map f)).items.map Prod.fst = items.map f
      ∧ ((start (mark marked ++ (doc ++ tail))).account (.map f)).fault = none := by
  obtain ⟨offset, elements, close, henters, hlisted, rfl⟩ := listed_of_document h marked tail
  exact (truncated_of_listed f (List.prefix_refl _) hlisted henters.le
    (next_of_enters henters)).whole hlisted

end Cursor

namespace Stream

/-- **The items of a document are yielded, and then the end**, whatever the schedule. -/
theorem document_yields {doc : Bytes} {items : List Json}
    (h : Target.json.readDocument doc = .ok (.array items)) (marked : Bool) (tail : Bytes)
    {script : List ReadEvent} (hscript : script.all ReadEvent.brings) (calls : List Call) :
    ((ofSource (.ofBytes (Cursor.mark marked ++ (doc ++ tail)) script)).answers .json calls).map
        Prod.fst
      = (items.map Yield.item ++ List.replicate (Call.nexts calls) Yield.ended).take
        (Call.nexts calls) := by
  obtain ⟨hitems, hfault⟩ := Cursor.account_of_document id h marked tail
  cases haccount : (Cursor.start (Cursor.mark marked ++ (doc ++ tail))).account (.map id) with
  | mk yielded fault offset =>
    rw [haccount] at hitems hfault
    cases hfault
    have hyields := yields_of_ended id haccount hscript calls
    rw [show Target.json = .map id from rfl, hyields, Account.map_fst_answers, hitems]
    simp

/-- The document `[1]` behind a mark and before more text, read byte by byte. -/
theorem document_yields_byte_by_byte :
    ((ofSource (.ofBytes [0xEF, 0xBB, 0xBF, 0x5B, 0x31, 0x5D, 0x78]
        [.interrupt, .deliver 1])).answers .json [.chunk 0, .next, .chunk 2, .next]).map Prod.fst
      = [.item (.number (.integer 1)), .ended] := by
  have hdoc : Target.json.readDocument [0x5B, 0x31, 0x5D] = .ok (.array [.number (.integer 1)]) :=
    rfl
  exact document_yields hdoc true [0x78] rfl _

end Stream
end PlayableCards
