import PlayableCards.Proofs.Reader.Shape

/-!
# Values within containers

A value within a list or an object is read as it is read by itself, as long as it does not nest too
deeply. What ends it within the container may also follow it by itself.
-/

namespace PlayableCards

def Frame.after : Frame → Json → Reader
  | item items, v => .afterItem [] (v :: items)
  | member members key, v => .afterMember [] (members.insert key v)

namespace Reader

variable (outer : Frame)

def within : Reader → Reader
  | value stack => value (stack ++ [outer])
  | firstItem stack => firstItem (stack ++ [outer])
  | nextItem stack others => nextItem (stack ++ [outer]) others
  | afterItem stack others => afterItem (stack ++ [outer]) others
  | firstKey stack => firstKey (stack ++ [outer])
  | nextKey stack members => nextKey (stack ++ [outer]) members
  | afterKey stack members key => afterKey (stack ++ [outer]) members key
  | afterMember stack members => afterMember (stack ++ [outer]) members
  | string stack role content escape => string (stack ++ [outer]) role content escape
  | word stack rest v => word (stack ++ [outer]) rest v
  | numeral stack n => numeral (stack ++ [outer]) n

/-- What a byte does within a container, which takes a value that has ended. -/
def Step.within (b : UInt8) : Step → Step
  | next r => next (r.within outer)
  | done v => next (outer.after v)
  | past v => (outer.after v).step b
  | fault cause back => fault cause back

theorem deliver_within (stack : List Frame) (v : Json) (b : UInt8) :
    deliver (stack ++ [outer]) v = (deliver stack v).within outer b := by
  cases stack with
  | nil => cases outer <;> rfl
  | cons frame stack => cases frame <;> rfl

theorem stepAfterItem_within (stack : List Frame) (others : List Json) (b : UInt8) :
    stepAfterItem (stack ++ [outer]) others b
      = (stepAfterItem stack others b).within outer b := by
  unfold stepAfterItem
  repeat' split
  all_goals first | exact deliver_within .. | rfl

theorem stepAfterMember_within (stack : List Frame) (members : Members) (b : UInt8) :
    stepAfterMember (stack ++ [outer]) members b
      = (stepAfterMember stack members b).within outer b := by
  unfold stepAfterMember
  repeat' split
  all_goals first | exact deliver_within .. | rfl

theorem startKey_within (stack : List Frame) (members : Members) (b : UInt8) :
    startKey (stack ++ [outer]) members b = (startKey stack members b).within outer b := by
  unfold startKey
  split <;> rfl

theorem pastNumber_within (stack : List Frame) (n : Numeral) (b : UInt8) :
    pastNumber (stack ++ [outer]) n b = (pastNumber stack n b).within outer b := by
  unfold pastNumber
  cases n.finish with
  | error cause => rfl
  | ok number =>
    cases stack with
    | nil => cases outer <;> rfl
    | cons frame stack =>
      cases frame with
      | item others => exact stepAfterItem_within ..
      | member members key => exact stepAfterMember_within ..

theorem stepString_within (stack : List Frame) (role : Role) (content : Bytes) (escape : Escape)
    (b : UInt8) :
    stepString (stack ++ [outer]) role content escape b
      = (stepString stack role content escape b).within outer b := by
  have hclose : closeString (stack ++ [outer]) role content
      = (closeString stack role content).within outer b := by
    unfold closeString
    split
    · rfl
    · cases role with
      | value => exact deliver_within ..
      | key members => rfl
  have hunit : ∀ high unit, takeUnit (stack ++ [outer]) role content high unit
      = (takeUnit stack role content high unit).within outer b := by
    intro high unit
    unfold takeUnit
    repeat' split
    all_goals rfl
  unfold stepString
  repeat' split
  all_goals first | exact hclose | exact hunit .. | rfl

theorem stepWord_within (stack : List Frame) (rest : Bytes) (v : Json) (b : UInt8) :
    stepWord (stack ++ [outer]) rest v b = (stepWord stack rest v b).within outer b := by
  unfold stepWord
  repeat' split
  all_goals first | exact deliver_within .. | rfl

theorem openWith_within (stack : List Frame) (r : Reader) (b : UInt8) :
    openWith (stack ++ [outer]) (r.within outer) = (openWith stack r).within outer b
      ∨ openWith (stack ++ [outer]) (r.within outer) = .fault .tooDeep 0 := by
  unfold openWith
  by_cases h : (stack ++ [outer]).length < maxDepth
  · have hstack : stack.length < maxDepth := by
      rw [List.length_append] at h
      omega
    rw [if_pos h, if_pos hstack]
    exact .inl rfl
  · exact .inr (if_neg h)

theorem startValue_within (stack : List Frame) (b : UInt8) :
    startValue (stack ++ [outer]) b = (startValue stack b).within outer b
      ∨ startValue (stack ++ [outer]) b = .fault .tooDeep 0 := by
  unfold startValue
  split
  · exact .inl rfl
  split
  · exact openWith_within outer stack (firstItem stack) b
  split
  · exact openWith_within outer stack (firstKey stack) b
  repeat' split
  all_goals exact .inl rfl

/-- A byte does within a container what it does by itself, unless it opens a container too many. -/
theorem step_within (r : Reader) (b : UInt8) :
    (r.within outer).step b = (r.step b).within outer b
      ∨ (r.within outer).step b = .fault .tooDeep 0 := by
  cases r with
  | value stack =>
    simp only [within, step]
    split
    · exact .inl rfl
    · exact startValue_within ..
  | firstItem stack =>
    simp only [within, step]
    split
    · exact .inl rfl
    split
    · exact .inl (deliver_within ..)
    · exact startValue_within outer (.item [] :: stack) b
  | nextItem stack others =>
    simp only [within, step]
    split
    · exact .inl rfl
    split
    · exact .inl rfl
    · exact startValue_within outer (.item others :: stack) b
  | afterItem stack others => exact .inl (stepAfterItem_within ..)
  | firstKey stack =>
    simp only [within, step]
    split
    · exact .inl rfl
    split
    · exact .inl (deliver_within ..)
    · exact .inl (startKey_within ..)
  | nextKey stack members =>
    simp only [within, step]
    split
    · exact .inl rfl
    split
    · exact .inl rfl
    · exact .inl (startKey_within ..)
  | afterKey stack members key =>
    simp only [within, step]
    repeat' split
    all_goals exact .inl rfl
  | afterMember stack members => exact .inl (stepAfterMember_within ..)
  | string stack role content escape => exact .inl (stepString_within ..)
  | word stack rest v => exact .inl (stepWord_within ..)
  | numeral stack n =>
    simp only [within, step]
    cases n.step b with
    | next n => exact .inl rfl
    | past => exact .inl (pastNumber_within ..)
    | fault cause => exact .inl rfl

theorem finish_within (r : Reader) : ∃ cause, (r.within outer).finish = .error cause := by
  cases r with
  | numeral stack n =>
    simp only [within, finish]
    split
    · exact ⟨_, rfl⟩
    · exact ⟨_, by simp; rfl⟩
  | _ => exact ⟨_, rfl⟩

/-- What is read within a container as a part of it is read by itself, after which the container
goes on. -/
theorem run_within {r : Reader} {index : Nat} {bytes : Bytes} {whole : Json} {used : Nat}
    {rest : Bytes} (h : (r.within outer).run index bytes = .value whole used rest) :
    ∃ v mid tail, r.run index bytes = .value v mid tail
      ∧ (outer.after v).run mid tail = .value whole used rest := by
  induction bytes generalizing r index with
  | nil =>
    obtain ⟨cause, hcause⟩ := finish_within outer r
    simp [run, hcause] at h
  | cons b bytes ih =>
    rcases step_within outer r b with hstep | hstep
    · cases hr : r.step b <;> simp only [hr, Step.within] at hstep
      case next next =>
        simp only [run, hstep] at h
        simpa only [run, hr] using ih h
      case done v =>
        simp only [run, hstep] at h
        exact ⟨v, index + 1, bytes, by simp only [run, hr], h⟩
      case past v =>
        simp only [run, hstep] at h
        exact ⟨v, index, b :: bytes, by simp only [run, hr], by simpa only [run] using h⟩
      case fault cause back =>
        simp [run, hstep] at h
    · simp [run, hstep] at h

theorem head_of_run_afterItem (items : List Json) {index : Nat} {bytes : Bytes} {list : Json}
    {used : Nat} {rest : Bytes} (h : (afterItem [] items).run index bytes = .value list used rest) :
    ∃ b tail, bytes = b :: tail
      ∧ (Ascii.isSpace b = true ∨ b = Ascii.comma ∨ b = Ascii.closeBracket) := by
  cases bytes with
  | nil => simp [run, finish] at h
  | cons b tail =>
    refine ⟨b, tail, rfl, ?_⟩
    simp only [run, step, stepAfterItem] at h
    by_cases hspace : Ascii.isSpace b = true
    · exact .inl hspace
    · by_cases hcomma : b = Ascii.comma
      · exact .inr (.inl hcomma)
      · by_cases hclose : b = Ascii.closeBracket
        · exact .inr (.inr hclose)
        · simp [hspace, hcomma, hclose] at h

end Reader
end PlayableCards
