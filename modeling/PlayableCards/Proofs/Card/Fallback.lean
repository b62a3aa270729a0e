import PlayableCards.Card.Block
import PlayableCards.Card.OfJson
import PlayableCards.Proofs.Json.Members

/-!
# Values lent by the first face

A value that is shown may stand on a card or on its first face: what is shown of the card and what
becomes of it is the same.
-/

namespace PlayableCards

theorem prefer_none (own : Option α) : prefer own none = own := by
  cases own <;> rfl

theorem prefer_of_either {v own face : Option Json}
    (h : own = v ∧ face = none ∨ own = none ∧ face = v) (read : Json → Option α) :
    prefer (own.bind read) (face.bind read) = v.bind read := by
  rcases h with ⟨rfl, rfl⟩ | ⟨rfl, rfl⟩
  · exact prefer_none _
  · rfl

namespace Display

def keys : List String :=
  ["name", "mana_cost", "type_line", "oracle_text", "power", "toughness", "loyalty", "defense"]

theorem ne_of_mem_keys {key : String} (h : key ∈ keys) : key ≠ "card_faces" := by
  rintro rfl
  revert h
  decide

/-- What is shown of members depends on what is found under the keys. -/
theorem ofMembers_congr {members members' : Members}
    (h : ∀ key ∈ keys, members.find? key = members'.find? key) :
    ofMembers members = ofMembers members' := by
  simp only [keys, List.forall_mem_cons] at h
  obtain ⟨hname, hmana, htype, horacle, hpower, htoughness, hloyalty, hdefense, -⟩ := h
  simp only [ofMembers, hname, hmana, htype, horacle, hpower, htoughness, hloyalty, hdefense]

theorem nonEmpty_bind (v : Option Json) (read : Json → Option String) :
    nonEmpty (v.bind read) = v.bind fun j => nonEmpty (read j) := by
  cases v <;> rfl

theorem orFace_of_either {members own face : Members}
    (h : ∀ key ∈ keys, own.find? key = members.find? key ∧ face.find? key = none
      ∨ own.find? key = none ∧ face.find? key = members.find? key) :
    (ofMembers own).orFace (ofMembers face) = (ofMembers members).orFace empty := by
  simp only [keys, List.forall_mem_cons] at h
  obtain ⟨hname, hmana, htype, horacle, hpower, htoughness, hloyalty, hdefense, -⟩ := h
  simp only [orFace, ofMembers, empty, nonEmpty_bind, prefer_of_either hname,
    prefer_of_either hmana, prefer_of_either htype, prefer_of_either horacle,
    prefer_of_either hpower, prefer_of_either htoughness, prefer_of_either hloyalty,
    prefer_of_either hdefense, prefer_none]
  rw [show nonEmpty none = none from rfl, prefer_none]

end Display

namespace Members

/-- The members with those of `keys` moved into a first face, before the other faces. -/
def moved (keys : List String) (others : List Json) (members : Members) : Members :=
  (members.part (· ∉ keys)).insert "card_faces"
    (.array (.object (members.part (· ∈ keys)) :: others))

theorem find?_moved {key : String} (h : key ≠ "card_faces") (keys : List String)
    (others : List Json) (members : Members) :
    (members.moved keys others).find? key = if key ∈ keys then none else members.find? key := by
  rw [moved, find?_insert_of_ne _ _ h, find?_part]
  by_cases hkey : key ∈ keys <;> simp [hkey]

theorem find?_moved_faces (keys : List String) (others : List Json) (members : Members) :
    (members.moved keys others).find? "card_faces"
      = some (.array (.object (members.part (· ∈ keys)) :: others)) :=
  find?_insert_self _ _ _

end Members

namespace Card

variable {c c' : Card}

theorem holds_congr (hresolve : c.resolve = c'.resolve) (hborder : c.borderColor = c'.borderColor)
    (hacorn : c.acorn.any Exclusion.isTruthy = c'.acorn.any Exclusion.isTruthy)
    (hlegalities : c.legalities = c'.legalities) (hlayout : c.layout = c'.layout)
    (r : Exclusion) : Exclusion.holds c.exhibit r = Exclusion.holds c'.exhibit r := by
  cases r <;> simp only [Exclusion.holds, exhibit, hresolve, hborder, hacorn, hlegalities, hlayout]

theorem outcome_congr (hresolve : c.resolve = c'.resolve)
    (hholds : ∀ r, Exclusion.holds c.exhibit r = Exclusion.holds c'.exhibit r) :
    c.outcome = c'.outcome := by
  have hfirst : Exclusion.first? c.exhibit = Exclusion.first? c'.exhibit := by
    rw [Exclusion.first?_eq_find?, Exclusion.first?_eq_find?, funext hholds]
  rw [outcome, outcome, hresolve, hfirst]

variable {members : Members}

theorem resolve_of_no_faces (h : members.find? "card_faces" = none) :
    (ofMembers members).resolve = (Display.ofMembers members).orFace .empty := by
  simp [resolve, firstFace, ofMembers, h]

theorem resolve_of_face {face : Members} {others : List Json}
    (h : members.find? "card_faces" = some (.array (.object face :: others))) :
    (ofMembers members).resolve
      = (Display.ofMembers members).orFace (Display.ofMembers face) := by
  simp [resolve, firstFace, ofMembers, h, Json.asArray, Display.ofJson]

/-- **It does not matter whether a value that is shown stands on a card or on its first face**: a
card without faces is shown and judged as the card that has some of its values moved there. -/
theorem outcome_moved (hfaces : members.find? "card_faces" = none) {keys : List String}
    (hkeys : keys ⊆ Display.keys) (others : List Json) :
    (ofJson (.object (members.moved keys others))).resolve = (ofJson (.object members)).resolve
      ∧ (ofJson (.object (members.moved keys others))).outcome
        = (ofJson (.object members)).outcome := by
  have hfind : ∀ key ≠ "card_faces", (members.moved keys others).find? key
      = if key ∈ keys then none else members.find? key :=
    fun key hkey => Members.find?_moved hkey keys others members
  have hkept : ∀ key ∉ Display.keys, key ≠ "card_faces" →
      (members.moved keys others).find? key = members.find? key := by
    intro key hkey hother
    rw [hfind key hother, if_neg fun hmoved => hkey (hkeys hmoved)]
  have hresolve : (ofMembers (members.moved keys others)).resolve = (ofMembers members).resolve := by
    rw [resolve_of_face (Members.find?_moved_faces keys others members), resolve_of_no_faces hfaces]
    refine Display.orFace_of_either fun key hkey => ?_
    rw [hfind key (Display.ne_of_mem_keys hkey), Members.find?_part]
    by_cases hmoved : key ∈ keys
    · exact .inr ⟨if_pos hmoved, if_pos (by simpa using hmoved)⟩
    · exact .inl ⟨if_neg hmoved, if_neg (by simpa using hmoved)⟩
  refine ⟨hresolve, outcome_congr hresolve (holds_congr hresolve ?_ ?_ ?_ ?_)⟩
  all_goals
    simp only [ofJson, ofMembers]
    rw [hkept] <;> decide

/-- The card of a bear whose name and power stand on its face, before a face that is none. -/
theorem outcome_moved_bear : ∃ members : Members,
    members = [("power", .number (.integer 2)), ("name", .string "Bear"), ("toughness", .string "2")]
      ∧ members.find? "card_faces" = none ∧ ["name", "power"] ⊆ Display.keys
      ∧ (ofJson (.object (members.moved ["name", "power"] [.null]))).outcome
        = .block ⟨["Name: Bear", "Power/Toughness: 2/2"]⟩ := by
  have hkeys : ["name", "power"] ⊆ Display.keys := by decide
  refine ⟨_, rfl, rfl, hkeys, ?_⟩
  rw [(outcome_moved rfl hkeys [.null]).2]
  decide +kernel

end Card
end PlayableCards
