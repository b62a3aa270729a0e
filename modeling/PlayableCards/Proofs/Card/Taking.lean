import PlayableCards.Proofs.Card.Fallback
import PlayableCards.Proofs.Reader.Entries

/-!
# Taking a card out of an object

The values of a card are taken out of its object one after another. Since no key comes twice, it is
the card that is found by looking each of them up in the whole object.
-/

namespace PlayableCards

open Members (take)

namespace Display

/-- Takes what is shown of a card, or of a face, out of its object. -/
def taking : StateM Members Display := do
  let name ← take "name"
  let manaCost ← take "mana_cost"
  let typeLine ← take "type_line"
  let oracleText ← take "oracle_text"
  let power ← take "power"
  let toughness ← take "toughness"
  let loyalty ← take "loyalty"
  let defense ← take "defense"
  return ⟨name.bind Json.asText, manaCost.bind Json.asText, typeLine.bind Json.asText,
    oracleText.bind Json.asText, power.bind Json.present, toughness.bind Json.present,
    loyalty.bind Json.present, defense.bind Json.present⟩

def taken : Json → Display
  | .object members => (taking.run members).run.1
  | _ => empty

theorem taking_eq {members : Members} (h : members.Distinct) :
    taking.run members = pure (ofMembers members, members.removing keys.reverse) := by
  -- the lemma on what is left applies from the start: nothing has been taken yet
  change taking.run (members.removing []) = _
  simp [taking, Members.take_removing h, ofMembers, keys]

theorem taken_eq {v : Json} (h : v.Readable) : taken v = ofJson v := by
  cases v with
  | object members => exact congrArg (·.run.1) (taking_eq h.distinct)
  | _ => rfl

end Display

namespace Card

def taking : StateM Members Card := do
  let display ← Display.taking
  let borderColor ← take "border_color"
  let acorn ← take "has_acorn"
  let legalities ← take "legalities"
  let layout ← take "layout"
  let faces ← take "card_faces"
  return ⟨display, borderColor.bind Json.asString, acorn.bind Json.present,
    legalities.bind Json.asObject, layout.bind Json.asString,
    (faces.bind Json.asArray).map (·.map Display.taken)⟩

def taken : Json → Card
  | .object members => (taking.run members).run.1
  | _ => empty

theorem taking_eq {members : Members} (h : members.Distinct) :
    (taking.run members).run.1 = { ofMembers members with
      faces := ((members.find? "card_faces").bind Json.asArray).map (·.map Display.taken) } := by
  simp [taking, Display.taking_eq h, Members.take_removing h, Display.keys, ofMembers]

theorem faces_taken_eq {members : Members} (h : (Json.object members).Readable) :
    ((members.find? "card_faces").bind Json.asArray).map (·.map Display.taken)
      = (ofMembers members).faces := by
  refine Option.map_congr fun faces hfaces => List.map_congr_left fun face hface => ?_
  obtain ⟨j, hfind, hj⟩ := Option.bind_eq_some_iff.mp hfaces
  cases j with
  | array items =>
    cases hj
    exact Display.taken_eq ((h.member hfind).item hface)
  | _ => cases hj

/-- **A card taken out of an object**, value by value, is the card that is found in the whole of
it, when some text is read as the object. -/
theorem taken_eq {v : Json} (h : v.Readable) : taken v = ofJson v := by
  cases v with
  | object members =>
    rw [taken, taking_eq h.distinct, faces_taken_eq h]
    rfl
  | _ => rfl

end Card
end PlayableCards
