import PlayableCards.Card.Basic
import PlayableCards.Json.Target

/-!
# Cards from JSON

A value of a kind that its key does not take counts as missing, and so does a missing key. What
is not an object is a card, or a face, without any value. Nothing is ever refused.
-/

namespace PlayableCards

namespace Json

def present : Json → Option Json
  | null => none
  | j => some j

/-- A text; numbers and booleans stand for their JSON text. -/
def asText : Json → Option String
  | string s => some s
  | number n => some n.text
  | bool b => some (if b then "true" else "false")
  | null | array _ | object _ => none

def asString : Json → Option String
  | string s => some s
  | _ => none

def asObject : Json → Option Members
  | object members => some members
  | _ => none

def asArray : Json → Option (List Json)
  | array items => some items
  | _ => none

end Json

namespace Display

def ofMembers (members : Members) : Display where
  name := (members.find? "name").bind Json.asText
  manaCost := (members.find? "mana_cost").bind Json.asText
  typeLine := (members.find? "type_line").bind Json.asText
  oracleText := (members.find? "oracle_text").bind Json.asText
  power := (members.find? "power").bind Json.present
  toughness := (members.find? "toughness").bind Json.present
  loyalty := (members.find? "loyalty").bind Json.present
  defense := (members.find? "defense").bind Json.present

def ofJson : Json → Display
  | .object members => ofMembers members
  | _ => empty

def target : Target Display := .map ofJson

end Display

namespace Card

def ofMembers (members : Members) : Card where
  display := .ofMembers members
  borderColor := (members.find? "border_color").bind Json.asString
  acorn := (members.find? "has_acorn").bind Json.present
  legalities := (members.find? "legalities").bind Json.asObject
  layout := (members.find? "layout").bind Json.asString
  faces := ((members.find? "card_faces").bind Json.asArray).map (·.map Display.ofJson)

def ofJson : Json → Card
  | .object members => ofMembers members
  | _ => empty

def target : Target Card := .map ofJson

end Card

end PlayableCards
