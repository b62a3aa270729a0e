import PlayableCards.Json.Basic

/-!
# Cards

The attributes of a card that decide whether it is played and what is shown of it. A card has up
to several faces; the first of them lends the card the values that it lacks itself.
-/

namespace PlayableCards

/-- The values that are shown, of a card or of one face. -/
structure Display where
  name : Option String
  manaCost : Option String
  typeLine : Option String
  oracleText : Option String
  power : Option Json
  toughness : Option Json
  loyalty : Option Json
  defense : Option Json
  deriving Inhabited

structure Card where
  display : Display
  borderColor : Option String
  acorn : Option Json
  legalities : Option Members
  layout : Option String
  faces : Option (List Display)
  deriving Inhabited

def prefer (own fallback : Option α) : Option α := own <|> fallback

namespace Display

def empty : Display := ⟨none, none, none, none, none, none, none, none⟩

def nonEmpty (s : Option String) : Option String := s.filter (· != "")

/-- The values of a card and those of its first face as one. An empty name is no name. -/
def orFace (own face : Display) : Display where
  name := prefer (nonEmpty own.name) (nonEmpty face.name)
  manaCost := prefer own.manaCost face.manaCost
  typeLine := prefer own.typeLine face.typeLine
  oracleText := prefer own.oracleText face.oracleText
  power := prefer own.power face.power
  toughness := prefer own.toughness face.toughness
  loyalty := prefer own.loyalty face.loyalty
  defense := prefer own.defense face.defense

end Display

namespace Card

def empty : Card := ⟨.empty, none, none, none, none, none⟩

def firstFace (c : Card) : Option Display := c.faces.bind List.head?

def resolve (c : Card) : Display := c.display.orFace (c.firstFace.getD .empty)

end Card

end PlayableCards
