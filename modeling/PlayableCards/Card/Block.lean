import PlayableCards.Card.Exclusion
import PlayableCards.Json.Printer

/-!
# Blocks

The lines that describe a playable card: its name, mana cost, type, power and toughness, loyalty,
defense and rules text. What a card does not have has no line.
-/

namespace PlayableCards

structure Block where
  lines : List String
  deriving DecidableEq, Repr

inductive Outcome where
  | block (b : Block)
  /-- Neither the card nor its first face has a name. -/
  | unnamed
  | excluded (e : Exclusion)
  deriving DecidableEq, Repr

namespace Block

def text (b : Block) : String := "\n".intercalate b.lines

/-- Strings are shown as they are, other values as JSON text. -/
def shown : Json → String
  | .string s => s
  | j => j.text

def textLine (label : String) (s : Option String) : List String :=
  ((Display.nonEmpty s).map (label ++ ·)).toList

def valueLine (label : String) (j : Option Json) : List String :=
  (j.map fun value => label ++ shown value).toList

/-- Power and toughness have one line, or none unless both are there. -/
def sizeLine : Option Json → Option Json → List String
  | some power, some toughness => ["Power/Toughness: " ++ shown power ++ "/" ++ shown toughness]
  | _, _ => []

def ofDisplay (name : String) (d : Display) : Block where
  lines := ("Name: " ++ name) :: textLine "Mana cost: " d.manaCost ++ textLine "Type: " d.typeLine
    ++ sizeLine d.power d.toughness ++ valueLine "Loyalty: " d.loyalty
    ++ valueLine "Defense: " d.defense ++ textLine "" d.oracleText

end Block

namespace Card

/-- A card without a name is not judged; one with a name is shown unless a rule excludes it. -/
def outcome (c : Card) : Outcome :=
  match c.resolve.name with
  | none => .unnamed
  | some name =>
    match Exclusion.first? c.exhibit with
    | some e => .excluded e
    | none => .block (.ofDisplay name c.resolve)

def block? (c : Card) : Option Block :=
  match c.outcome with
  | .block b => some b
  | .unnamed | .excluded _ => none

end Card

end PlayableCards
