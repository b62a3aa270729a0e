import PlayableCards.Card.Basic
import PlayableCards.Card.Marker
import PlayableCards.Text.Blank

/-!
# Exclusion rules

The rules that keep a card from play, tried in a fixed order. The first that holds is the reason
given.
-/

namespace PlayableCards

inductive Exclusion where
  | silverBorder
  | acorn
  /-- There are formats, and the card is legal in none. -/
  | notLegal
  /-- The layout is not that of a playable card. -/
  | layout
  /-- The type line names a type that is not played, or says no more than that this is a card. -/
  | typeLine
  | themeColor
  | digitalOnly
  deriving DecidableEq, Repr

/-- What the rules look at: a card, with the type line and the rules text that are shown. -/
structure Exhibit where
  card : Card
  typeLine : Option String
  oracleText : Option String

namespace Exclusion

def all : List Exclusion :=
  [silverBorder, acorn, notLegal, layout, typeLine, themeColor, digitalOnly]

def rank : Exclusion → Nat
  | silverBorder => 0
  | acorn => 1
  | notLegal => 2
  | layout => 3
  | typeLine => 4
  | themeColor => 5
  | digitalOnly => 6

def label : Exclusion → String
  | silverBorder => "silver border"
  | acorn => "acorn stamp"
  | notLegal => "not legal in any format"
  | layout => "non-playable layout"
  | typeLine => "non-playable type line"
  | themeColor => "theme card"
  | digitalOnly => "digital-only mechanic"

def layouts : List String :=
  ["token", "double_faced_token", "emblem", "planar", "scheme", "vanguard", "art_series",
    "reversible_card"]

def types : List String :=
  ["Token", "Emblem", "Plane", "Scheme", "Vanguard", "Phenomenon", "Conspiracy", "Dungeon",
    "Attraction", "Contraption"]

def normalized (s : Option String) : String :=
  String.ofList (Text.lowercase (Text.trim (s.getD "").toList))

/-- Zero, what is empty and what says no is not truthy. -/
def isTruthy : Json → Bool
  | .null => false
  | .bool b => b
  | .number n => !n.isZero
  | .string s => !s.isEmpty
  | .array items => !items.isEmpty
  | .object members => !members.isEmpty

def isNotLegal : Json → Bool
  | .string s => s == "not_legal"
  | _ => false

def legalNowhere (legalities : Members) : Bool :=
  !legalities.isEmpty && legalities.all fun m => isNotLegal m.2

def namesType (line : String) : Bool :=
  types.any fun type => Marker.occurs type.toList line.toList

def isBare (line : String) : Bool := String.ofList (Text.trim line.toList) == "Card"

def namesUnplayed (line : String) : Bool := namesType line || isBare line

def namesTheme (text : String) : Bool := Marker.occurs "Theme color".toList text.toList

/-- The first rule that holds, each tried once the ones before it have failed. -/
def first? (e : Exhibit) : Option Exclusion := Id.run do
  if normalized e.card.borderColor == "silver" then
    return some silverBorder
  if e.card.acorn.any isTruthy then
    return some acorn
  if let some legalities := e.card.legalities then
    if legalNowhere legalities then
      return some notLegal
  if layouts.contains (normalized e.card.layout) then
    return some layout
  if let some line := e.typeLine then
    if namesType line then
      return some typeLine
    if isBare line then
      return some typeLine
  if let some text := e.oracleText then
    if namesTheme text then
      return some themeColor
    if Marker.anyDigital text then
      return some digitalOnly
  return none

/-- Whether the condition of a rule holds, whatever the others say. -/
def holds (e : Exhibit) : Exclusion → Bool
  | silverBorder => normalized e.card.borderColor == "silver"
  | acorn => e.card.acorn.any isTruthy
  | notLegal => e.card.legalities.any legalNowhere
  | layout => layouts.contains (normalized e.card.layout)
  | typeLine => e.typeLine.any namesUnplayed
  | themeColor => e.oracleText.any namesTheme
  | digitalOnly => e.oracleText.any Marker.anyDigital

theorem find?_cons_ite (p : Exclusion → Bool) (r : Exclusion) (rules : List Exclusion) :
    (r :: rules).find? p = if p r then some r else rules.find? p := by
  rw [List.find?_cons]
  cases p r <;> rfl

/-- Trying one rule after another is a search through all of them. -/
theorem first?_eq_find? (e : Exhibit) : first? e = all.find? (holds e) := by
  obtain ⟨card, line, text⟩ := e
  simp only [first?, all, find?_cons_ite, List.find?_nil, holds, apply_ite Id.run]
  -- an attribute that is absent leaves its rules out on both sides
  cases card.legalities <;> cases line with
  | none => cases text <;> rfl
  | some line =>
    cases htype : namesType line <;> cases text
    all_goals simp only [Option.any_some, Option.any_none, namesUnplayed, htype, Bool.true_or,
      Bool.false_or, Bool.false_eq_true, if_false, if_true, apply_ite Id.run, Id.run_pure]
    all_goals rfl

end Exclusion

namespace Exhibit

def isPlayable (e : Exhibit) : Bool := (Exclusion.first? e).isNone

end Exhibit

def Card.exhibit (c : Card) : Exhibit := ⟨c, c.resolve.typeLine, c.resolve.oracleText⟩

end PlayableCards
