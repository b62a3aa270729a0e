import Mathlib.Logic.Relation
import PlayableCards.Proofs.Card.Fallback
import PlayableCards.Proofs.Card.Rules

/-!
# Values that count for nothing

A value of a kind that its key does not take, an empty name, an acorn stamp that says no and a list
without faces are as good as none: what becomes of a card is the same without them.
-/

namespace PlayableCards

namespace Display

def textKeys : List String := ["name", "mana_cost", "type_line", "oracle_text"]

/-- A value under a key of what is shown, of a card or of a face, that counts for nothing. -/
inductive Ignores (key : String) : Json → Prop where
  | null (shown : key ∈ keys) : Ignores key .null
  | array {items : List Json} (text : key ∈ textKeys) : Ignores key (.array items)
  | object {members : Members} (text : key ∈ textKeys) : Ignores key (.object members)
  | noName (name : key = "name") : Ignores key (.string "")

variable {key : String} {v : Json}

theorem Ignores.mem_keys (h : Ignores key v) : key ∈ keys := by
  have htext : ∀ key ∈ textKeys, key ∈ keys := by decide
  cases h with
  | null shown => exact shown
  | array text | object text => exact htext key text
  | noName name => exact name ▸ by decide

theorem Ignores.nonEmpty_asText (h : Ignores key v) : nonEmpty v.asText = none := by
  cases h <;> rfl

theorem Ignores.asText (h : Ignores key v) (hname : key ≠ "name") : v.asText = none := by
  cases h with
  | noName name => exact absurd name hname
  | _ => rfl

theorem Ignores.present (h : Ignores key v) (hkey : key ∉ textKeys) : v.present = none := by
  cases h with
  | null => rfl
  | array text | object text => exact absurd text hkey
  | noName name => exact absurd (name ▸ by decide) hkey

def named (d : Display) : Display := { d with name := nonEmpty d.name }

theorem orFace_congr {own own' face face' : Display} (hown : own.named = own'.named)
    (hface : face.named = face'.named) : own.orFace face = own'.orFace face' := by
  simp only [named, mk.injEq] at hown hface
  simp only [orFace, hown, hface]

theorem named_without {members : Members} (has : members.find? key = some v)
    (h : key ∈ keys → Ignores key v) :
    (ofMembers (members.without key)).named = (ofMembers members).named := by
  have hkeys : ∀ other ∈ keys, other = key → Ignores other v := by
    rintro other hother rfl
    exact h hother
  have hname : ((members.without key).find? "name").bind (fun j => nonEmpty j.asText)
      = (members.find? "name").bind fun j => nonEmpty j.asText :=
    Members.read_without has (·.bind fun j => nonEmpty j.asText) "name"
      fun heq => (hkeys "name" (by decide) heq).nonEmpty_asText
  have htext : ∀ other ∈ keys, other ≠ "name" → ((members.without key).find? other).bind Json.asText
      = (members.find? other).bind Json.asText := fun other hother hne =>
    Members.read_without has (·.bind Json.asText) other
      fun heq => (hkeys other hother heq).asText hne
  have hvalue : ∀ other ∈ keys, other ∉ textKeys →
      ((members.without key).find? other).bind Json.present
        = (members.find? other).bind Json.present := fun other hother hne =>
    Members.read_without has (·.bind Json.present) other
      fun heq => (hkeys other hother heq).present hne
  simp only [named, ofMembers, nonEmpty_bind, hname, htext "mana_cost" (by decide) (by decide),
    htext "type_line" (by decide) (by decide), htext "oracle_text" (by decide) (by decide),
    hvalue "power" (by decide) (by decide), hvalue "toughness" (by decide) (by decide),
    hvalue "loyalty" (by decide) (by decide), hvalue "defense" (by decide) (by decide)]

end Display

namespace Card

inductive Ignores (key : String) : Json → Prop where
  | shown {v : Json} (h : Display.Ignores key v) : Ignores key v
  | notString {v : Json} (is : key = "border_color" ∨ key = "layout") (other : ∀ s, v ≠ .string s) :
    Ignores key v
  | notObject {v : Json} (is : key = "legalities") (other : ∀ members, v ≠ .object members) :
    Ignores key v
  | notArray {v : Json} (is : key = "card_faces") (other : ∀ items, v ≠ .array items) :
    Ignores key v
  | noFaces (is : key = "card_faces") : Ignores key (.array [])
  | falsy {v : Json} (is : key = "has_acorn") (h : v.Falsy) : Ignores key v

variable {key : String} {v : Json}

theorem Ignores.shown_of_mem (h : Ignores key v) (hkey : key ∈ Display.keys) :
    Display.Ignores key v := by
  cases h with
  | shown h => exact h
  | notString is => rcases is with rfl | rfl <;> exact absurd hkey (by decide)
  | notObject is | notArray is | noFaces is | falsy is => exact absurd (is ▸ hkey) (by decide)

theorem Ignores.asString (h : Ignores key v) (hkey : key = "border_color" ∨ key = "layout") :
    v.asString = none := by
  cases h with
  | shown h => rcases hkey with rfl | rfl <;> exact absurd h.mem_keys (by decide)
  | notString _ other =>
    cases v with
    | string s => exact absurd rfl (other s)
    | _ => rfl
  | notObject is | notArray is | noFaces is | falsy is =>
    rcases hkey with rfl | rfl <;> exact absurd is (by decide)

theorem Ignores.asObject (h : Ignores "legalities" v) : v.asObject = none := by
  cases h with
  | shown h => exact absurd h.mem_keys (by decide)
  | notObject _ other =>
    cases v with
    | object members => exact absurd rfl (other members)
    | _ => rfl
  | notString is | notArray is | noFaces is | falsy is => exact absurd is (by decide)

theorem Ignores.firstFace (h : Ignores "card_faces" v) :
    (v.asArray.map (·.map Display.ofJson)).bind List.head? = none := by
  cases h with
  | shown h => exact absurd h.mem_keys (by decide)
  | notArray _ other =>
    cases v with
    | array items => exact absurd rfl (other items)
    | _ => rfl
  | noFaces => rfl
  | notString is | notObject is | falsy is => exact absurd is (by decide)

theorem Ignores.isTruthy (h : Ignores "has_acorn" v) :
    v.present.any Exclusion.isTruthy = false := by
  cases h with
  | shown h => exact absurd h.mem_keys (by decide)
  | falsy _ h =>
    cases h with
    | null => rfl
    | zero h => simp [Json.present, Exclusion.isTruthy, h]
    | _ => rfl
  | notString is | notObject is | notArray is | noFaces is => exact absurd is (by decide)

variable {members : Members}

theorem outcome_without (has : members.find? key = some v) (h : Ignores key v) :
    (ofMembers (members.without key)).outcome = (ofMembers members).outcome := by
  have hstring : ∀ other, other = "border_color" ∨ other = "layout" →
      ((members.without key).find? other).bind Json.asString
        = (members.find? other).bind Json.asString := fun other hother =>
    Members.read_without has (·.bind Json.asString) other fun heq => h.asString (heq ▸ hother)
  have hfaces : (ofMembers (members.without key)).firstFace = (ofMembers members).firstFace :=
    Members.read_without has
      (fun v => ((v.bind Json.asArray).map (List.map Display.ofJson)).bind List.head?)
      "card_faces" fun heq => Ignores.firstFace (heq ▸ h)
  have hresolve : (ofMembers (members.without key)).resolve = (ofMembers members).resolve := by
    rw [resolve, resolve, hfaces]
    exact Display.orFace_congr (Display.named_without has h.shown_of_mem) rfl
  refine outcome_congr hresolve (holds_congr hresolve (hstring _ (.inl rfl)) ?_ ?_
    (hstring _ (.inr rfl)))
  · exact Members.read_without has (fun v => (v.bind Json.present).any Exclusion.isTruthy)
      "has_acorn" fun heq => Ignores.isTruthy (heq ▸ h)
  · exact Members.read_without has (·.bind Json.asObject) "legalities"
      fun heq => Ignores.asObject (heq ▸ h)

theorem outcome_face_without {face : Members} {others : List Json}
    (hface : members.find? "card_faces" = some (.array (.object face :: others)))
    (has : face.find? key = some v) (h : Display.Ignores key v) :
    (ofMembers (members.insert "card_faces" (.array (.object (face.without key) :: others)))).outcome
      = (ofMembers members).outcome := by
  have hfind : ∀ other ≠ "card_faces",
      (members.insert "card_faces" (.array (.object (face.without key) :: others))).find? other
        = members.find? other := fun other hother => Members.find?_insert_of_ne _ _ hother
  have hresolve :
      (ofMembers (members.insert "card_faces" (.array (.object (face.without key) :: others)))).resolve
        = (ofMembers members).resolve := by
    rw [resolve_of_face (Members.find?_insert_self _ _ _), resolve_of_face hface]
    refine Display.orFace_congr (congrArg _ ?_) (Display.named_without has fun _ => h)
    exact Display.ofMembers_congr fun other hother => hfind other (Display.ne_of_mem_keys hother)
  refine outcome_congr hresolve (holds_congr hresolve ?_ ?_ ?_ ?_)
  all_goals
    simp only [ofMembers]
    rw [hfind]
    decide

/-- One value that counts for nothing is left out of a card, or of its first face. -/
inductive Drops (members : Members) : Members → Prop where
  | own {key : String} {v : Json} (has : members.find? key = some v) (h : Ignores key v) :
    Drops members (members.without key)
  | face {face : Members} {others : List Json} {key : String} {v : Json}
    (first : members.find? "card_faces" = some (.array (.object face :: others)))
    (has : face.find? key = some v) (h : Display.Ignores key v) :
    Drops members (members.insert "card_faces" (.array (.object (face.without key) :: others)))

/-- **What becomes of a card is the same without the values that count for nothing**, however many
of them are left out of the card and of its first face. -/
theorem outcome_of_drops {members' : Members} (h : Relation.ReflTransGen Drops members members') :
    (ofJson (.object members')).outcome = (ofJson (.object members)).outcome := by
  induction h with
  | refl => rfl
  | tail _ hdrop ih =>
    rw [← ih]
    cases hdrop with
    | own has h => exact outcome_without has h
    | face first has h => exact outcome_face_without first has h

/-- A card with an empty name, whose first face is named and has no mana cost to speak of. -/
theorem outcome_of_drops_to_face : ∃ members members' : Members,
    members = [("name", .string ""), ("card_faces", .array
        [.object [("mana_cost", .array []), ("name", .string "Bear")], .object []])]
      ∧ members' = [("card_faces", .array [.object [("name", .string "Bear")], .object []])]
      ∧ Relation.ReflTransGen Drops members members'
      ∧ (ofJson (.object members)).outcome = .block ⟨["Name: Bear"]⟩ := by
  have hname : Drops [("name", .string ""), ("card_faces", .array
      [.object [("mana_cost", .array []), ("name", .string "Bear")], .object []])] _ :=
    .own rfl (.shown (.noName rfl))
  have hfound : Members.find? [("mana_cost", .array []), ("name", .string "Bear")] "mana_cost"
      = some (.array []) := rfl
  have hcost : Drops [("card_faces", .array
      [.object [("mana_cost", .array []), ("name", .string "Bear")], .object []])] _ :=
    .face rfl hfound (.array (by decide))
  have hdrops := (Relation.ReflTransGen.single hname).tail hcost
  refine ⟨_, _, rfl, rfl, hdrops, ?_⟩
  rw [← outcome_of_drops hdrops]
  decide +kernel

end Card
end PlayableCards
