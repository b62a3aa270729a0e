import Mathlib.Logic.ExistsUnique
import PlayableCards.Proofs.Card.Taking
import PlayableCards.Proofs.Stream.Conversion

/-!
# Texts of the same card

A card depends on its text only by the value that comes last of each of its keys. Where the keys
stand, what else there is, blanks and earlier values of the same keys do not matter, neither on the
card nor on its faces.
-/

namespace PlayableCards

open PlayableCards.Field (value? last? gather)

namespace Display

/-- Two faces have the same value, or their texts list the same values last of what is shown. -/
inductive Alike (e e' : Entry) : Prop where
  | same (h : e.value = e'.value)
  | listed {fields fields' : List Field} (lists : Fields e.text fields)
    (lists' : Fields e'.text fields') (h : ∀ key ∈ keys, value? fields key = value? fields' key)

theorem Alike.ofJson_eq {e e' : Entry} (h : Alike e e') : ofJson e.value = ofJson e'.value := by
  cases h with
  | same h => rw [h]
  | listed lists lists' h =>
    rw [lists.value_eq, lists'.value_eq]
    refine ofMembers_congr fun key hkey => ?_
    rw [Field.find?_gather_nil, Field.find?_gather_nil, h key hkey]

theorem map_ofJson_of_alike {faces faces' : List Entry} (h : List.Forall₂ Alike faces faces') :
    (faces.map Entry.value).map ofJson = (faces'.map Entry.value).map ofJson := by
  induction h with
  | nil => rfl
  | cons halike _ ih => simp only [List.map_cons, halike.ofJson_eq, ih]

theorem Alike.of_object {e e' : Entry} {members members' : Members}
    (he : e.value = .object members) (he' : e'.value = .object members')
    (h : ∀ key ∈ keys, members.find? key = members'.find? key) : Alike e e' := by
  have hread := he ▸ e.reads
  have hread' := he' ▸ e'.reads
  obtain ⟨fields, hfields, -⟩ := Fields.of_read hread
  obtain ⟨fields', hfields', -⟩ := Fields.of_read hread'
  refine .listed hfields hfields' fun key hkey => ?_
  rw [hfields.value?_eq hread, hfields'.value?_eq hread', h key hkey]

end Display

namespace Card

def ownKeys : List String := Display.keys ++ ["border_color", "has_acorn", "legalities", "layout"]

/-- Two cards have the same value for their faces, or as many faces, alike one by one. -/
inductive AlikeFaces (fields fields' : List Field) : Prop where
  | same (h : value? fields "card_faces" = value? fields' "card_faces")
  | listed {f f' : Field} {faces faces' : List Entry} (last : last? fields "card_faces" = some f)
    (last' : last? fields' "card_faces" = some f') (lists : Items f.content.text faces)
    (lists' : Items f'.content.text faces') (h : List.Forall₂ Display.Alike faces faces')

/-- What two texts list of a card agrees: each key is in neither or has the same value last. -/
structure Agree (fields fields' : List Field) : Prop where
  own : ∀ key ∈ ownKeys, value? fields key = value? fields' key
  faces : AlikeFaces fields fields'

variable {fields fields' : List Field}

theorem AlikeFaces.map_eq (h : AlikeFaces fields fields') :
    ((value? fields "card_faces").bind Json.asArray).map (List.map Display.ofJson)
      = ((value? fields' "card_faces").bind Json.asArray).map (List.map Display.ofJson) := by
  cases h with
  | same h => rw [h]
  | listed last last' lists lists' h =>
    rw [value?, value?, last, last', Option.map_some, Option.map_some, lists.value_eq,
      lists'.value_eq]
    exact congrArg some (Display.map_ofJson_of_alike h)

theorem AlikeFaces.of_array {all all' : List Json}
    (h : value? fields "card_faces" = some (.array all))
    (h' : value? fields' "card_faces" = some (.array all'))
    (halike : ∀ faces faces' : List Entry, faces.map Entry.value = all →
      faces'.map Entry.value = all' → List.Forall₂ Display.Alike faces faces') :
    AlikeFaces fields fields' := by
  obtain ⟨f, hlast, hvalue⟩ := Option.map_eq_some_iff.mp h
  obtain ⟨f', hlast', hvalue'⟩ := Option.map_eq_some_iff.mp h'
  obtain ⟨faces, hfaces, hall⟩ := Items.of_read (hvalue ▸ f.content.reads)
  obtain ⟨faces', hfaces', hall'⟩ := Items.of_read (hvalue' ▸ f'.content.reads)
  exact .listed hlast hlast' hfaces hfaces' (halike faces faces' hall.symm hall'.symm)

theorem Agree.ofMembers_eq (h : Agree fields fields') :
    ofMembers (gather [] fields) = ofMembers (gather [] fields') := by
  have hfind : ∀ key ∈ ownKeys, (gather [] fields).find? key = (gather [] fields').find? key := by
    intro key hkey
    rw [Field.find?_gather_nil, Field.find?_gather_nil, h.own key hkey]
  have hdisplay : Display.ofMembers (gather [] fields) = Display.ofMembers (gather [] fields') :=
    Display.ofMembers_congr fun key hkey => hfind key (List.mem_append_left _ hkey)
  simp only [ofMembers, hdisplay, Field.find?_gather_nil, h.faces.map_eq]
  simp only [h.own "border_color" (by decide), h.own "has_acorn" (by decide),
    h.own "legalities" (by decide), h.own "layout" (by decide)]

theorem decode_of_object {text : Bytes} {final : Bool} {members : Members} {used : Nat}
    (h : Target.json.decode text final = .complete (.object members) used) :
    (∃ rest, Reader.read text = .value (.object members) used rest)
      ∧ Card.target.decode text final = .complete (ofMembers members) used := by
  obtain ⟨item, hitem, hvalue, rfl⟩ := Target.decode_complete h
  obtain ⟨v, hread, hconvert⟩ := Target.readFirst_eq_ok hitem
  rw [hvalue] at hconvert
  cases hconvert
  refine ⟨⟨_, hread⟩, ?_⟩
  rw [target, Target.decode_map, h]
  rfl

/-- **Two texts of objects that agree on the keys of a card are texts of the same card**, which has
the same outcome: the order of the keys, earlier values of a key, other keys and blanks do not
matter. Each text lists its fields in one way. The card is also the one that is taken out of either
object value by value, although each removal changes the order of what is left. -/
theorem decode_of_agree {text text' : Bytes} {final final' : Bool} {members members' : Members}
    {used used' : Nat} (h : Target.json.decode text final = .complete (.object members) used)
    (h' : Target.json.decode text' final' = .complete (.object members') used') :
    (∃! fields, Fields text fields) ∧ (∃! fields, Fields text' fields)
      ∧ ∀ fields fields', Fields text fields → Fields text' fields' → Agree fields fields' →
        ∃ card card' : Card, target.decode text final = .complete card used
          ∧ target.decode text' final' = .complete card' used'
          ∧ taken (.object members) = card ∧ taken (.object members') = card'
          ∧ card = card' ∧ card.outcome = card'.outcome := by
  obtain ⟨⟨rest, hread⟩, hcard⟩ := decode_of_object h
  obtain ⟨⟨rest', hread'⟩, hcard'⟩ := decode_of_object h'
  obtain ⟨listed, hlisted, hmembers⟩ := Fields.of_read hread
  obtain ⟨listed', hlisted', hmembers'⟩ := Fields.of_read hread'
  refine ⟨⟨listed, hlisted, fun fields hfields => hfields.unique hlisted⟩,
    ⟨listed', hlisted', fun fields hfields => hfields.unique hlisted'⟩,
    fun fields fields' hfields hfields' hagree => ?_⟩
  rw [hfields.unique hlisted, hfields'.unique hlisted'] at hagree
  have heq : ofMembers members = ofMembers members' := by
    rw [hmembers, hmembers', hagree.ofMembers_eq]
  exact ⟨_, _, hcard, hcard', taken_eq ⟨⟨_, _, _, _, hread⟩, rfl⟩,
    taken_eq ⟨⟨_, _, _, _, hread'⟩, rfl⟩, heq, congrArg outcome heq⟩

def renamed : Bytes :=
  ("\x7b\"name\":\"A\",\"power\":1,\"name\":\"B\"," ++
    "\"card_faces\":[\x7b\"loyalty\":3\x7d]\x7d").toUTF8.data.toList

/-- The card of `renamed` in another order, with blanks, with keys that do not count and with an
earlier loyalty on its face. -/
def reordered : Bytes :=
  (" \x7b \"card_faces\" : [ \x7b\"loyalty\":4,\"x\":[],\"loyalty\":3\x7d ] ,\n" ++
    "\"id\":7, \"name\":\"B\",\"power\":1 \x7d").toUTF8.data.toList

theorem decode_of_agree_reordered : ∃ fields fields' card,
    Fields renamed fields ∧ Fields reordered fields' ∧ Agree fields fields'
      ∧ target.decode renamed true = .complete card 62
      ∧ target.decode reordered true = .complete card 87 := by
  have h : Target.json.decode renamed true = .complete (.object [("name", .string "B"),
      ("power", .number (.integer 1)),
      ("card_faces", .array [.object [("loyalty", .number (.integer 3))]])]) 62 := rfl
  have h' : Target.json.decode reordered true = .complete (.object
      [("card_faces", .array [.object [("loyalty", .number (.integer 3)), ("x", .array [])]]),
      ("id", .number (.integer 7)), ("name", .string "B"),
      ("power", .number (.integer 1))]) 87 := rfl
  obtain ⟨⟨fields, hfields, -⟩, ⟨fields', hfields', -⟩, hsame⟩ := decode_of_agree h h'
  obtain ⟨⟨_, hread⟩, -⟩ := decode_of_object h
  obtain ⟨⟨_, hread'⟩, -⟩ := decode_of_object h'
  have hagree : Agree fields fields' := by
    refine ⟨fun key hkey => ?_, .of_array (hfields.value?_eq hread _) (hfields'.value?_eq hread' _)
      fun faces faces' hfaces hfaces' => ?_⟩
    · rw [hfields.value?_eq hread, hfields'.value?_eq hread']
      revert key
      simp [ownKeys, Display.keys, Members.find?]
    · obtain ⟨e, rfl, he⟩ := List.map_eq_singleton_iff.mp hfaces
      obtain ⟨e', rfl, he'⟩ := List.map_eq_singleton_iff.mp hfaces'
      refine .cons (.of_object he he' ?_) .nil
      simp [Display.keys, Members.find?]
  obtain ⟨card, _, hcard, hcard', -, -, rfl, -⟩ := hsame fields fields' hfields hfields' hagree
  exact ⟨fields, fields', card, hfields, hfields', hagree, hcard, hcard'⟩

end Card
end PlayableCards
