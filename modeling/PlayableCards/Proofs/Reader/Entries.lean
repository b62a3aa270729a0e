import Mathlib.Data.List.Induction
import PlayableCards.Proofs.Json.Taking
import PlayableCards.Proofs.Reader.Container

/-!
# The entries of a container's text

What the text of a list or of an object lists, entry by entry, each with the bytes that it is read
from. Every text that is read as a container lists its entries, in one way only; an object's text
may list a key more than once.
-/

namespace PlayableCards

/-- A value that is read from the start of a text. -/
structure Entry where
  text : Bytes
  value : Json
  used : Nat
  rest : Bytes
  reads : Reader.read text = .value value used rest

/-- A member of an object as its text has it: a key, a colon and a value. -/
structure Field where
  key : String
  label : Entry
  named : label.value = .string key
  content : Entry
  colon : label.rest.dropWhile Ascii.isSpace = Ascii.colon :: content.text

theorem Entry.ext_text {e e' : Entry} (h : e.text = e'.text) : e = e' := by
  cases e with | mk text value used rest reads
  cases e' with | mk text' value' used' rest' reads'
  cases h
  rw [reads] at reads'
  cases reads'
  rfl

theorem Field.ext_text {f f' : Field} (h : f.label.text = f'.label.text) : f = f' := by
  have hlabel := Entry.ext_text h
  have hcolon := f.colon
  rw [hlabel, f'.colon] at hcolon
  have hcontent := Entry.ext_text (List.cons.inj hcolon).2
  have hkey := f.named
  rw [hlabel, f'.named] at hkey
  have hkey := Json.string.inj hkey
  cases f
  cases f'
  simp_all

/-- What a text lists up to the byte that closes the list: parts that start where `start` tells,
behind blanks and commas, and leave the text that `rest` tells. -/
inductive Lists (closer : UInt8) (start rest : α → Bytes) : Bytes → List α → Prop where
  | nil {text tail : Bytes} (closes : text.dropWhile Stream.isBetween = closer :: tail) :
    Lists closer start rest text []
  | cons {text : Bytes} {part : α} {parts : List α}
    (starts : text.dropWhile Stream.isBetween = start part)
    (more : Lists closer start rest (rest part) parts) : Lists closer start rest text (part :: parts)

theorem Lists.unique {closer : UInt8} {start rest : α → Bytes}
    (hstart : ∀ a a', start a = start a' → a = a') (hcloser : ∀ a tail, start a ≠ closer :: tail)
    {text : Bytes} {parts parts' : List α} (h : Lists closer start rest text parts)
    (h' : Lists closer start rest text parts') : parts = parts' := by
  induction h generalizing parts' with
  | nil closes =>
    cases h' with
    | nil => rfl
    | cons starts => exact absurd (starts.symm.trans closes) (hcloser _ _)
  | cons starts more ih =>
    cases h' with
    | nil closes => exact absurd (starts.symm.trans closes) (hcloser _ _)
    | cons starts' more' =>
      cases hstart _ _ (starts.symm.trans starts')
      rw [ih more']

def Items (text : Bytes) (items : List Entry) : Prop :=
  ∃ inside, text.dropWhile Ascii.isSpace = Ascii.openBracket :: inside
    ∧ Lists Ascii.closeBracket Entry.text Entry.rest inside items

def Fields (text : Bytes) (fields : List Field) : Prop :=
  ∃ inside, text.dropWhile Ascii.isSpace = Ascii.openBrace :: inside
    ∧ Lists Ascii.closeBrace (·.label.text) (·.content.rest) inside fields

theorem Entry.text_ne_closer (e : Entry) {closer : UInt8}
    (h : closer = Ascii.closeBracket ∨ closer = Ascii.closeBrace) (tail : Bytes) :
    e.text ≠ closer :: tail := by
  intro heq
  have hreads := e.reads
  rw [heq] at hreads
  rcases h with rfl | rfl <;> cases hreads

theorem Items.unique {text : Bytes} {items items' : List Entry} (h : Items text items)
    (h' : Items text items') : items = items' := by
  obtain ⟨inside, htext, hlists⟩ := h
  obtain ⟨inside', htext', hlists'⟩ := h'
  cases htext.symm.trans htext'
  exact hlists.unique (fun _ _ => Entry.ext_text) (fun e => e.text_ne_closer (.inl rfl)) hlists'

theorem Fields.unique {text : Bytes} {fields fields' : List Field} (h : Fields text fields)
    (h' : Fields text fields') : fields = fields' := by
  obtain ⟨inside, htext, hlists⟩ := h
  obtain ⟨inside', htext', hlists'⟩ := h'
  cases htext.symm.trans htext'
  exact hlists.unique (fun _ _ => Field.ext_text)
    (fun f => f.label.text_ne_closer (.inr rfl)) hlists'

namespace Field

/-- The members that an object has behind those it has already, when fields come one by one. -/
def gather (known : Members) (fields : List Field) : Members :=
  fields.foldl (fun members f => members.insert f.key f.content.value) known

def last? (fields : List Field) (key : String) : Option Field :=
  (fields.filter (·.key = key)).getLast?

def value? (fields : List Field) (key : String) : Option Json :=
  (last? fields key).map (·.content.value)

/-- **An object has of each key the value that came last.** -/
theorem find?_gather (known : Members) (fields : List Field) (key : String) :
    (gather known fields).find? key = (value? fields key).or (known.find? key) := by
  -- from the end, since the field that comes last decides
  induction fields using List.reverseRecOn with
  | nil => rfl
  | append_singleton fields f ih =>
    rw [gather] at ih ⊢
    rw [List.foldl_append, List.foldl_cons, List.foldl_nil, value?, last?, List.filter_append]
    by_cases hkey : f.key = key
    · subst hkey
      simp [Members.find?_insert_self]
    · rw [Members.find?_insert_of_ne _ _ (Ne.symm hkey), ih]
      simp [value?, last?, hkey]

theorem find?_gather_nil (fields : List Field) (key : String) :
    (gather [] fields).find? key = value? fields key := by
  rw [find?_gather, Members.find?_nil, Option.or_none]

theorem distinct_gather {known : Members} (h : known.Distinct) (fields : List Field) :
    (gather known fields).Distinct := by
  induction fields generalizing known with
  | nil => exact h
  | cons f fields ih => exact ih (h.insert f.key f.content.value)

end Field

namespace Reader

theorem step_key (members : Members) (content : Bytes) (escape : Escape) (b : UInt8) :
    (∃ content' escape',
        (string [] .value content escape).step b = .next (string [] .value content' escape')
          ∧ (string [] (.key members) content escape).step b
            = .next (string [] (.key members) content' escape'))
      ∨ (∃ s, (string [] .value content escape).step b = .done (.string s)
          ∧ (string [] (.key members) content escape).step b = .next (afterKey [] members s))
      ∨ ∃ cause back, (string [] (.key members) content escape).step b = .fault cause back := by
  simp only [step, stepString, closeString, takeUnit, deliver]
  repeat' split
  all_goals simp

theorem run_key {members : Members} {content : Bytes} {escape : Escape} {index : Nat}
    {bytes : Bytes} {whole : Json} {used : Nat} {rest : Bytes}
    (h : (string [] (.key members) content escape).run index bytes = .value whole used rest) :
    ∃ key mid behind, (string [] .value content escape).run index bytes
        = .value (.string key) mid behind
      ∧ (afterKey [] members key).run mid behind = .value whole used rest := by
  induction bytes generalizing content escape index with
  | nil => cases h
  | cons b bytes ih =>
    rcases step_key members content escape b with ⟨content', escape', hvalue, hkey⟩ |
      ⟨s, hvalue, hkey⟩ | ⟨cause, back, hkey⟩ <;> rw [run, hkey] at h
    · simpa only [run, hvalue] using ih h
    · exact ⟨s, index + 1, bytes, by simp only [run, hvalue], h⟩
    · cases h

theorem run_afterKey {members : Members} {key : String} {index : Nat} {bytes : Bytes}
    {whole : Json} {used : Nat} {rest : Bytes}
    (h : (afterKey [] members key).run index bytes = .value whole used rest) :
    ∃ text index', bytes.dropWhile Ascii.isSpace = Ascii.colon :: text
      ∧ (start.within (.member members key)).run index' text = .value whole used rest := by
  induction bytes generalizing index with
  | nil => cases h
  | cons b bytes ih =>
    rw [run, step] at h
    by_cases hspace : Ascii.isSpace b = true
    · rw [if_pos hspace] at h
      rw [List.dropWhile_cons_of_pos hspace]
      exact ih h
    · rw [if_neg hspace] at h
      rw [List.dropWhile_cons_of_neg hspace]
      by_cases hcolon : b = Ascii.colon
      · rw [if_pos hcolon] at h
        exact ⟨bytes, _, by rw [hcolon], h⟩
      · rw [if_neg hcolon] at h
        cases h

theorem entry_of_run {outer : Frame} {index : Nat} {text : Bytes} {whole : Json} {used : Nat}
    {rest : Bytes} (h : (start.within outer).run index text = .value whole used rest) :
    ∃ e : Entry, e.text = text
      ∧ ∃ mid, (outer.after e.value).run mid e.rest = .value whole used rest := by
  obtain ⟨v, mid, behind, hvalue, hafter⟩ := run_within outer h
  obtain ⟨mid', hread⟩ := run_value_from hvalue 0
  exact ⟨⟨text, v, mid', behind, hread⟩, rfl, mid, hafter⟩

theorem item_of_run {items : List Json} {b : UInt8} {index : Nat} {tail : Bytes}
    (hspace : Ascii.isSpace b = false) (hclose : b ≠ Ascii.closeBracket) {whole : Json} {used : Nat}
    {rest : Bytes} (h : (nextItem [] items).run index (b :: tail) = .value whole used rest) :
    ∃ e : Entry, e.text = b :: tail
      ∧ ∃ mid, (afterItem [] (e.value :: items)).run mid e.rest = .value whole used rest := by
  rw [run_nextItem hspace hclose] at h
  exact entry_of_run h

theorem field_of_run {members : Members} {b : UInt8} {index : Nat} {tail : Bytes}
    (hspace : Ascii.isSpace b = false) (hclose : b ≠ Ascii.closeBrace) {whole : Json} {used : Nat}
    {rest : Bytes}
    (h : (nextKey [] members).run index (b :: tail) = .value whole used rest) :
    ∃ f : Field, f.label.text = b :: tail
      ∧ ∃ mid, (afterMember [] (members.insert f.key f.content.value)).run mid f.content.rest
        = .value whole used rest := by
  have hstep : (nextKey [] members).step b = startKey [] members b := by
    simp [step, hspace, hclose]
  rw [run, hstep, startKey] at h
  by_cases hquote : b = Ascii.quote
  · subst hquote
    obtain ⟨key, mid, behind, hlabel, hafter⟩ := run_key h
    have hread : start.run index (Ascii.quote :: tail) = .value (.string key) mid behind := hlabel
    obtain ⟨mid', hread⟩ := run_value_from hread 0
    obtain ⟨text, index', hcolon, hvalue⟩ := run_afterKey hafter
    obtain ⟨e, rfl, hmember⟩ := entry_of_run hvalue
    exact ⟨⟨key, ⟨_, _, mid', behind, hread⟩, rfl, e, hcolon⟩, rfl, hmember⟩
  · rw [if_neg hquote] at h
    cases h

end Reader

theorem Entry.length_rest_lt (e : Entry) : e.rest.length < e.text.length := by
  have hlength := Reader.read_value e.reads
  have hpos := Reader.read_value_pos e.reads
  omega

theorem Field.length_rest_lt (f : Field) : f.content.rest.length < f.label.text.length := by
  have hcolon := (List.dropWhile_suffix Ascii.isSpace (l := f.label.rest)).length_le
  rw [f.colon, List.length_cons] at hcolon
  have hlabel := f.label.length_rest_lt
  have hcontent := f.content.length_rest_lt
  omega

namespace Reader

/-- What a reader of a container reads on is what the text lists, when after a comma the reader
always goes over one part and then stands after an entry. -/
theorem lists_of_run {σ : Type} (container : σ → Container) (push : σ → α → σ) {closer : UInt8}
    {start rest : α → Bytes} (hcloser : ∀ s, (container s).closer = closer)
    (hshort : ∀ part, (rest part).length < (start part).length) {whole : Json} {used : Nat}
    {behind : Bytes}
    (hpart : ∀ s b tail index, Ascii.isSpace b = false → b ≠ closer →
      (container s).next.run index (b :: tail) = .value whole used behind →
      ∃ part, start part = b :: tail
        ∧ ∃ mid, (container (push s part)).after.run mid (rest part) = .value whole used behind)
    {s : σ} {r : Reader} (hr : Between (container s) r) {index : Nat} {text : Bytes}
    (h : r.run index text = .value whole used behind) :
    ∃ parts, Lists closer start rest text parts
      ∧ whole = (container (parts.foldl push s)).whole := by
  induction hn : text.length using Nat.strongRecOn generalizing s r text index with
  | ind n ih =>
    subst hn
    have hle := (List.dropWhile_suffix Stream.isBetween (l := text)).length_le
    rcases run_between hr h with ⟨tail, hdrop, rfl⟩ | ⟨b, tail, index', hdrop, hb, hspace, hnext⟩
    · rw [hcloser] at hdrop
      exact ⟨[], .nil hdrop, rfl⟩
    · rw [hcloser] at hb
      obtain ⟨part, hstart, mid, hafter⟩ := hpart s b tail index' hspace hb hnext
      rw [hdrop, ← hstart] at hle
      obtain ⟨parts, hlists, rfl⟩ :=
        ih _ (Nat.lt_of_lt_of_le (hshort part) hle) (.after (container (push s part))) hafter rfl
      exact ⟨part :: parts, .cons (hdrop.trans hstart.symm) hlists, rfl⟩

theorem items_of_run {items : List Json} {r : Reader} (hr : Between (.list items) r) {index : Nat}
    {text : Bytes} {whole : Json} {used : Nat} {rest : Bytes}
    (h : r.run index text = .value whole used rest) :
    ∃ entries, Lists Ascii.closeBracket Entry.text Entry.rest text entries
      ∧ whole = .array (items.reverse ++ entries.map Entry.value) := by
  obtain ⟨entries, hlists, rfl⟩ := lists_of_run .list (fun items (e : Entry) => e.value :: items)
    (fun _ => rfl) Entry.length_rest_lt (fun _ _ _ _ hspace hb hitem => item_of_run hspace hb hitem)
    hr h
  exact ⟨entries, hlists, by simp [Container.whole]⟩

theorem fields_of_run {members : Members} {r : Reader} (hr : Between (.object members) r)
    {index : Nat} {text : Bytes} {whole : Json} {used : Nat} {rest : Bytes}
    (h : r.run index text = .value whole used rest) :
    ∃ fields, Lists Ascii.closeBrace (·.label.text) (·.content.rest) text fields
      ∧ whole = .object (Field.gather members fields) :=
  lists_of_run .object (fun members (f : Field) => members.insert f.key f.content.value)
    (fun _ => rfl) Field.length_rest_lt
    (fun _ _ _ _ hspace hb hkey => field_of_run hspace hb hkey) hr h

end Reader

/-- **A text that is read as a list lists its items.** -/
theorem Items.of_read {text : Bytes} {all : List Json} {used : Nat} {rest : Bytes}
    (h : Reader.read text = .value (.array all) used rest) :
    ∃ items, Items text items ∧ all = items.map Entry.value := by
  obtain ⟨first, inside, htext, hbegun⟩ := Reader.begunBy_of_read h
  cases Shape.eq_openBracket_of_begunBy hbegun
  obtain ⟨used', hread⟩ := Reader.read_dropWhile h
  rw [htext] at hread
  have hinside : (Reader.firstItem []).run 1 inside = .value (.array all) used' rest := hread
  obtain ⟨items, hlists, hall⟩ := Reader.items_of_run .firstItem hinside
  exact ⟨items, ⟨inside, htext, hlists⟩, Json.array.inj hall⟩

/-- **A text that is read as an object lists its fields**, from which the object is gathered. -/
theorem Fields.of_read {text : Bytes} {members : Members} {used : Nat} {rest : Bytes}
    (h : Reader.read text = .value (.object members) used rest) :
    ∃ fields, Fields text fields ∧ members = Field.gather [] fields := by
  obtain ⟨first, inside, htext, hbegun⟩ := Reader.begunBy_of_read h
  cases Shape.eq_openBrace_of_begunBy hbegun
  obtain ⟨used', hread⟩ := Reader.read_dropWhile h
  rw [htext] at hread
  have hinside : (Reader.firstKey []).run 1 inside = .value (.object members) used' rest := hread
  obtain ⟨fields, hlists, hall⟩ := Reader.fields_of_run .firstKey hinside
  exact ⟨fields, ⟨inside, htext, hlists⟩, Json.object.inj hall⟩

theorem Fields.value?_eq {text : Bytes} {fields : List Field} (h : Fields text fields)
    {members : Members} {used : Nat} {rest : Bytes}
    (hread : Reader.read text = .value (.object members) used rest) (key : String) :
    Field.value? fields key = members.find? key := by
  obtain ⟨fields', hfields, rfl⟩ := Fields.of_read hread
  rw [h.unique hfields, Field.find?_gather_nil]

theorem Items.value_eq {e : Entry} {items : List Entry} (h : Items e.text items) :
    e.value = .array (items.map Entry.value) := by
  obtain ⟨first, inside, htext, hbegun⟩ := Reader.begunBy_of_read e.reads
  obtain ⟨inside', htext', -⟩ := id h
  cases htext.symm.trans htext'
  cases hvalue : e.value with
  | array all =>
    obtain ⟨items', hitems, rfl⟩ := Items.of_read (hvalue ▸ e.reads)
    rw [h.unique hitems]
  | _ =>
    rw [hvalue] at hbegun
    cases hbegun

theorem Fields.value_eq {e : Entry} {fields : List Field} (h : Fields e.text fields) :
    e.value = .object (Field.gather [] fields) := by
  obtain ⟨first, inside, htext, hbegun⟩ := Reader.begunBy_of_read e.reads
  obtain ⟨inside', htext', -⟩ := id h
  cases htext.symm.trans htext'
  cases hvalue : e.value with
  | object members =>
    obtain ⟨fields', hfields, rfl⟩ := Fields.of_read (hvalue ▸ e.reads)
    rw [h.unique hfields]
  | _ =>
    rw [hvalue] at hbegun
    cases hbegun

namespace Json

def Readable (v : Json) : Prop := ∃ e : Entry, e.value = v

namespace Readable

theorem item {all : List Json} (h : Readable (.array all)) {v : Json} (hv : v ∈ all) :
    Readable v := by
  obtain ⟨e, he⟩ := h
  obtain ⟨items, -, rfl⟩ := Items.of_read (he ▸ e.reads)
  obtain ⟨item, -, rfl⟩ := List.mem_map.mp hv
  exact ⟨item, rfl⟩

variable {members : Members}

theorem distinct (h : Readable (.object members)) : members.Distinct := by
  obtain ⟨e, he⟩ := h
  obtain ⟨fields, -, rfl⟩ := Fields.of_read (he ▸ e.reads)
  exact Field.distinct_gather Members.distinct_nil fields

theorem member (h : Readable (.object members)) {key : String} {v : Json}
    (hv : members.find? key = some v) : Readable v := by
  obtain ⟨e, he⟩ := h
  obtain ⟨fields, -, rfl⟩ := Fields.of_read (he ▸ e.reads)
  rw [Field.find?_gather_nil, Field.value?] at hv
  obtain ⟨f, -, rfl⟩ := Option.map_eq_some_iff.mp hv
  exact ⟨f.content, rfl⟩

end Readable
end Json
end PlayableCards
