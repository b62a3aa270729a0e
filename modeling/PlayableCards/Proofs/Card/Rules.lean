import Mathlib.Data.List.Sort
import Mathlib.Data.String.Basic
import PlayableCards.Proofs.Card.DigitalOnly
import PlayableCards.Proofs.Export.Stats
import PlayableCards.Proofs.Text.Trim

/-!
# Rules apart

Each exclusion rule looks at one attribute of a card and at nothing else. So the reason given for a
card is the least of the reasons that its attributes give one by one, in the order in which
statistics list them too. Each attribute gives its reasons where its own condition says so, but for
a digital-only marker that is part of a word behind a dotted capital I.
-/

namespace PlayableCards

inductive Json.Falsy : Json → Prop where
  | null : Falsy null
  | no : Falsy (bool false)
  | zero {n : Number} (h : n.isZero = true) : Falsy (number n)
  | emptyString : Falsy (string "")
  | emptyArray : Falsy (array [])
  | emptyObject : Falsy (object [])

inductive Attribute where
  | borderColor
  | acorn
  | legalities
  | layout
  | typeLine
  | oracleText
  deriving DecidableEq, Repr

/-- A card with one attribute alone, as it is shown to the rules. -/
def Exhibit.only (e : Exhibit) : Attribute → Exhibit
  | .borderColor => ⟨{ Card.empty with borderColor := e.card.borderColor }, none, none⟩
  | .acorn => ⟨{ Card.empty with acorn := e.card.acorn }, none, none⟩
  | .legalities => ⟨{ Card.empty with legalities := e.card.legalities }, none, none⟩
  | .layout => ⟨{ Card.empty with layout := e.card.layout }, none, none⟩
  | .typeLine => ⟨.empty, e.typeLine, none⟩
  | .oracleText => ⟨.empty, none, e.oracleText⟩

/-- The rules text has a digital-only marker behind a dotted capital I, and none that stands by
itself. -/
def Exhibit.Misread (e : Exhibit) : Prop :=
  ∃ s, e.oracleText = some s ∧ ¬ "Theme color".toList <:+: s.toList
    ∧ Marker.HasDigital (· = some '\u0130') s.toList
    ∧ ¬ Marker.HasDigital (Marker.bounds · = true) s.toList

def Text.Says (s word : String) : Prop :=
  ∃ core, Trimmed s.toList core ∧ lowercase core = word.toList

namespace Exclusion

def looksAt : Exclusion → Attribute
  | silverBorder => .borderColor
  | acorn => .acorn
  | notLegal => .legalities
  | layout => .layout
  | typeLine => .typeLine
  | themeColor | digitalOnly => .oracleText

/-- What an attribute has to be for a rule to be given as the reason when there is no other
attribute. -/
inductive Gives (e : Exhibit) : Attribute → Exclusion → Prop where
  | silver {s : String} (has : e.card.borderColor = some s) (spelled : Text.Says s "silver") :
    Gives e .borderColor silverBorder
  | acorn {v : Json} (has : e.card.acorn = some v) (truthy : ¬ v.Falsy) : Gives e .acorn acorn
  | notLegal {members : Members} (has : e.card.legalities = some members) (some : members ≠ [])
    (nowhere : ∀ m ∈ members, m.2 = .string "not_legal") : Gives e .legalities notLegal
  | layout {s : String} (has : e.card.layout = some s)
    (spelled : ∃ word ∈ layouts, Text.Says s word) : Gives e .layout layout
  | unplayed {s : String} (has : e.typeLine = some s)
    (names : ∃ type ∈ types, type.toList <:+: s.toList) : Gives e .typeLine typeLine
  | bare {s : String} (has : e.typeLine = some s) (spelled : Text.Trimmed s.toList "Card".toList) :
    Gives e .typeLine typeLine
  | theme {s : String} (has : e.oracleText = some s)
    (names : "Theme color".toList <:+: s.toList) : Gives e .oracleText themeColor
  | digital {s : String} (has : e.oracleText = some s)
    (other : ¬ "Theme color".toList <:+: s.toList)
    (digital : Marker.HasDigital (Marker.bounds · = true) s.toList) :
    Gives e .oracleText digitalOnly

/-! ### What each condition says -/

theorem isTruthy_eq_false_iff (v : Json) : isTruthy v = false ↔ v.Falsy := by
  constructor
  · intro h
    cases v with
    | null => exact .null
    | bool b =>
      cases h
      exact .no
    | number n => exact .zero (by simpa [isTruthy] using h)
    | string s =>
      have hs : s = "" := by simpa [isTruthy] using h
      exact hs ▸ .emptyString
    | array items =>
      have hitems : items = [] := by simpa [isTruthy] using h
      exact hitems ▸ .emptyArray
    | object members =>
      have hmembers : members = [] := by simpa [isTruthy] using h
      exact hmembers ▸ .emptyObject
  · intro h
    cases h with
    | zero h => simp [isTruthy, h]
    | _ => rfl

theorem normalized_eq_iff {s : String} {word : String} :
    normalized (some s) = word ↔ Text.Says s word := by
  rw [normalized, Option.getD_some, String.ofList_eq]
  constructor
  · intro h
    exact ⟨_, Text.trimmed_trim _, h⟩
  · rintro ⟨core, hcore, h⟩
    rw [hcore.eq, h]

theorem normalized_none_ne_silver : normalized none ≠ "silver" := by decide +kernel

theorem normalized_none_not_mem : normalized none ∉ layouts := by decide +kernel

theorem isNotLegal_iff {v : Json} : isNotLegal v = true ↔ v = .string "not_legal" := by
  cases v <;> simp [isNotLegal]

theorem legalNowhere_iff {members : Members} :
    legalNowhere members = true
      ↔ members ≠ [] ∧ ∀ m ∈ members, m.2 = .string "not_legal" := by
  simp [legalNowhere, isNotLegal_iff]

theorem occurs_iff {part cs : List Char} : Marker.occurs part cs = true ↔ part <:+: cs := by
  induction cs with
  | nil => simp [Marker.occurs]
  | cons c cs ih => rw [Marker.occurs, Bool.or_eq_true, ih, List.isPrefixOf_iff_prefix,
      List.infix_cons_iff]

theorem namesUnplayed_iff {s : String} :
    namesUnplayed s = true
      ↔ (∃ type ∈ types, type.toList <:+: s.toList) ∨ Text.Trimmed s.toList "Card".toList := by
  rw [namesUnplayed, Bool.or_eq_true, isBare, beq_iff_eq, String.ofList_eq, Text.trim_eq_iff]
  simp [namesType, occurs_iff]

theorem namesTheme_iff {s : String} :
    namesTheme s = true ↔ "Theme color".toList <:+: s.toList := occurs_iff

/-! ### Rules and attributes -/

/-- An attribute by itself meets the rules about it, and no others. -/
theorem holds_only (e : Exhibit) (a : Attribute) (r : Exclusion) :
    holds (e.only a) r = (r.looksAt == a && holds e r) := by
  have hsilver := beq_eq_false_iff_ne.mpr normalized_none_ne_silver
  cases a <;> cases r <;>
    simp [holds, Exhibit.only, looksAt, Card.empty, hsilver, normalized_none_not_mem]

/-- The first rule that holds is the least in rank. -/
theorem first?_eq_some_iff {e : Exhibit} {r : Exclusion} :
    first? e = some r ↔ holds e r = true ∧ ∀ r', holds e r' = true → r.rank ≤ r'.rank := by
  rw [first?_eq_find?, List.find?_eq_some_iff_append]
  have hsorted := rank_pairwise
  constructor
  · rintro ⟨hr, before, after, hall, hbefore⟩
    refine ⟨hr, fun r' hr' => ?_⟩
    have hmem := mem_all r'
    rw [hall, List.mem_append, List.mem_cons] at hmem
    rw [hall, List.pairwise_append, List.pairwise_cons] at hsorted
    rcases hmem with hmem | rfl | hmem
    · have hnot := hbefore r' hmem
      rw [hr'] at hnot
      cases hnot
    · exact Nat.le_refl _
    · exact Nat.le_of_lt (hsorted.2.1.1 r' hmem)
  · rintro ⟨hr, hleast⟩
    obtain ⟨before, after, hall⟩ := List.append_of_mem (mem_all r)
    refine ⟨hr, before, after, hall, fun r' hmem => ?_⟩
    rw [hall, List.pairwise_append] at hsorted
    have hlt := hsorted.2.2 r' hmem r List.mem_cons_self
    rw [Bool.not_eq_true', Bool.eq_false_iff]
    exact fun hr' => Nat.not_lt.mpr (hleast r' hr') hlt

theorem first?_eq_none_iff {e : Exhibit} : first? e = none ↔ ∀ r, holds e r = false := by
  simp [first?_eq_find?, List.find?_eq_none, mem_all]

theorem holds_of_only {e : Exhibit} {a : Attribute} {r : Exclusion}
    (h : first? (e.only a) = some r) : holds e r = true := by
  have hholds := (first?_eq_some_iff.mp h).1
  rw [holds_only, Bool.and_eq_true] at hholds
  exact hholds.2

theorem exists_only_of_holds {e : Exhibit} {r : Exclusion} (h : holds e r = true) :
    ∃ r', first? (e.only r.looksAt) = some r' ∧ r'.rank ≤ r.rank := by
  have hholds : holds (e.only r.looksAt) r = true := by rw [holds_only, beq_self_eq_true, h]; rfl
  cases hfirst : first? (e.only r.looksAt) with
  | none =>
    rw [first?_eq_none_iff.mp hfirst r] at hholds
    cases hholds
  | some r' => exact ⟨r', rfl, (first?_eq_some_iff.mp hfirst).2 r hholds⟩

theorem first?_only {e : Exhibit} {a : Attribute} {r : Exclusion} :
    first? (e.only a) = some r ↔ r.looksAt = a ∧ holds e r = true
      ∧ (r = digitalOnly → holds e themeColor = false) := by
  simp only [first?_eq_some_iff, holds_only, Bool.and_eq_true, beq_iff_eq]
  constructor
  · rintro ⟨⟨rfl, hholds⟩, hleast⟩
    refine ⟨rfl, hholds, ?_⟩
    rintro rfl
    rw [Bool.eq_false_iff]
    intro htheme
    exact absurd (hleast themeColor ⟨rfl, htheme⟩) (by decide)
  · rintro ⟨rfl, hholds, hother⟩
    refine ⟨⟨rfl, hholds⟩, fun r' ⟨hattribute, hholds'⟩ => ?_⟩
    cases r <;> cases r' <;> simp_all [looksAt, rank]

theorem gives_of_holds {e : Exhibit} {r : Exclusion} (hr : r ≠ digitalOnly)
    (h : holds e r = true) : Gives e r.looksAt r := by
  cases r with
  | silverBorder =>
    rw [holds, beq_iff_eq] at h
    cases hs : e.card.borderColor with
    | none => exact absurd (hs ▸ h) normalized_none_ne_silver
    | some s => exact .silver hs (normalized_eq_iff.mp (hs ▸ h))
  | acorn =>
    obtain ⟨v, hv, htruthy⟩ := (Option.any_eq_true _ _).mp h
    exact .acorn hv fun hfalsy => by simp [(isTruthy_eq_false_iff v).mpr hfalsy] at htruthy
  | notLegal =>
    obtain ⟨members, hmembers, hnowhere⟩ := (Option.any_eq_true _ _).mp h
    obtain ⟨hsome, hall⟩ := legalNowhere_iff.mp hnowhere
    exact .notLegal hmembers hsome hall
  | layout =>
    rw [holds, List.contains_iff_mem] at h
    cases hs : e.card.layout with
    | none => exact absurd (hs ▸ h) normalized_none_not_mem
    | some s =>
      rw [hs] at h
      exact .layout hs ⟨_, h, normalized_eq_iff.mp rfl⟩
  | typeLine =>
    obtain ⟨s, hs, hnames⟩ := (Option.any_eq_true _ _).mp h
    rcases namesUnplayed_iff.mp hnames with htype | hbare
    · exact .unplayed hs htype
    · exact .bare hs hbare
  | themeColor =>
    obtain ⟨s, hs, hnames⟩ := (Option.any_eq_true _ _).mp h
    exact .theme hs (namesTheme_iff.mp hnames)
  | digitalOnly => exact absurd rfl hr

theorem digital_of_holds {e : Exhibit} (h : holds e digitalOnly = true)
    (hother : holds e themeColor = false) : Gives e .oracleText digitalOnly ∨ e.Misread := by
  obtain ⟨s, hs, hdigital⟩ := (Option.any_eq_true _ _).mp h
  rw [holds, hs, Option.any_some] at hother
  have htheme : ¬ "Theme color".toList <:+: s.toList := by
    rw [← namesTheme_iff, hother]
    exact Bool.false_ne_true
  by_cases hstands : Marker.HasDigital (Marker.bounds · = true) s.toList
  · exact .inl (.digital hs htheme hstands)
  · have hdotted := (Marker.anyDigital_iff_or.mp hdigital).resolve_left hstands
    exact .inr ⟨s, hs, htheme, hdotted, hstands⟩

theorem first?_only_of_digital {e : Exhibit} {s : String} (has : e.oracleText = some s)
    (other : ¬ "Theme color".toList <:+: s.toList)
    (digital : Marker.HasDigital (Marker.bounds · = true) s.toList
      ∨ Marker.HasDigital (· = some '\u0130') s.toList) :
    first? (e.only .oracleText) = some digitalOnly := by
  have htheme : namesTheme s = false := Bool.eq_false_iff.mpr (namesTheme_iff.not.mpr other)
  have hdigital : Marker.anyDigital s = true := Marker.anyDigital_iff_or.mpr digital
  rw [first?_only]
  exact ⟨rfl, by simp [holds, has, hdigital], fun _ => by simp [holds, has, htheme]⟩

theorem first?_only_of_holds (r : Exclusion) (hr : r ≠ digitalOnly) {e : Exhibit}
    (h : holds e r = true) : first? (e.only r.looksAt) = some r :=
  first?_only.mpr ⟨rfl, h, fun hlast => absurd hlast hr⟩

theorem first?_only_of_gives {e : Exhibit} {a : Attribute} {r : Exclusion} (h : Gives e a r) :
    first? (e.only a) = some r := by
  cases h with
  | digital has other digital => exact first?_only_of_digital has other (.inl digital)
  | silver has spelled =>
    refine first?_only_of_holds silverBorder (by decide) ?_
    simp [holds, has, normalized_eq_iff.mpr spelled]
  | acorn has truthy =>
    rw [← isTruthy_eq_false_iff, Bool.not_eq_false] at truthy
    refine first?_only_of_holds acorn (by decide) ?_
    simp [holds, has, truthy]
  | notLegal has member nowhere =>
    refine first?_only_of_holds notLegal (by decide) ?_
    simp [holds, has, legalNowhere_iff.mpr ⟨member, nowhere⟩]
  | layout has spelled =>
    obtain ⟨word, hword, hspelled⟩ := spelled
    refine first?_only_of_holds layout (by decide) ?_
    simp [holds, has, normalized_eq_iff.mpr hspelled, hword]
  | unplayed has names =>
    refine first?_only_of_holds typeLine (by decide) ?_
    simp [holds, has, namesUnplayed_iff.mpr (.inl names)]
  | bare has spelled =>
    refine first?_only_of_holds typeLine (by decide) ?_
    simp [holds, has, namesUnplayed_iff.mpr (.inr spelled)]
  | theme has names =>
    refine first?_only_of_holds themeColor (by decide) ?_
    simp [holds, has, namesTheme_iff.mpr names]

theorem first?_only_iff_gives {e : Exhibit} {a : Attribute} {r : Exclusion} :
    first? (e.only a) = some r
      ↔ Gives e a r ∨ (e.Misread ∧ a = .oracleText ∧ r = digitalOnly) := by
  constructor
  · intro h
    obtain ⟨rfl, hholds, hother⟩ := first?_only.mp h
    by_cases hr : r = digitalOnly
    · subst hr
      exact (digital_of_holds hholds (hother rfl)).imp_right fun hmisread => ⟨hmisread, rfl, rfl⟩
    · exact .inl (gives_of_holds hr hholds)
  · rintro (hgives | ⟨⟨s, hs, hother, hdotted, -⟩, rfl, rfl⟩)
    · exact first?_only_of_gives hgives
    · exact first?_only_of_digital hs hother (.inr hdotted)

theorem not_gives_of_misread {e : Exhibit} (h : e.Misread) : ¬ Gives e .oracleText digitalOnly := by
  obtain ⟨s, hs, -, -, hstands⟩ := h
  rintro ⟨⟩
  rename_i s' hs' hother hstands'
  cases hs.symm.trans hs'
  exact hstands hstands'

theorem sublist_all {t : Tally} (h : t.Sorted) : (t.map Prod.fst).Sublist all := by
  have hsorted : (t.map Prod.fst).Pairwise fun r r' => r.rank < r'.rank := List.pairwise_map.mpr h
  have : Std.Antisymm fun r r' : Exclusion => r.rank < r'.rank :=
    ⟨fun r r' hlt hgt => absurd hgt (Nat.lt_asymm hlt)⟩
  refine List.sublist_of_subperm_of_pairwise ?_ hsorted rank_pairwise
  refine List.subperm_of_subset (hsorted.imp fun hlt heq => ?_) fun r _ => mem_all r
  exact Nat.ne_of_lt hlt (congrArg rank heq)

theorem sorted_record {s : Stats} (h : s.excluded.Sorted) (o : Outcome) :
    (s.record o).excluded.Sorted := by
  cases o with
  | block b => exact h
  | unnamed => exact h
  | excluded r => exact Tally.sorted_add h r

theorem sublist_all_record (outcomes : List Outcome) :
    ((outcomes.foldl Stats.record .zero).excluded.map Prod.fst).Sublist all :=
  sublist_all (List.foldlRecOn outcomes Stats.record (motive := fun s => s.excluded.Sorted)
    List.Pairwise.nil fun _ h o _ => sorted_record h o)

theorem first?_eq_some_iff_only {e : Exhibit} {r : Exclusion} :
    first? e = some r ↔ (∃ a, first? (e.only a) = some r)
      ∧ ∀ a r', first? (e.only a) = some r' → r.rank ≤ r'.rank := by
  constructor
  · intro hr
    obtain ⟨hholds, hleast⟩ := first?_eq_some_iff.mp hr
    obtain ⟨r', hr', hle⟩ := exists_only_of_holds hholds
    have hrank := Nat.le_antisymm hle (hleast r' (holds_of_only hr'))
    rw [Tally.rank_injective hrank] at hr'
    exact ⟨⟨r.looksAt, hr'⟩, fun a r'' hr'' => hleast r'' (holds_of_only hr'')⟩
  · rintro ⟨⟨a, ha⟩, hleast⟩
    refine first?_eq_some_iff.mpr ⟨holds_of_only ha, fun r' hholds => ?_⟩
    obtain ⟨r'', hr'', hle⟩ := exists_only_of_holds hholds
    exact Nat.le_trans (hleast _ r'' hr'') hle

theorem first?_eq_none_iff_only {e : Exhibit} :
    first? e = none ↔ ∀ a, first? (e.only a) = none := by
  rw [first?_eq_none_iff]
  constructor
  · intro hnone a
    rw [first?_eq_none_iff]
    intro r
    rw [holds_only, hnone r, Bool.and_false]
  · intro hnone r
    rw [Bool.eq_false_iff]
    intro hholds
    obtain ⟨r', hr', -⟩ := exists_only_of_holds hholds
    rw [hnone] at hr'
    cases hr'

/-- **The reason given for a card is the least of those that its attributes give alone**, in the
order of the rules, which is also that of the statistics. None is given if none of them gives one.
What each gives alone is told by the condition on it if and only if the rules text is not misread;
if it is, the last rule is given although its condition does not hold. -/
theorem first?_least (e : Exhibit) :
    (∀ r, first? e = some r ↔ (∃ a, first? (e.only a) = some r)
        ∧ ∀ a r', first? (e.only a) = some r' → r.rank ≤ r'.rank)
      ∧ (first? e = none ↔ ∀ a, first? (e.only a) = none)
      ∧ (∀ a r, first? (e.only a) = some r
        ↔ Gives e a r ∨ (e.Misread ∧ a = .oracleText ∧ r = digitalOnly))
      ∧ ((∀ a r, first? (e.only a) = some r ↔ Gives e a r) ↔ ¬ e.Misread)
      ∧ (all.Pairwise fun r r' => r.rank < r'.rank) ∧ (∀ r, r ∈ all)
      ∧ ∀ outcomes : List Outcome,
        ((outcomes.foldl Stats.record .zero).excluded.map Prod.fst).Sublist all := by
  refine ⟨fun r => first?_eq_some_iff_only, first?_eq_none_iff_only,
    fun a r => first?_only_iff_gives, ?_, rank_pairwise, mem_all, sublist_all_record⟩
  constructor
  · intro hgives hmisread
    have hgiven := first?_only_iff_gives.mpr (.inr ⟨hmisread, rfl, rfl⟩)
    exact not_gives_of_misread hmisread ((hgives .oracleText digitalOnly).mp hgiven)
  · intro hread a r
    rw [first?_only_iff_gives, or_iff_left]
    exact fun h => hread h.1

/-- A card with the rules text `İseek` and nothing else: the reason given is a marker, and none
stands in the text by itself. -/
theorem first?_behind_dotted : ∃ e : Exhibit,
    e = ⟨.empty, none, some "\u0130seek"⟩ ∧ first? (e.only .oracleText) = some digitalOnly
      ∧ ¬ Gives e .oracleText digitalOnly := by
  refine ⟨_, rfl, by decide +kernel, ?_⟩
  rintro ⟨⟩
  rename_i s hs hother hstands
  cases hs
  exact Marker.not_hasDigital_dotted hstands

end Exclusion
end PlayableCards
