import Mathlib.Algebra.Group.Nat.Defs
import Mathlib.Data.List.Basic
import PlayableCards.Proofs.Text.Utf8
import PlayableCards.Text.Alphabetic
import PlayableCards.Text.Lowercase

/-!
# Lower case, character by character

Each character has its lower-case form, whatever stands around it, but for a capital sigma, which
has two. All forms are one character long but that of the dotted capital I, which is two, and their
characters are alphabetic as the character itself is but for the second of these two, a mark.
-/

namespace PlayableCards
namespace Text

namespace CodeSet

def range : Nat := 0x110000

/-- A set as a number, with a bit for each code point. Membership of many is found at once in it. -/
def bits : List Nat → Bool → Nat
  | [], inside => bif inside then 2 ^ range - 1 else 0
  | edge :: edges, inside =>
    ((bits edges (!inside)) >>> edge) <<< edge ||| (bif inside then 2 ^ edge - 1 else 0)

theorem testBit_bits {n : Nat} (h : n < range) (edges : List Nat) (inside : Bool) :
    (bits edges inside).testBit n = crossed edges n inside := by
  induction edges generalizing inside with
  | nil => cases inside <;> simp [bits, crossed, h]
  | cons edge edges ih =>
    rw [bits, Nat.testBit_or, Nat.testBit_shiftLeft, Nat.testBit_shiftRight]
    rcases Nat.lt_or_ge n edge with hlt | hge
    · rw [crossed_of_lt hlt]
      cases inside <;> simp [hlt, Nat.not_le.mpr hlt]
    · rw [crossed_of_le hge, Nat.add_sub_cancel' hge, ih]
      cases inside <;> simp [hge, Nat.not_lt.mpr hge]

end CodeSet

namespace CapitalRun

def members (run : CapitalRun) : List Nat :=
  (List.range ((run.last - run.first) / run.stride + 1)).map fun k => run.first + k * run.stride

def image (run : CapitalRun) (n : Nat) : Nat := (n + run.shift).toNat

theorem mem_members {run : CapitalRun} {n : Nat} (hfirst : run.first ≤ n) (hlast : n ≤ run.last)
    (hstride : (n - run.first) % run.stride = 0) : n ∈ run.members := by
  refine List.mem_map.mpr ⟨(n - run.first) / run.stride, List.mem_range.mpr ?_, ?_⟩
  · exact Nat.lt_succ_of_le (Nat.div_le_div_right (by omega))
  · rw [Nat.div_mul_cancel (Nat.dvd_of_mod_eq_zero hstride)]
    omega

end CapitalRun

theorem lowered_cases (runs : List CapitalRun) (n : Nat) :
    lowered runs n = n ∨ ∃ run ∈ runs, n ∈ run.members ∧ lowered runs n = run.image n := by
  induction runs with
  | nil => exact .inl rfl
  | cons run runs ih =>
    rw [lowered]
    split
    · exact .inl rfl
    · rename_i hfirst
      split
      · rename_i hrun
        simp only [Bool.and_eq_true, decide_eq_true_eq, beq_iff_eq] at hrun
        exact .inr ⟨run, List.mem_cons_self,
          CapitalRun.mem_members (Nat.not_lt.mp hfirst) hrun.1 hrun.2, rfl⟩
      · rcases ih with h | ⟨run', hmem, h⟩
        · exact .inl h
        · exact .inr ⟨run', List.mem_cons_of_mem _ hmem, h⟩

theorem capitals_alphabetic : capitals.all (fun run => run.members.all fun n =>
    (CodeSet.bits alphabetic.edges false).testBit n
      && (CodeSet.bits alphabetic.edges false).testBit (run.image n)
      && decide (run.image n).isValidChar) = true := by
  decide +kernel

theorem toNat_lt (c : Char) : c.toNat < CodeSet.range := by
  have hvalid : c.toNat < 0xD800 ∨ 0xDFFF < c.toNat ∧ c.toNat < 0x110000 := c.valid
  rw [CodeSet.range]
  omega

theorem isAlphabetic_eq_testBit (c : Char) :
    isAlphabetic c = (CodeSet.bits alphabetic.edges false).testBit c.toNat :=
  (CodeSet.testBit_bits (toNat_lt c) alphabetic.edges false).symm

theorem isAlphabetic_lowerChar (c : Char) : isAlphabetic (lowerChar c) = isAlphabetic c := by
  rw [lowerChar]
  rcases lowered_cases capitals c.toNat with h | ⟨run, hrun, hc, h⟩
  · rw [h, Char.ofNat_toNat]
  · have hall := List.all_eq_true.mp (List.all_eq_true.mp capitals_alphabetic run hrun) _ hc
    simp only [Bool.and_eq_true, decide_eq_true_eq] at hall
    obtain ⟨⟨hcapital, himage⟩, hvalid⟩ := hall
    rw [h, isAlphabetic_eq_testBit, isAlphabetic_eq_testBit, Utf8.toNat_ofNat hvalid, himage, hcapital]

inductive LowersTo : Char → List Char → Prop where
  | dotted : LowersTo '\u0130' ['i', '\u0307']
  | sigma : LowersTo 'Σ' ['σ']
  | finalSigma : LowersTo 'Σ' ['ς']
  | other {c : Char} (hdotted : c ≠ '\u0130') (hsigma : c ≠ 'Σ') : LowersTo c [lowerChar c]

inductive Lowered : List Char → List Char → Prop where
  | nil : Lowered [] []
  | cons {c : Char} {form cs lower : List Char} (hform : LowersTo c form)
      (hrest : Lowered cs lower) : Lowered (c :: cs) (form ++ lower)

theorem lowerFrom_cons (done : List Char) (afterCased : Bool) (c : Char) (cs : List Char) :
    ∃ form afterCased', LowersTo c form
      ∧ lowerFrom done afterCased (c :: cs) = lowerFrom (form.reverse ++ done) afterCased' cs := by
  rw [lowerFrom]
  by_cases hdotted : c = '\u0130'
  · subst hdotted
    exact ⟨_, _, .dotted, rfl⟩
  by_cases hsigma : c = 'Σ'
  · subst hsigma
    cases afterCased && !startsCased cs with
    | true => exact ⟨_, _, .finalSigma, rfl⟩
    | false => exact ⟨_, _, .sigma, rfl⟩
  · refine ⟨_, if isCaseIgnorable c then afterCased else isCased c, .other hdotted hsigma, ?_⟩
    rw [if_neg (by simpa using hdotted), if_neg (by simpa using hsigma)]
    rfl

theorem lowerFrom_eq (done : List Char) (afterCased : Bool) (cs : List Char) :
    ∃ lower, Lowered cs lower ∧ lowerFrom done afterCased cs = done.reverse ++ lower := by
  induction cs generalizing done afterCased with
  | nil => exact ⟨[], .nil, (List.append_nil _).symm⟩
  | cons c cs ih =>
    obtain ⟨form, afterCased', hform, heq⟩ := lowerFrom_cons done afterCased c cs
    obtain ⟨lower, hlower, hrest⟩ := ih (form.reverse ++ done) afterCased'
    refine ⟨form ++ lower, .cons hform hlower, ?_⟩
    rw [heq, hrest, List.reverse_append, List.reverse_reverse, List.append_assoc]

theorem lowered_lowercase (cs : List Char) : Lowered cs (lowercase cs) := by
  obtain ⟨lower, hlower, heq⟩ := lowerFrom_eq [] false cs
  rw [lowercase, heq]
  exact hlower

namespace LowersTo

/-- Forms are of one character, as alphabetic as their own, but for one. -/
theorem dotted_or_single {c : Char} {form : List Char} (h : LowersTo c form) :
    (c = '\u0130' ∧ form = ['i', '\u0307'])
      ∨ c ≠ '\u0130' ∧ ∃ l, form = [l] ∧ isAlphabetic l = isAlphabetic c := by
  cases h with
  | dotted => exact .inl ⟨rfl, rfl⟩
  | sigma => exact .inr ⟨by decide, 'σ', rfl, by decide +kernel⟩
  | finalSigma => exact .inr ⟨by decide, 'ς', rfl, by decide +kernel⟩
  | other hdotted _ => exact .inr ⟨hdotted, lowerChar c, rfl, isAlphabetic_lowerChar c⟩

theorem unique {c : Char} {form other : List Char} (h : LowersTo c form) (hother : LowersTo c other)
    (hsigma : 'σ' ∉ form) (hfinal : 'ς' ∉ form) : other = form := by
  cases h <;> cases hother <;> simp_all

end LowersTo

namespace Lowered

theorem of_append {front rest lower : List Char} (h : Lowered (front ++ rest) lower) :
    ∃ lowerFront lowerRest, lower = lowerFront ++ lowerRest ∧ Lowered front lowerFront
      ∧ Lowered rest lowerRest := by
  induction front generalizing lower with
  | nil => exact ⟨[], lower, rfl, .nil, h⟩
  | cons c front ih =>
    cases h with
    | cons hform htail =>
    obtain ⟨lowerFront, lowerRest, rfl, hfront, hrest⟩ := ih htail
    exact ⟨_, lowerRest, (List.append_assoc _ _ _).symm, .cons hform hfront, hrest⟩

/-- Where lower case is cut, the text can be cut, except within the form of the dotted capital. -/
theorem cut {cs front rest : List Char} (h : Lowered cs (front ++ rest))
    (hcut : front.getLast? ≠ some 'i' ∨ rest.head? ≠ some '\u0307') :
    ∃ before after, cs = before ++ after ∧ Lowered before front ∧ Lowered after rest := by
  generalize hlower : front ++ rest = lower at h
  induction h generalizing front with
  | nil =>
    obtain ⟨rfl, rfl⟩ := List.append_eq_nil_iff.mp hlower
    exact ⟨[], [], rfl, .nil, .nil⟩
  | @cons c form cs lower hform hrest ih =>
    have hlast : ∀ l front, (l :: front).getLast? ≠ some 'i' ∨ rest.head? ≠ some '\u0307' →
        front.getLast? ≠ some 'i' ∨ rest.head? ≠ some '\u0307' := by
      intro l front
      refine Or.imp_left (mt fun hfront => ?_)
      rw [List.getLast?_cons, hfront, Option.getD_some]
    cases front with
    | nil =>
      rw [List.nil_append] at hlower
      exact ⟨[], c :: cs, rfl, .nil, hlower ▸ .cons hform hrest⟩
    | cons l front =>
      rcases hform.dotted_or_single with ⟨rfl, rfl⟩ | ⟨-, l', rfl, -⟩
      · injection hlower with hl hlower
        subst hl
        cases front with
        | nil =>
          rw [show rest = '\u0307' :: lower from hlower] at hcut
          simp at hcut
        | cons l' front =>
          injection hlower with hl' hlower
          subst hl'
          obtain ⟨before, after, rfl, hbefore, hafter⟩ :=
            ih (hlast _ _ (hlast _ _ hcut)) hlower
          exact ⟨_ :: before, after, rfl, .cons hform hbefore, hafter⟩
      · injection hlower with hl hlower
        subst hl
        obtain ⟨before, after, rfl, hbefore, hafter⟩ := ih (hlast _ _ hcut) hlower
        exact ⟨_ :: before, after, rfl, .cons hform hbefore, hafter⟩

theorem unique {cs lower other : List Char} (h : Lowered cs lower) (hother : Lowered cs other)
    (hsigma : 'σ' ∉ lower) (hfinal : 'ς' ∉ lower) : other = lower := by
  induction h generalizing other with
  | nil =>
    cases hother
    rfl
  | cons hform hrest ih =>
    cases hother with
    | cons hform' hrest' =>
    simp only [List.mem_append, not_or] at hsigma hfinal
    rw [hform.unique hform' hsigma.1 hfinal.1, ih hrest' hsigma.2 hfinal.2]

theorem any_head? {cs lower : List Char} (h : Lowered cs lower) :
    lower.head?.any isAlphabetic = cs.head?.any isAlphabetic := by
  cases h with
  | nil => rfl
  | cons hform hrest =>
    rcases hform.dotted_or_single with ⟨rfl, rfl⟩ | ⟨-, l, rfl, hl⟩
    · have hboth : isAlphabetic 'i' = isAlphabetic '\u0130' := by decide +kernel
      exact hboth
    · exact hl

/-- The last character is as alphabetic as before, unless it is the dotted capital. -/
theorem any_getLast? {cs lower : List Char} (h : Lowered cs lower) :
    lower.getLast?.any isAlphabetic
      = (cs.getLast?.any isAlphabetic && cs.getLast? != some '\u0130') := by
  rcases List.eq_nil_or_concat cs with rfl | ⟨front, c, rfl⟩
  · cases h
    rfl
  · rw [List.concat_eq_append] at h ⊢
    obtain ⟨lowerFront, lowerRest, rfl, -, hrest⟩ := h.of_append
    cases hrest with
    | cons hform hnil =>
    cases hnil
    rw [List.append_nil]
    rcases hform.dotted_or_single with ⟨rfl, rfl⟩ | ⟨hdotted, l, rfl, hl⟩
    · have hmark : isAlphabetic '\u0307' = false := by decide +kernel
      simp [hmark]
    · simp [hl, hdotted]

end Lowered

end Text
end PlayableCards
