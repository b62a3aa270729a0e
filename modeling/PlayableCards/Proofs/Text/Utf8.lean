import Mathlib.Data.List.Basic
import Mathlib.Tactic.SplitIfs
import PlayableCards.Text.Utf8

/-!
# Bytes of texts

Reading bytes as UTF-8 is the inverse of writing a text. Bytes that a text begins with are those of
whole characters and of a part of one at most; a byte that starts a character shows that the bytes
before it are whole.
-/

namespace PlayableCards
namespace Utf8

/-- The bytes of a character, by their number. -/
inductive Form : Bytes → Char → Prop where
  | single {a : UInt8} (h : isSingle a) : Form [a] (single a)
  | pair {a b : UInt8} (h : isPair a b) : Form [a, b] (pair a b)
  | triple {a b c : UInt8} (h : isTriple a b c) : Form [a, b, c] (triple a b c)
  | quad {a b c d : UInt8} (h : isQuad a b c d) : Form [a, b, c, d] (quad a b c d)

section Forms

variable {a b c d : UInt8}

theorem isTail_iff : isTail b ↔ 0x80 ≤ b.toNat ∧ b.toNat ≤ 0xBF := by
  simp [isTail, UInt8.le_iff_toNat_le]

theorem isSingle_iff : isSingle a ↔ a.toNat < 0x80 := by
  simp [isSingle, UInt8.lt_iff_toNat_lt]

theorem isPair_iff : isPair a b ↔ (0xC2 ≤ a.toNat ∧ a.toNat ≤ 0xDF) ∧ isTail b := by
  simp [isPair, UInt8.le_iff_toNat_le]

theorem isTriple_iff : isTriple a b c ↔
    (0xE0 ≤ a.toNat ∧ a.toNat ≤ 0xEF) ∧ isTail b ∧ isTail c
      ∧ (a.toNat = 0xE0 → 0xA0 ≤ b.toNat) ∧ (a.toNat = 0xED → b.toNat < 0xA0) := by
  simp [isTriple, UInt8.le_iff_toNat_le, UInt8.lt_iff_toNat_lt, ← UInt8.toNat_inj, and_assoc,
    or_iff_not_imp_left]

theorem isQuad_iff : isQuad a b c d ↔
    (0xF0 ≤ a.toNat ∧ a.toNat ≤ 0xF4) ∧ isTail b ∧ isTail c ∧ isTail d
      ∧ (a.toNat = 0xF0 → 0x90 ≤ b.toNat) ∧ (a.toNat = 0xF4 → b.toNat < 0x90) := by
  simp [isQuad, UInt8.le_iff_toNat_le, UInt8.lt_iff_toNat_lt, ← UInt8.toNat_inj, and_assoc,
    or_iff_not_imp_left]

theorem toNat_ofNat {n : Nat} (h : n.isValidChar) : (Char.ofNat n).toNat = n := by
  rw [Char.ofNat, dif_pos h]
  rfl

theorem toNat_single (h : isSingle a) : (single a).toNat = a.toNat := by
  rw [isSingle_iff] at h
  exact toNat_ofNat (.inl (by omega))

theorem toNat_pair (h : isPair a b) :
    (pair a b).toNat = (a.toNat - 0xC0) * 0x40 + (b.toNat - 0x80) := by
  have hvalid : ((a.toNat - 0xC0) * 0x40 + (b.toNat - 0x80)).isValidChar := by
    rw [isPair_iff, isTail_iff] at h
    simp only [Nat.isValidChar]
    omega
  exact toNat_ofNat hvalid

theorem toNat_triple (h : isTriple a b c) :
    (triple a b c).toNat
      = (a.toNat - 0xE0) * 0x1000 + (b.toNat - 0x80) * 0x40 + (c.toNat - 0x80) := by
  have hvalid : ((a.toNat - 0xE0) * 0x1000 + (b.toNat - 0x80) * 0x40
      + (c.toNat - 0x80)).isValidChar := by
    rw [isTriple_iff, isTail_iff, isTail_iff] at h
    simp only [Nat.isValidChar]
    omega
  exact toNat_ofNat hvalid

theorem toNat_quad (h : isQuad a b c d) :
    (quad a b c d).toNat = (a.toNat - 0xF0) * 0x40000 + (b.toNat - 0x80) * 0x1000
      + (c.toNat - 0x80) * 0x40 + (d.toNat - 0x80) := by
  have hvalid : ((a.toNat - 0xF0) * 0x40000 + (b.toNat - 0x80) * 0x1000
      + (c.toNat - 0x80) * 0x40 + (d.toNat - 0x80)).isValidChar := by
    rw [isQuad_iff, isTail_iff, isTail_iff, isTail_iff] at h
    simp only [Nat.isValidChar]
    omega
  exact toNat_ofNat hvalid

end Forms

theorem Form.congr {bytes : Bytes} {c d : Char} (h : Form bytes c) (hd : c.toNat = d.toNat) :
    Form bytes d := by
  rwa [← Char.toNat_inj.mp hd]

theorem form_utf8EncodeChar (c : Char) : Form (String.utf8EncodeChar c) c := by
  have hvalid : c.toNat < 0xD800 ∨ 0xDFFF < c.toNat ∧ c.toNat < 0x110000 := c.valid
  have hval : c.val.toNat = c.toNat := rfl
  have hbyte : ∀ n < 256, ∃ b, UInt8.ofNat n = b ∧ b.toNat = n := fun n hn =>
    ⟨_, rfl, by rw [UInt8.toNat_ofNat', Nat.mod_eq_of_lt hn]⟩
  simp only [String.utf8EncodeChar, hval]
  split_ifs with h₁ h₂ h₃
  · obtain ⟨a, ha, hna⟩ := hbyte c.toNat (by omega)
    have hsingle : isSingle a := isSingle_iff.mpr (by omega)
    rw [ha]
    exact (Form.single hsingle).congr ((toNat_single hsingle).trans hna)
  · obtain ⟨a, ha, hna⟩ := hbyte (c.toNat / 64 % 32 + 0xC0) (by omega)
    obtain ⟨b, hb, hnb⟩ := hbyte (c.toNat % 64 + 0x80) (by omega)
    have hpair : isPair a b := by
      rw [isPair_iff, isTail_iff]
      omega
    rw [ha, hb]
    refine (Form.pair hpair).congr ?_
    rw [toNat_pair hpair]
    omega
  · obtain ⟨a, ha, hna⟩ := hbyte (c.toNat / 4096 % 16 + 0xE0) (by omega)
    obtain ⟨b, hb, hnb⟩ := hbyte (c.toNat / 64 % 64 + 0x80) (by omega)
    obtain ⟨d, hd, hnd⟩ := hbyte (c.toNat % 64 + 0x80) (by omega)
    have htriple : isTriple a b d := by
      rw [isTriple_iff, isTail_iff, isTail_iff]
      omega
    rw [ha, hb, hd]
    refine (Form.triple htriple).congr ?_
    rw [toNat_triple htriple]
    omega
  · obtain ⟨a, ha, hna⟩ := hbyte (c.toNat / 262144 % 8 + 0xF0) (by omega)
    obtain ⟨b, hb, hnb⟩ := hbyte (c.toNat / 4096 % 64 + 0x80) (by omega)
    obtain ⟨d, hd, hnd⟩ := hbyte (c.toNat / 64 % 64 + 0x80) (by omega)
    obtain ⟨e, he, hne⟩ := hbyte (c.toNat % 64 + 0x80) (by omega)
    have hquad : isQuad a b d e := by
      rw [isQuad_iff, isTail_iff, isTail_iff, isTail_iff]
      omega
    rw [ha, hb, hd, he]
    refine (Form.quad hquad).congr ?_
    rw [toNat_quad hquad]
    omega

theorem utf8EncodeChar_of_form {bytes : Bytes} {c : Char} (h : Form bytes c) :
    String.utf8EncodeChar c = bytes := by
  have hval : c.val.toNat = c.toNat := rfl
  have hbyte : ∀ {n : Nat} {b : UInt8}, n = b.toNat → UInt8.ofNat n = b := by
    rintro n b rfl
    exact UInt8.ofNat_toNat
  simp only [String.utf8EncodeChar, hval]
  cases h with
  | @single a h =>
    have hc := toNat_single h
    rw [isSingle_iff] at h
    rw [if_pos (by omega), hbyte hc]
  | @pair a b h =>
    have hc := toNat_pair h
    rw [isPair_iff, isTail_iff] at h
    rw [if_neg (by omega), if_pos (by omega), @hbyte _ a (by omega), @hbyte _ b (by omega)]
  | @triple a b d h =>
    have hc := toNat_triple h
    rw [isTriple_iff, isTail_iff, isTail_iff] at h
    rw [if_neg (by omega), if_neg (by omega), if_pos (by omega), @hbyte _ a (by omega),
      @hbyte _ b (by omega), @hbyte _ d (by omega)]
  | @quad a b d e h =>
    have hc := toNat_quad h
    rw [isQuad_iff, isTail_iff, isTail_iff, isTail_iff] at h
    rw [if_neg (by omega), if_neg (by omega), if_neg (by omega), @hbyte _ a (by omega),
      @hbyte _ b (by omega), @hbyte _ d (by omega), @hbyte _ e (by omega)]

/-- Only the first byte of a character is none that continues one. -/
theorem exists_tails (c : Char) : ∃ first tails, String.utf8EncodeChar c = first :: tails
    ∧ isTail first = false ∧ ∀ b ∈ tails, isTail b := by
  have hfirst : ∀ {a : UInt8}, (a.toNat < 0x80 ∨ 0xC2 ≤ a.toNat) → isTail a = false := by
    intro a ha
    rw [Bool.eq_false_iff, Ne, isTail_iff]
    omega
  generalize hbytes : String.utf8EncodeChar c = bytes
  cases hbytes ▸ form_utf8EncodeChar c with
  | single h => exact ⟨_, [], rfl, hfirst (.inl (isSingle_iff.mp h)), by simp⟩
  | pair h =>
    have ⟨⟨hlo, _⟩, hb⟩ := isPair_iff.mp h
    exact ⟨_, [_], rfl, hfirst (.inr hlo), by simp [hb]⟩
  | triple h =>
    have ⟨⟨hlo, _⟩, hb, hc, _⟩ := isTriple_iff.mp h
    exact ⟨_, [_, _], rfl, hfirst (.inr (by omega)), by simp [hb, hc]⟩
  | quad h =>
    have ⟨⟨hlo, _⟩, hb, hc, hd, _⟩ := isQuad_iff.mp h
    exact ⟨_, [_, _, _], rfl, hfirst (.inr (by omega)), by simp [hb, hc, hd]⟩

theorem encode_cons (c : Char) (cs : List Char) :
    encode (c :: cs) = String.utf8EncodeChar c ++ encode cs := List.flatMap_cons

theorem encode_append (cs ds : List Char) : encode (cs ++ ds) = encode cs ++ encode ds :=
  List.flatMap_append

theorem span_of_form {bytes : Bytes} {c : Char} (h : Form bytes c) (read : List Char)
    (rest : Bytes) : span read (bytes ++ rest) = span (c :: read) rest := by
  cases h with
  | @single a h =>
    rw [List.cons_append, List.nil_append, span.eq_def]
    simp only [h, if_true]
  | @pair a b h =>
    have hsingle : ¬ isSingle a := by
      rw [isPair_iff] at h
      rw [isSingle_iff]
      omega
    rw [List.cons_append, List.cons_append, List.nil_append, span.eq_def]
    simp only [hsingle, Bool.false_eq_true, if_false, h, if_true]
  | @triple a b d h =>
    have hbefore : ¬ isSingle a ∧ ¬ isPair a b := by
      rw [isTriple_iff] at h
      rw [isSingle_iff, isPair_iff]
      omega
    rw [List.cons_append, List.cons_append, List.cons_append, List.nil_append, span.eq_def]
    simp only [hbefore.1, hbefore.2, Bool.false_eq_true, if_false, h, if_true]
  | @quad a b d e h =>
    have hbefore : ¬ isSingle a ∧ ¬ isPair a b ∧ ¬ isTriple a b d := by
      rw [isQuad_iff] at h
      rw [isSingle_iff, isPair_iff, isTriple_iff]
      omega
    rw [List.cons_append, List.cons_append, List.cons_append, List.cons_append, List.nil_append,
      span.eq_def]
    simp only [hbefore.1, hbefore.2.1, hbefore.2.2, Bool.false_eq_true, if_false, h, if_true]

theorem span_encode (read cs : List Char) : span read (encode cs) = (read.reverse ++ cs, []) := by
  induction cs generalizing read with
  | nil => simp [encode, span]
  | cons c cs ih =>
    rw [encode_cons, span_of_form (form_utf8EncodeChar c), ih, List.reverse_cons,
      List.append_assoc, List.singleton_append]

theorem encode_span (read : List Char) (bytes : Bytes) :
    encode (span read bytes).1 ++ (span read bytes).2 = encode read.reverse ++ bytes := by
  have hform : ∀ (read : List Char) {front : Bytes} {c : Char} (rest : Bytes), Form front c →
      encode (c :: read).reverse ++ rest = encode read.reverse ++ (front ++ rest) := by
    intro read front c rest h
    have hlast : encode [c] = front := by
      rw [encode_cons, utf8EncodeChar_of_form h]
      exact List.append_nil front
    rw [List.reverse_cons, encode_append, hlast, List.append_assoc]
  fun_induction span read bytes with
  | case1 read => rfl
  | case2 read a rest h ih => exact ih.trans (hform read rest (.single h))
  | case4 read a _ b rest h ih => exact ih.trans (hform read rest (.pair h))
  | case6 read a _ b _ c rest h ih => exact ih.trans (hform read rest (.triple h))
  | case8 read a _ b _ c _ d rest h ih => exact ih.trans (hform read rest (.quad h))
  | _ => rfl

/-- **Bytes are read as the text that is written so.** -/
theorem decode_eq_ok_iff {bytes : Bytes} {s : String} :
    decode bytes = .ok s ↔ bytes = ofString s := by
  constructor
  · intro h
    have hwhole := encode_span [] bytes
    rw [decode] at h
    split at h <;> cases h
    rename_i cs hspan
    rw [hspan] at hwhole
    rw [ofString, String.toList_ofList]
    exact (hwhole.symm.trans (List.append_nil _)).trans (List.nil_append _)
  · rintro rfl
    rw [decode, ofString, span_encode]
    exact congrArg Except.ok String.ofList_toList

def Whole (bytes : Bytes) : Prop := ∃ cs, bytes = encode cs

/-- Bytes that a text begins with. Its last character may be there in part only. -/
def Front (bytes : Bytes) : Prop := ∃ cs, bytes <+: encode cs

theorem whole_of_decode {bytes : Bytes} {s : String} (h : decode bytes = .ok s) : Whole bytes :=
  ⟨s.toList, decode_eq_ok_iff.mp h⟩

theorem Whole.decode {bytes : Bytes} (h : Whole bytes) : ∃ s, Utf8.decode bytes = .ok s := by
  obtain ⟨cs, rfl⟩ := h
  exact ⟨String.ofList cs, decode_eq_ok_iff.mpr (by rw [ofString, String.toList_ofList])⟩

theorem whole_char (c : Char) : Whole (String.utf8EncodeChar c) :=
  ⟨[c], by rw [encode_cons]; exact (List.append_nil _).symm⟩

theorem Whole.append {bytes more : Bytes} (h : Whole bytes) (h' : Whole more) :
    Whole (bytes ++ more) := by
  obtain ⟨cs, rfl⟩ := h
  obtain ⟨ds, rfl⟩ := h'
  exact ⟨cs ++ ds, (encode_append cs ds).symm⟩

theorem Whole.front {bytes : Bytes} (h : Whole bytes) : Front bytes := by
  obtain ⟨cs, rfl⟩ := h
  exact ⟨cs, List.prefix_refl _⟩

theorem Front.of_append {bytes more : Bytes} (h : Front (bytes ++ more)) : Front bytes := by
  obtain ⟨cs, hcs⟩ := h
  exact ⟨cs, (List.prefix_append _ _).trans hcs⟩

/-- Bytes in front of a text are whole, or go on with bytes that continue the last character. -/
theorem whole_or_tails {bytes more : Bytes} {cs : List Char} (h : bytes ++ more = encode cs) :
    Whole bytes ∨ ∃ tails rest, more = tails ++ rest ∧ tails ≠ [] ∧ (∀ b ∈ tails, isTail b)
      ∧ Whole (bytes ++ tails) := by
  induction cs generalizing bytes with
  | nil => exact .inl ⟨[], (List.append_eq_nil_iff.mp h).1⟩
  | cons c cs ih =>
    obtain ⟨first, tails, hc, -, htails⟩ := exists_tails c
    rw [encode_cons, List.append_eq_append_iff] at h
    rcases h with ⟨within, hbytes, hmore⟩ | ⟨behind, hbytes, hmore⟩
    · -- the bytes end within the character
      cases bytes with
      | nil => exact .inl ⟨[], rfl⟩
      | cons b bytes =>
        cases within with
        | nil => exact .inl (by rw [← List.append_nil (b :: bytes), ← hbytes]; exact whole_char c)
        | cons b' within =>
          refine .inr ⟨b' :: within, encode cs, hmore, List.cons_ne_nil _ _, fun x hx => ?_, ?_⟩
          · rw [hc, List.cons_append, List.cons.injEq] at hbytes
            exact htails x (hbytes.2 ▸ List.mem_append_right _ hx)
          · rw [← hbytes]
            exact whole_char c
    · rw [hbytes]
      rcases ih hmore.symm with hwhole | ⟨tails, rest, hrest, hne, hall, hwhole⟩
      · exact .inl ((whole_char c).append hwhole)
      · refine .inr ⟨tails, rest, hrest, hne, hall, ?_⟩
        rw [List.append_assoc]
        exact (whole_char c).append hwhole

theorem Front.completion {bytes : Bytes} (h : Front bytes) :
    ∃ tails, (∀ b ∈ tails, isTail b) ∧ Whole (bytes ++ tails) := by
  obtain ⟨cs, more, hmore⟩ := h
  rcases whole_or_tails hmore with hwhole | ⟨tails, -, -, -, htails, hwhole⟩
  · exact ⟨[], by simp, by rwa [List.append_nil]⟩
  · exact ⟨tails, htails, hwhole⟩

/-- Before a byte that starts a character, all characters are whole. -/
theorem whole_of_front {bytes : Bytes} {b : UInt8} (h : Front (bytes ++ [b]))
    (hb : isTail b = false) : Whole bytes := by
  obtain ⟨cs, more, hmore⟩ := h
  rw [List.append_assoc] at hmore
  rcases whole_or_tails hmore with hwhole | ⟨tails, rest, hrest, hne, htails, -⟩
  · exact hwhole
  · obtain ⟨b', tails, rfl⟩ := List.exists_cons_of_ne_nil hne
    cases hrest
    exact absurd (htails b List.mem_cons_self) (by simp [hb])

end Utf8
end PlayableCards
