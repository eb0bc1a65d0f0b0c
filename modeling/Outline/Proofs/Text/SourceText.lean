import Mathlib.Data.List.Infix
import Outline.Proofs.Text.Utf8
import Outline.Text.Newline

set_option autoImplicit false

/-!
# The text of a damaged file

A file holds texts with broken bytes between them. Every text is read as it is, and every run of
broken bytes as one replacement; then a byte order mark in front is dropped and all line endings are
made line feeds.
-/
namespace Outline.Text

open Utf8 (encode decode replacement StartsFresh)

/-! ## Forms -/

/-- Bytes that are no text: one that stands in no character, or a character without its end. -/
inductive IsBroken : List UInt8 → Prop
  | stray {byte : UInt8} (h : byte = 0xC0 ∨ byte = 0xC1 ∨ 0xF5 ≤ byte) : IsBroken [byte]
  | cut {c : Char} {bytes : List UInt8} (hfront : bytes <+: String.utf8EncodeChar c)
      (hne : bytes ≠ []) (hproper : bytes ≠ String.utf8EncodeChar c) : IsBroken bytes

/-- The contents of a file: a text, and then broken bytes and a text any number of times. -/
structure Damaged where
  first : String
  more : List (List UInt8 × String)
  broken : ∀ part ∈ more, IsBroken part.1

namespace Damaged

def bytes (d : Damaged) : List UInt8 :=
  encode d.first.toList ++ d.more.flatMap fun part => part.1 ++ encode part.2.toList

/-- The texts with a replacement for all broken bytes between two of them. -/
def mended (d : Damaged) : List Char :=
  d.first.toList ++ d.more.flatMap fun part => '\uFFFD' :: part.2.toList

end Damaged

/-- A text without a byte order mark in front. -/
def withoutMark : List Char → List Char
  | '\uFEFF' :: rest => rest
  | text => text

/-- A text, and the text with a line feed for every line ending. -/
inductive UnifiesTo : List Char → List Char → Prop
  | nil : UnifiesTo [] []
  | pair {rest unified : List Char} (h : UnifiesTo rest unified) :
      UnifiesTo ('\r' :: '\n' :: rest) ('\n' :: unified)
  | lone {rest unified : List Char} (hlone : rest.head? ≠ some '\n') (h : UnifiesTo rest unified) :
      UnifiesTo ('\r' :: rest) ('\n' :: unified)
  | other {c : Char} {rest unified : List Char} (hc : c ≠ '\r') (h : UnifiesTo rest unified) :
      UnifiesTo (c :: rest) (c :: unified)

/-! ## Line endings -/

theorem UnifiesTo.unifyNewlinesFrom_eq {text unified : List Char} (h : UnifiesTo text unified)
    (done : List Char) : unifyNewlinesFrom done text = done.reverse ++ unified := by
  induction h generalizing done with
  | nil => simp [unifyNewlinesFrom]
  | pair _ ih => simp [unifyNewlinesFrom, ih]
  | @lone rest unified hlone _ ih =>
    have hfeed : ∀ rest', rest ≠ '\n' :: rest' := by
      rintro rest' rfl
      exact hlone rfl
    rw [unifyNewlinesFrom.eq_3 _ _ hfeed, ih]
    simp
  | @other c rest unified hc _ ih =>
    rw [unifyNewlinesFrom.eq_4 _ _ _ (fun _ h _ => hc h) hc, ih]
    simp

theorem exists_unifiesTo (text : List Char) : ∃ unified, UnifiesTo text unified := by
  -- the cases of the scan, whatever it has done before
  have hscan (done : List Char) : ∃ unified, UnifiesTo text unified := by
    fun_induction unifyNewlinesFrom done text with
    | case1 => exact ⟨[], .nil⟩
    | case2 done rest ih =>
      obtain ⟨unified, h⟩ := ih
      exact ⟨_, .pair h⟩
    | case3 done rest hne ih =>
      obtain ⟨unified, h⟩ := ih
      refine ⟨_, .lone (fun hhead => ?_) h⟩
      obtain ⟨rest', hrest⟩ := List.head?_eq_some_iff.1 hhead
      exact hne rest' hrest
    | case4 done c rest _ hc ih =>
      obtain ⟨unified, h⟩ := ih
      exact ⟨_, .other hc h⟩
  exact hscan []

theorem unifiesTo_iff (text unified : List Char) :
    UnifiesTo text unified ↔ unified = unifyNewlines text := by
  have hunique : ∀ {other}, UnifiesTo text other → other = unifyNewlines text := fun h =>
    (h.unifyNewlinesFrom_eq []).symm
  refine ⟨hunique, ?_⟩
  rintro rfl
  obtain ⟨other, h⟩ := exists_unifiesTo text
  exact hunique h ▸ h

theorem UnifiesTo.not_mem {text unified : List Char} (h : UnifiesTo text unified) :
    '\r' ∉ unified := by
  induction h with
  | nil => simp
  | pair _ ih => simp [ih]
  | lone _ _ ih => simp [ih]
  | other hc _ ih => simp [ih, hc.symm]

/-! ## Broken bytes -/

theorem toNat_of_stray {byte : UInt8} (h : byte = 0xC0 ∨ byte = 0xC1 ∨ 0xF5 ≤ byte) :
    0xC0 ≤ byte.toNat ∧ (byte.toNat < 0xC2 ∨ 0xF5 ≤ byte.toNat) := by
  rcases h with rfl | rfl | h
  · decide
  · decide
  · have hlow : 0xF5 ≤ byte.toNat := UInt8.le_iff_toNat_le.1 h
    omega

theorem lead_of_stray {byte : UInt8} (h : byte = 0xC0 ∨ byte = 0xC1 ∨ 0xF5 ≤ byte) :
    Utf8.lead byte.toNat = .invalid := by
  obtain ⟨hlow, hhigh⟩ := toNat_of_stray h
  rcases hhigh with hhigh | hhigh
  · rw [Utf8.lead, if_neg (by omega), if_pos hhigh]
  · rw [Utf8.lead, if_neg (by omega), if_neg (by omega), if_neg (by omega), if_neg (by omega),
      if_neg (by omega)]

theorem IsBroken.decode_eq {bytes : List UInt8} (h : IsBroken bytes) :
    decode bytes = [replacement] := by
  cases h with
  | stray h => exact Utf8.decode_cons_of_invalid (lead_of_stray h) []
  | cut hfront hne hproper => exact Utf8.decode_of_front hfront hne hproper

theorem IsBroken.startsFresh {bytes : List UInt8} (h : IsBroken bytes) : StartsFresh bytes := by
  cases h with
  | @stray byte h =>
    intro byte' hbyte hinner
    obtain rfl : byte = byte' := by simpa using hbyte
    have hlow := (toNat_of_stray h).1
    have hhigh := hinner.2
    omega
  | @cut c _ hfront => exact (Utf8.startsFresh_char c).of_front hfront

theorem startsFresh_parts {parts : List (List UInt8 × String)}
    (h : ∀ part ∈ parts, IsBroken part.1) :
    StartsFresh (parts.flatMap fun part => part.1 ++ encode part.2.toList) := by
  induction parts with
  | nil => exact Utf8.startsFresh_nil
  | cons part parts ih =>
    obtain ⟨hpart, hparts⟩ := List.forall_mem_cons.1 h
    rw [List.flatMap_cons, List.append_assoc]
    exact hpart.startsFresh.append ((Utf8.startsFresh_encode _).append (ih hparts))

theorem decode_parts {parts : List (List UInt8 × String)} (h : ∀ part ∈ parts, IsBroken part.1) :
    decode (parts.flatMap fun part => part.1 ++ encode part.2.toList) =
      parts.flatMap fun part => '\uFFFD' :: part.2.toList := by
  induction parts with
  | nil => rfl
  | cons part parts ih =>
    obtain ⟨hpart, hparts⟩ := List.forall_mem_cons.1 h
    have hfresh := (Utf8.startsFresh_encode part.2.toList).append (startsFresh_parts hparts)
    rw [List.flatMap_cons, List.append_assoc, Utf8.decode_append hfresh, hpart.decode_eq,
      Utf8.decode_encode_append, ih hparts]
    rfl

theorem decode_damaged (d : Damaged) : decode d.bytes = d.mended := by
  rw [Damaged.bytes, Utf8.decode_encode_append, decode_parts d.broken]
  rfl

/-! ## The mark -/

theorem utf8EncodeChar_mark : String.utf8EncodeChar '\uFEFF' = Utf8.byteOrderMark := by decide

theorem mark_prefix_of_mended {d : Damaged} {rest : List Char} (h : d.mended = '\uFEFF' :: rest) :
    Utf8.byteOrderMark <+: d.bytes := by
  rw [Damaged.mended] at h
  rw [Damaged.bytes]
  cases hfirst : d.first.toList with
  | nil =>
    -- a replacement would come first
    rw [hfirst] at h
    cases hmore : d.more with
    | nil => simp [hmore] at h
    | cons part parts => simp [hmore] at h
  | cons c text =>
    rw [hfirst, List.cons_append] at h
    rw [(List.cons.inj h).1, Utf8.encode_cons, utf8EncodeChar_mark, List.append_assoc]
    exact List.prefix_append _ _

theorem withoutMark_of_ne {text : List Char} (h : ∀ rest, text ≠ '\uFEFF' :: rest) :
    withoutMark text = text :=
  withoutMark.eq_2 text h

theorem eq_nil_of_short {bytes : List UInt8} (hlength : bytes.length < 3)
    (hfront : bytes <+: Utf8.byteOrderMark) (h : ¬ (bytes = [0xEF] ∨ bytes = [0xEF, 0xBB])) :
    bytes = [] := by
  have hinits : bytes ∈ [[], [0xEF], [0xEF, 0xBB], Utf8.byteOrderMark] :=
    (List.mem_inits bytes Utf8.byteOrderMark).2 hfront
  simp only [List.mem_cons, List.not_mem_nil, or_false] at hinits
  rcases hinits with hnil | hone | htwo | hthree
  · exact hnil
  · exact absurd (.inl hone) h
  · exact absurd (.inr htwo) h
  · rw [hthree] at hlength
    exact absurd hlength (by decide)

theorem decode_dropByteOrderMark {d : Damaged}
    (h : ¬ (d.bytes = [0xEF] ∨ d.bytes = [0xEF, 0xBB])) :
    decode (dropByteOrderMark d.bytes) = withoutMark d.mended := by
  rw [← decode_damaged]
  unfold dropByteOrderMark
  split_ifs with hshort hmark
  · rw [eq_nil_of_short hshort.1 (List.isPrefixOf_iff_prefix.1 hshort.2) h]
    rfl
  · obtain ⟨rest, hrest⟩ := List.isPrefixOf_iff_prefix.1 hmark
    rw [← hrest, ← utf8EncodeChar_mark, Utf8.decode_char_append]
    rfl
  · refine (withoutMark_of_ne fun rest hrest => hmark ?_).symm
    rw [decode_damaged] at hrest
    exact List.isPrefixOf_iff_prefix.2 (mark_prefix_of_mended hrest)

theorem encode_ne_short (text : List Char) :
    ¬ (encode text = [0xEF] ∨ encode text = [0xEF, 0xBB]) := by
  have hdecode := Utf8.decode_encode text
  -- either would be read as a replacement, which has other bytes
  rintro (h | h)
  all_goals
    rw [h] at hdecode
    rw [← hdecode] at h
    exact absurd h (by decide)

/-- Texts are read as they are and broken bytes as one replacement each, without a mark in front and
with all line endings made line feeds; only a mark that breaks off is read as nothing. -/
theorem damaged_text_read (d : Damaged) :
    (d.bytes = [0xEF] ∨ d.bytes = [0xEF, 0xBB] → sourceText d.bytes = "") ∧
    (¬ (d.bytes = [0xEF] ∨ d.bytes = [0xEF, 0xBB]) → ∀ unified,
      UnifiesTo (withoutMark d.mended) unified ↔ unified = (sourceText d.bytes).toList) ∧
    (d.more = [] → d.bytes = encode d.first.toList ∧ ∀ unified,
      UnifiesTo (withoutMark d.first.toList) unified ↔ unified = (sourceText d.bytes).toList) ∧
    '\r' ∉ (sourceText d.bytes).toList := by
  have hread : ¬ (d.bytes = [0xEF] ∨ d.bytes = [0xEF, 0xBB]) → ∀ unified,
      UnifiesTo (withoutMark d.mended) unified ↔ unified = (sourceText d.bytes).toList := by
    intro h unified
    rw [sourceText, String.toList_ofList, decode_dropByteOrderMark h, unifiesTo_iff]
  refine ⟨?_, hread, ?_, ?_⟩
  · rintro (h | h) <;> rw [h] <;> rfl
  · intro hmore
    have hbytes : d.bytes = encode d.first.toList := by
      rw [Damaged.bytes, hmore, List.flatMap_nil, List.append_nil]
    have hmended : d.mended = d.first.toList := by
      rw [Damaged.mended, hmore, List.flatMap_nil, List.append_nil]
    refine ⟨hbytes, ?_⟩
    rw [← hmended]
    exact hread (hbytes ▸ encode_ne_short _)
  · rw [sourceText, String.toList_ofList]
    exact ((unifiesTo_iff _ _).2 rfl).not_mem

/-- A mark, all line endings, a stray byte, and characters that break off after two and three
bytes. -/
def patchwork : Damaged where
  first := "\uFEFFa\r\nb"
  more := [([0xE2, 0x82], "\r"), ([0xC0], ""), ([0xF0, 0x9F, 0x98], "é\n")]
  broken := by
    simp only [List.forall_mem_cons, List.not_mem_nil, false_implies, implies_true, and_true]
    exact ⟨.cut (c := '€') (by decide) (by decide) (by decide), .stray (.inl rfl),
      .cut (c := '😀') (by decide) (by decide) (by decide)⟩

theorem damaged_text_read_patchwork :
    ¬ (patchwork.bytes = [0xEF] ∨ patchwork.bytes = [0xEF, 0xBB]) ∧ ∀ unified,
      UnifiesTo (withoutMark patchwork.mended) unified ↔
        unified = (sourceText patchwork.bytes).toList := by
  have hlong : ¬ (patchwork.bytes = [0xEF] ∨ patchwork.bytes = [0xEF, 0xBB]) := by decide +kernel
  exact ⟨hlong, (damaged_text_read patchwork).2.1 hlong⟩

example : sourceText patchwork.bytes = "a\nb\uFFFD\n\uFFFD\uFFFDé\n" := by decide +kernel

end Outline.Text
