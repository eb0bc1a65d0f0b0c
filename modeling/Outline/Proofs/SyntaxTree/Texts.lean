import Outline.Proofs.Text.Utf8
import Outline.SyntaxTree.Declarations

set_option autoImplicit false

/-!
# Texts between byte offsets

The offsets of a node may cut characters. What is left of a character that began earlier shows as
one replacement for each of its bytes, what is left of one that ends later as one replacement, and
the characters between them are kept.
-/
namespace Outline.Text

open Utf8 (encode decode replacement)

/-! ## Characters and their offsets -/

/-- A character of a text and the offset of its first byte. -/
structure Located where
  char : Char
  start : ℕ

namespace Located

/-- The offset behind the last byte. -/
def stop (l : Located) : ℕ := l.start + l.char.utf8Size

/-- The offsets of all bytes. -/
def offsets (l : Located) : List ℕ := List.range' l.start l.char.utf8Size

end Located

/-- The characters of a text whose first byte has the given offset. -/
def locate : ℕ → List Char → List Located
  | _, [] => []
  | place, c :: text => ⟨c, place⟩ :: locate (place + c.utf8Size) text

variable (start stop : ℕ) (chars : List Located)

/-- The offsets in range of bytes whose characters began earlier. -/
def strayOffsets : List ℕ :=
  (chars.filter (·.start < start)).flatMap fun l =>
    l.offsets.filter fun offset => start ≤ offset && offset < stop

/-- The characters with all bytes in range. -/
def wholeChars : List Char :=
  (chars.filter fun l => start ≤ l.start && l.stop ≤ stop).map Located.char

/-- Whether a character begins in range and ends later. -/
def breaksOff : Bool := chars.any fun l => start ≤ l.start && l.start < stop && stop < l.stop

def shown : List Char :=
  (strayOffsets start stop chars).map (fun _ => '\uFFFD') ++
    (wholeChars start stop chars ++ if breaksOff start stop chars then ['\uFFFD'] else [])

variable {start stop} {chars}

theorem Located.start_lt_stop (l : Located) : l.start < l.stop :=
  Nat.lt_add_of_pos_right l.char.utf8Size_pos

theorem le_start_of_mem_locate {place : ℕ} {text : List Char} {l : Located}
    (h : l ∈ locate place text) : place ≤ l.start := by
  induction text generalizing place with
  | nil => cases h
  | cons c text ih =>
    rcases List.mem_cons.1 h with rfl | h
    · exact Nat.le_refl place
    · exact Nat.le_trans (Nat.le_add_right _ _) (ih h)

theorem strayOffsets_of_le {place : ℕ} (h : start ≤ place) (text : List Char) :
    strayOffsets start stop (locate place text) = [] := by
  have hnone : (locate place text).filter (·.start < start) = [] := by
    rw [List.filter_eq_nil_iff]
    intro l hl
    have hplace := le_start_of_mem_locate hl
    simp only [decide_eq_true_eq]
    omega
  rw [strayOffsets, hnone, List.flatMap_nil]

theorem wholeChars_of_stop_le {place : ℕ} (h : stop ≤ place) (text : List Char) :
    wholeChars start stop (locate place text) = [] := by
  have hnone : (locate place text).filter (fun l => start ≤ l.start && l.stop ≤ stop) = [] := by
    rw [List.filter_eq_nil_iff]
    intro l hl
    have hplace := le_start_of_mem_locate hl
    have hstop := l.start_lt_stop
    simp only [Bool.and_eq_true, decide_eq_true_eq]
    omega
  rw [wholeChars, hnone, List.map_nil]

theorem shown_of_stop_le {place : ℕ} (hstart : start ≤ place) (hstop : stop ≤ place)
    (text : List Char) : shown start stop (locate place text) = [] := by
  have hbreaks : breaksOff start stop (locate place text) = false := by
    rw [breaksOff, List.any_eq_false]
    intro l hl
    have hplace := le_start_of_mem_locate hl
    simp only [Bool.and_eq_true, decide_eq_true_eq]
    omega
  rw [shown, strayOffsets_of_le hstart, wholeChars_of_stop_le hstop, hbreaks]
  rfl

theorem shown_nil : shown start stop [] = [] := rfl

theorem length_filter_range' (first count : ℕ) :
    ((List.range' first count).filter fun i => start ≤ i && i < stop).length =
      min stop (first + count) - max start first := by
  induction count generalizing first with
  | zero =>
    rw [List.range'_zero, List.filter_nil, List.length_nil]
    omega
  | succ count ih =>
    rw [List.range'_succ, List.filter_cons]
    split_ifs with h
    · rw [Bool.and_eq_true, decide_eq_true_eq, decide_eq_true_eq] at h
      rw [List.length_cons, ih]
      omega
    · rw [Bool.and_eq_true, decide_eq_true_eq, decide_eq_true_eq] at h
      rw [ih]
      omega

theorem shown_cons_begun {l : Located} (h : l.start < start) :
    shown start stop (l :: chars) =
      (l.offsets.filter fun offset => start ≤ offset && offset < stop).map (fun _ => '\uFFFD') ++
        shown start stop chars := by
  have hstray : strayOffsets start stop (l :: chars) =
      (l.offsets.filter fun offset => start ≤ offset && offset < stop) ++
        strayOffsets start stop chars := by
    rw [strayOffsets, List.filter_cons_of_pos (by simpa using h), List.flatMap_cons]
    rfl
  have hwhole : wholeChars start stop (l :: chars) = wholeChars start stop chars := by
    simp [wholeChars, Nat.not_le.2 h]
  have hbreaks : breaksOff start stop (l :: chars) = breaksOff start stop chars := by
    simp [breaksOff, Nat.not_le.2 h]
  rw [shown, hstray, hwhole, hbreaks, List.map_append, List.append_assoc]
  rfl

theorem shown_cons_whole {l : Located} (hstart : start ≤ l.start) (hstop : l.stop ≤ stop)
    (hstray : strayOffsets start stop chars = []) :
    shown start stop (l :: chars) = l.char :: shown start stop chars := by
  have hstray' : strayOffsets start stop (l :: chars) = [] := by
    rw [← hstray]
    simp [strayOffsets, Nat.not_lt.2 hstart]
  rw [shown, shown, hstray, hstray']
  simp [wholeChars, breaksOff, hstart, hstop, Nat.not_lt.2 hstop]

theorem shown_cons_broken {c : Char} {place : ℕ} (hstart : start ≤ place) (hbegins : place < stop)
    (hends : stop < place + c.utf8Size) (text : List Char) :
    shown start stop (locate place (c :: text)) = ['\uFFFD'] := by
  have hwhole : wholeChars start stop (locate place (c :: text)) = [] := by
    rw [← @wholeChars_of_stop_le start stop (place + c.utf8Size) (by omega) text]
    simp [wholeChars, locate, Located.stop, Nat.not_le.2 hends]
  have hbreaks : breaksOff start stop (locate place (c :: text)) = true := by
    simp [breaksOff, locate, Located.stop, hstart, hbegins, hends]
  rw [shown, strayOffsets_of_le hstart, hwhole, hbreaks]
  rfl

/-! ## Slices -/

theorem decode_take_encode {place : ℕ} (h : start ≤ place) (text : List Char) :
    decode ((encode text).take (stop - place)) = shown start stop (locate place text) := by
  induction text generalizing place with
  | nil => simp [locate, shown_nil, Utf8.decode_nil]
  | cons c text ih =>
    have hlength := String.length_utf8EncodeChar c
    have hpos := c.utf8Size_pos
    rw [Utf8.encode_cons]
    rcases Nat.lt_or_ge stop (place + c.utf8Size) with hstop | hstop
    · rw [List.take_append_of_le_length (by omega)]
      rcases Nat.lt_or_ge place stop with hplace | hplace
      · rw [shown_cons_broken h hplace hstop]
        have htake : ((String.utf8EncodeChar c).take (stop - place)).length = stop - place := by
          rw [List.length_take]
          omega
        refine Utf8.decode_of_front (List.take_prefix _ _) (fun hnil => ?_) fun hwhole => ?_
        · rw [hnil, List.length_nil] at htake
          omega
        · rw [hwhole] at htake
          omega
      · rw [shown_of_stop_le h hplace, Nat.sub_eq_zero_of_le hplace]
        rfl
    · have hstray := @strayOffsets_of_le start stop (place + c.utf8Size) (by omega) text
      rw [List.take_append, List.take_of_length_le (by omega), Utf8.decode_char_append, hlength,
        Nat.sub_sub, ih (by omega)]
      exact (@shown_cons_whole _ _ _ ⟨c, place⟩ h hstop hstray).symm

theorem decode_window (place : ℕ) (text : List Char) :
    decode (((encode text).drop (start - place)).take (stop - max start place)) =
      shown start stop (locate place text) := by
  induction text generalizing place with
  | nil => simp [locate, shown_nil, Utf8.decode_nil]
  | cons c text ih =>
    rcases Nat.lt_or_ge place start with hplace | hplace
    · have hlength := String.length_utf8EncodeChar c
      have hinner : ∀ byte ∈ ((String.utf8EncodeChar c).drop (start - place)).take (stop - start),
          Utf8.IsInner byte := by
        intro byte hbyte
        obtain ⟨n, hn⟩ := Nat.exists_eq_add_of_lt hplace
        have hdrop := List.mem_of_mem_take hbyte
        rw [hn, Nat.add_assoc, Nat.add_sub_cancel_left, Nat.add_comm, ← List.drop_drop,
          List.drop_one] at hdrop
        exact Utf8.isInner_of_mem_tail (List.mem_of_mem_drop hdrop)
      -- the bytes left of this character, and the window on the others
      have hcount : (((String.utf8EncodeChar c).drop (start - place)).take (stop - start)).length =
          ((Located.offsets ⟨c, place⟩).filter fun offset =>
            start ≤ offset && offset < stop).length := by
        rw [Located.offsets, length_filter_range', List.length_take, List.length_drop, hlength]
        dsimp only
        omega
      have hrest : stop - start - ((String.utf8EncodeChar c).drop (start - place)).length =
          stop - max start (place + c.utf8Size) := by
        rw [List.length_drop, hlength]
        omega
      rw [Utf8.encode_cons, List.drop_append, List.take_append,
        Nat.max_eq_left (Nat.le_of_lt hplace), Utf8.decode_inner_append hinner, hcount, hrest,
        hlength, Nat.sub_sub, ih, locate, shown_cons_begun hplace, List.map_const']
      rfl
    · rw [Nat.sub_eq_zero_of_le hplace, Nat.max_eq_right hplace, List.drop_zero]
      exact decode_take_encode hplace _

theorem slice_eq_shown (text : List Char) :
    Utf8.slice (encode text) start stop = String.ofList (shown start stop (locate 0 text)) := by
  rw [← decode_window, Utf8.slice, Nat.sub_zero, Nat.max_zero]

theorem slice_of_empty_range {bytes : List UInt8} (h : stop ≤ start ∨ bytes.length ≤ start) :
    Utf8.slice bytes start stop = "" := by
  have hnil : (bytes.drop start).take (stop - start) = [] := by
    rcases h with h | h
    · rw [Nat.sub_eq_zero_of_le h, List.take_zero]
    · rw [List.drop_of_length_le h, List.take_nil]
  rw [Utf8.slice, hnil]
  rfl

theorem slice_of_boundaries (before middle after : List Char) :
    Utf8.slice (encode (before ++ middle ++ after)) (encode before).length
      (encode (before ++ middle)).length = String.ofList middle := by
  rw [Utf8.slice, Utf8.encode_append (before ++ middle), Utf8.encode_append before,
    List.append_assoc, List.drop_left, List.length_append, Nat.add_sub_cancel_left, List.take_left,
    Utf8.decode_encode]

end Outline.Text

namespace Outline.SyntaxTree

open Text

/-- The text of a node has a replacement for every byte of a character that began before it, then
its whole characters, and a replacement for a character that it breaks off. -/
theorem text_between_offsets (source : String) (n : Node) :
    (nodeText (Utf8.encode source.toList) (some n)).toList =
      (strayOffsets n.start n.stop (locate 0 source.toList)).map (fun _ => '\uFFFD') ++
        (wholeChars n.start n.stop (locate 0 source.toList) ++
          if breaksOff n.start n.stop (locate 0 source.toList) then ['\uFFFD'] else []) ∧
    (n.stop ≤ n.start ∨ (Utf8.encode source.toList).length ≤ n.start →
      nodeText (Utf8.encode source.toList) (some n) = "") ∧
    ∀ before middle after : String, source = before ++ middle ++ after →
      n.start = (Utf8.encode before.toList).length →
      n.stop = (Utf8.encode (before ++ middle).toList).length →
        nodeText (Utf8.encode source.toList) (some n) = middle := by
  refine ⟨?_, slice_of_empty_range, ?_⟩
  · rw [nodeText, slice_eq_shown, String.toList_ofList]
    rfl
  · rintro before middle after rfl hstart hstop
    have hslice := slice_of_boundaries before.toList middle.toList after.toList
    rw [String.ofList_toList] at hslice
    rw [nodeText, hstart, hstop, String.toList_append, String.toList_append, hslice]

/-- The offsets cut the first character and the last of three. -/
example : nodeText (Utf8.encode "é€z😀".toList) (some (.mk "" none 1 9 false [])) =
    "\uFFFD€z\uFFFD" := by decide +kernel

/-- Both offsets cut the same character. -/
example : nodeText (Utf8.encode "a😀".toList) (some (.mk "" none 2 4 false [])) =
    "\uFFFD\uFFFD" := by decide +kernel

end Outline.SyntaxTree
