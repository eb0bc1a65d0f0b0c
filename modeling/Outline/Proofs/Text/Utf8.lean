import Mathlib.Algebra.Group.Nat.Defs
import Mathlib.Tactic.Common
import Outline.Text.Utf8

set_option autoImplicit false

/-!
# What the decoder reads

A character is read from its bytes, and a part of them at its front counts as one replacement. A
byte that belongs inside a character never completes anything in front of a byte that does not, so
that a byte sequence can be decoded in pieces.
-/
namespace Outline.Text.Utf8

/-- A byte that stands inside a character. -/
def IsInner (byte : UInt8) : Prop := 0x80 ≤ byte.toNat ∧ byte.toNat < 0xC0

/-- No inner byte comes first. -/
def StartsFresh (bytes : List UInt8) : Prop := ∀ byte ∈ bytes.head?, ¬ IsInner byte

theorem startsFresh_nil : StartsFresh [] := by
  simp [StartsFresh]

theorem StartsFresh.append {bytes rest : List UInt8} (h : StartsFresh bytes)
    (hrest : StartsFresh rest) : StartsFresh (bytes ++ rest) := by
  cases bytes with
  | nil => exact hrest
  | cons byte bytes => exact h

theorem StartsFresh.of_front {bytes whole : List UInt8} (h : StartsFresh whole)
    (hfront : bytes <+: whole) : StartsFresh bytes := by
  obtain ⟨rest, rfl⟩ := hfront
  cases bytes with
  | nil => exact startsFresh_nil
  | cons byte bytes => exact h

/-! ## Decoding in pieces -/

/-- The next byte of a character begun has to be an inner one. -/
def State.IsSound (state : State) : Prop :=
  ∀ p, state.pending = some p → 0x80 ≤ p.low ∧ p.high < 0xC0

theorem range_of_opens {byte : ℕ} {p : Pending} (h : lead byte = .opens p) :
    0x80 ≤ p.low ∧ p.high < 0xC0 := by
  unfold lead at h
  split_ifs at h <;> obtain rfl := Lead.opens.inj h <;> dsimp only <;> omega

theorem isSound_start (output : List Char) (byte : ℕ) : (State.start output byte).IsSound := by
  intro p hp
  unfold State.start at hp
  split at hp
  · cases hp
  · rename_i pending hlead
    cases hp
    exact range_of_opens hlead
  · cases hp

theorem isSound_step (state : State) (byte : UInt8) : (state.step byte).IsSound := by
  unfold State.step
  split
  · exact isSound_start _ _
  · dsimp only
    split_ifs
    · exact fun p hp => by cases hp
    · intro p hp
      obtain rfl := Option.some.inj hp
      exact ⟨Nat.le_refl _, by dsimp only; omega⟩
    · exact isSound_start _ _

theorem isSound_foldl (bytes : List UInt8) {state : State} (h : state.IsSound) :
    (bytes.foldl State.step state).IsSound := by
  induction bytes generalizing state with
  | nil => exact h
  | cons byte bytes ih => exact ih (isSound_step state byte)

/-- The decoder with more output in front. -/
def State.behind (state : State) (output : List Char) : State :=
  ⟨state.pending, state.output ++ output⟩

theorem start_append (output more : List Char) (byte : ℕ) :
    State.start (output ++ more) byte = (State.start output byte).behind more := by
  unfold State.start
  split <;> rfl

theorem step_behind (state : State) (output : List Char) (byte : UInt8) :
    (state.behind output).step byte = (state.step byte).behind output := by
  unfold State.step State.behind
  dsimp only
  split
  · exact start_append _ _ _
  · split_ifs
    · rfl
    · rfl
    · exact start_append (replacement :: state.output) _ _

theorem foldl_behind (bytes : List UInt8) (state : State) (output : List Char) :
    bytes.foldl State.step (state.behind output) =
      (bytes.foldl State.step state).behind output := by
  induction bytes generalizing state with
  | nil => rfl
  | cons byte bytes ih => rw [List.foldl_cons, List.foldl_cons, step_behind, ih]

theorem finish_behind (state : State) (output : List Char) :
    (state.behind output).finish = output.reverse ++ state.finish := by
  obtain ⟨_ | p, found⟩ := state <;> simp [State.behind, State.finish]

theorem finish_foldl (bytes : List UInt8) (output : List Char) :
    (bytes.foldl State.step ⟨none, output⟩).finish = output.reverse ++ decode bytes := by
  rw [decode, ← finish_behind, ← foldl_behind]
  rfl

/-- The decoder behind a character left open. -/
def State.settled (state : State) : State := ⟨none, state.finish.reverse⟩

theorem step_settled {state : State} (h : state.IsSound) {byte : UInt8} (hbyte : ¬ IsInner byte) :
    state.settled.step byte = state.step byte := by
  obtain ⟨_ | p, output⟩ := state
  · simp [State.settled, State.finish]
  · have hrange := h p rfl
    have hout : ¬ (p.low ≤ byte.toNat ∧ byte.toNat ≤ p.high) := by
      unfold IsInner at hbyte
      omega
    simp [State.settled, State.finish, State.step, hout]

theorem decode_nil : decode [] = [] := rfl

theorem decode_append {bytes rest : List UInt8} (h : StartsFresh rest) :
    decode (bytes ++ rest) = decode bytes ++ decode rest := by
  have hsound : (bytes.foldl State.step {}).IsSound := isSound_foldl bytes fun p hp => by cases hp
  rw [decode, decode, List.foldl_append]
  cases rest with
  | nil => simp [decode, State.finish]
  | cons byte rest =>
    rw [List.foldl_cons, ← step_settled hsound (h byte rfl), ← List.foldl_cons, State.settled,
      finish_foldl, List.reverse_reverse]

theorem decode_cons_of_invalid {byte : UInt8} (h : lead byte.toNat = .invalid)
    (rest : List UInt8) : decode (byte :: rest) = replacement :: decode rest := by
  have hstep : State.step {} byte = ⟨none, [replacement]⟩ := by
    change State.start [] byte.toNat = _
    rw [State.start, h]
  rw [decode, List.foldl_cons, hstep, finish_foldl]
  rfl

theorem lead_of_isInner {byte : UInt8} (h : IsInner byte) : lead byte.toNat = .invalid := by
  obtain ⟨hlow, hhigh⟩ := h
  rw [lead, if_neg (by omega), if_pos (by omega)]

/-! ## Characters -/

/-- The last bytes of a character, the given number of them. -/
def innerBytes (code : ℕ) : ℕ → List UInt8
  | 0 => []
  | k + 1 => UInt8.ofNat (code / 64 ^ k % 64 + 128) :: innerBytes code k

/-- A character begun that lacks the given number of bytes, and at least one. -/
structure Pending.Awaits (p : Pending) (code k : ℕ) : Prop where
  bits : p.bits = code / 64 ^ (k + 1)
  missing : p.missing = k + 1
  low : p.low ≤ code / 64 ^ k % 64 + 128
  high : code / 64 ^ k % 64 + 128 ≤ p.high

theorem toNat_innerByte (n : ℕ) : (UInt8.ofNat (n % 64 + 128)).toNat = n % 64 + 128 := by
  rw [UInt8.toNat_ofNat']
  omega

theorem isInner_of_mem_innerBytes {code k : ℕ} {byte : UInt8} (h : byte ∈ innerBytes code k) :
    IsInner byte := by
  induction k with
  | zero => cases h
  | succ k ih =>
    rcases List.mem_cons.1 h with rfl | h
    · rw [IsInner, toNat_innerByte]
      omega
    · exact ih h

theorem bits_step (code k : ℕ) :
    64 * (code / 64 ^ (k + 1)) + (code / 64 ^ k % 64 + 128 - 128) = code / 64 ^ k := by
  rw [Nat.pow_succ, ← Nat.div_div_eq_div_mul]
  omega

theorem step_last {p : Pending} {code : ℕ} (h : p.Awaits code 0) (output : List Char) :
    State.step ⟨some p, output⟩ (UInt8.ofNat (code / 64 ^ 0 % 64 + 128)) =
      ⟨none, Char.ofNat code :: output⟩ := by
  have hbits := bits_step code 0
  simp only [State.step, toNat_innerByte, h.bits, h.missing, hbits]
  rw [if_pos ⟨h.low, h.high⟩, if_pos trivial, Nat.pow_zero, Nat.div_one]

theorem step_inner {p : Pending} {code k : ℕ} (h : p.Awaits code (k + 1)) (output : List Char) :
    ∃ p' : Pending, p'.Awaits code k ∧
      State.step ⟨some p, output⟩ (UInt8.ofNat (code / 64 ^ (k + 1) % 64 + 128)) =
        ⟨some p', output⟩ := by
  refine ⟨⟨code / 64 ^ (k + 1), k + 1, 0x80, 0xBF⟩, ⟨rfl, rfl, ?_, ?_⟩, ?_⟩
  · dsimp only
    omega
  · dsimp only
    omega
  · have hbits := bits_step code (k + 1)
    simp only [State.step, toNat_innerByte, h.bits, h.missing, hbits]
    rw [if_pos ⟨h.low, h.high⟩, if_neg (by omega)]
    rfl

theorem foldl_innerBytes {p : Pending} {code k : ℕ} (h : p.Awaits code k) (output : List Char) :
    (innerBytes code (k + 1)).foldl State.step ⟨some p, output⟩ =
      ⟨none, Char.ofNat code :: output⟩ := by
  induction k generalizing p with
  | zero => exact step_last h output
  | succ k ih =>
    obtain ⟨p', hp', hstep⟩ := step_inner h output
    rw [innerBytes, List.foldl_cons, hstep, ih hp']

theorem foldl_take_innerBytes {p : Pending} {code k : ℕ} (h : p.Awaits code k)
    (output : List Char) {n : ℕ} (hn : n ≤ k) : ∃ p' : Pending,
      ((innerBytes code (k + 1)).take n).foldl State.step ⟨some p, output⟩ =
        ⟨some p', output⟩ := by
  induction k generalizing p n with
  | zero => exact ⟨p, by rw [Nat.le_zero.1 hn]; rfl⟩
  | succ k ih =>
    cases n with
    | zero => exact ⟨p, rfl⟩
    | succ n =>
      obtain ⟨p', hp', hstep⟩ := step_inner h output
      rw [innerBytes, List.take_succ_cons, List.foldl_cons, hstep]
      exact ih hp' (by omega)

/-! The first byte has the bits that the others lack, and where it alone does not rule out an
overlong form, a surrogate or a code beyond the last, it narrows the range of the second. -/

theorem lead_two {code : ℕ} (hlow : 0x80 ≤ code) (hhigh : code < 0x800) :
    ∃ p : Pending, lead (UInt8.ofNat (code / 64 % 32 + 192)).toNat = .opens p ∧
      p.Awaits code 0 := by
  rw [UInt8.toNat_ofNat', Nat.mod_eq_of_lt (by omega), lead, if_neg (by omega), if_neg (by omega),
    if_pos (by omega)]
  refine ⟨_, rfl, ⟨?_, rfl, ?_, ?_⟩⟩ <;> dsimp only <;> omega

theorem lead_three {code : ℕ} (hlow : 0x800 ≤ code) (hhigh : code < 0x10000)
    (hvalid : code < 0xD800 ∨ 0xDFFF < code) :
    ∃ p : Pending, lead (UInt8.ofNat (code / 4096 % 16 + 224)).toNat = .opens p ∧
      p.Awaits code 1 := by
  rw [UInt8.toNat_ofNat', Nat.mod_eq_of_lt (by omega), lead, if_neg (by omega), if_neg (by omega),
    if_neg (by omega), if_pos (by omega)]
  refine ⟨_, rfl, ⟨?_, rfl, ?_, ?_⟩⟩ <;> dsimp only
  · omega
  · split_ifs <;> omega
  · split_ifs <;> omega

theorem lead_four {code : ℕ} (hlow : 0x10000 ≤ code) (hhigh : code < 0x110000) :
    ∃ p : Pending, lead (UInt8.ofNat (code / 262144 % 8 + 240)).toNat = .opens p ∧
      p.Awaits code 2 := by
  rw [UInt8.toNat_ofNat', Nat.mod_eq_of_lt (by omega), lead, if_neg (by omega), if_neg (by omega),
    if_neg (by omega), if_neg (by omega), if_pos (by omega)]
  refine ⟨_, rfl, ⟨?_, rfl, ?_, ?_⟩⟩ <;> dsimp only
  · omega
  · split_ifs <;> omega
  · split_ifs <;> omega

theorem utf8EncodeChar_cases (c : Char) :
    (String.utf8EncodeChar c = [UInt8.ofNat c.toNat] ∧ c.toNat < 0x80) ∨
      ∃ (first : UInt8) (k : ℕ) (p : Pending),
        String.utf8EncodeChar c = first :: innerBytes c.toNat (k + 1) ∧
          lead first.toNat = .opens p ∧ p.Awaits c.toNat k := by
  have hvalid : c.toNat < 0xD800 ∨ 0xDFFF < c.toNat ∧ c.toNat < 0x110000 := c.valid
  have hbytes : String.utf8EncodeChar c =
      if c.toNat ≤ 127 then [UInt8.ofNat c.toNat]
      else if c.toNat ≤ 2047 then
        UInt8.ofNat (c.toNat / 64 % 32 + 192) :: innerBytes c.toNat 1
      else if c.toNat ≤ 65535 then
        UInt8.ofNat (c.toNat / 4096 % 16 + 224) :: innerBytes c.toNat 2
      else UInt8.ofNat (c.toNat / 262144 % 8 + 240) :: innerBytes c.toNat 3 := by
    simp [String.utf8EncodeChar, innerBytes]
  rw [hbytes]
  split_ifs with hone htwo hthree
  · exact .inl ⟨rfl, by omega⟩
  · obtain ⟨p, hp⟩ := @lead_two c.toNat (by omega) (by omega)
    exact .inr ⟨_, 0, p, rfl, hp⟩
  · obtain ⟨p, hp⟩ := @lead_three c.toNat (by omega) (by omega) (by omega)
    exact .inr ⟨_, 1, p, rfl, hp⟩
  · obtain ⟨p, hp⟩ := @lead_four c.toNat (by omega) (by omega)
    exact .inr ⟨_, 2, p, rfl, hp⟩

theorem foldl_utf8EncodeChar (c : Char) (output : List Char) :
    (String.utf8EncodeChar c).foldl State.step ⟨none, output⟩ = ⟨none, c :: output⟩ := by
  rcases utf8EncodeChar_cases c with ⟨hbytes, hascii⟩ | ⟨first, k, p, hbytes, hlead, hp⟩
  · have hcode : (UInt8.ofNat c.toNat).toNat = c.toNat := by
      rw [UInt8.toNat_ofNat', Nat.mod_eq_of_lt (by omega)]
    rw [hbytes, List.foldl_cons, List.foldl_nil]
    change State.start output (UInt8.ofNat c.toNat).toNat = _
    rw [hcode, State.start, lead, if_pos hascii, Char.ofNat_toNat]
  · have hopen : State.step ⟨none, output⟩ first = ⟨some p, output⟩ := by
      change State.start output first.toNat = _
      rw [State.start, hlead]
    rw [hbytes, List.foldl_cons, hopen, foldl_innerBytes hp, Char.ofNat_toNat]

theorem decode_char_append (c : Char) (rest : List UInt8) :
    decode (String.utf8EncodeChar c ++ rest) = c :: decode rest := by
  rw [decode, List.foldl_append, foldl_utf8EncodeChar, finish_foldl]
  rfl

theorem length_innerBytes (code k : ℕ) : (innerBytes code k).length = k := by
  induction k with
  | zero => rfl
  | succ k ih => rw [innerBytes, List.length_cons, ih]

/-- A part of a character's bytes at their front is replaced as a whole. -/
theorem decode_of_front {c : Char} {bytes : List UInt8} (h : bytes <+: String.utf8EncodeChar c)
    (hne : bytes ≠ []) (hproper : bytes ≠ String.utf8EncodeChar c) :
    decode bytes = [replacement] := by
  rcases utf8EncodeChar_cases c with ⟨hbytes, -⟩ | ⟨first, k, p, hbytes, hlead, hp⟩
  · rw [hbytes] at h hproper
    rcases List.prefix_cons_iff.1 h with hnil | ⟨rest, hrest, hnil⟩
    · exact absurd hnil hne
    · rw [List.prefix_nil.1 hnil] at hrest
      exact absurd hrest hproper
  · rw [hbytes] at h hproper
    rcases List.prefix_cons_iff.1 h with hnil | ⟨rest, rfl, hrest⟩
    · exact absurd hnil hne
    have hlength : rest.length ≤ k := by
      by_contra hlong
      have hle := hrest.length_le
      rw [length_innerBytes] at hle
      refine hproper (congrArg _ (hrest.eq_of_length ?_))
      rw [length_innerBytes]
      omega
    have hopen : State.step {} first = ⟨some p, []⟩ := by
      change State.start [] first.toNat = _
      rw [State.start, hlead]
    obtain ⟨p', hp'⟩ := foldl_take_innerBytes hp [] hlength
    rw [decode, List.foldl_cons, hopen, List.prefix_iff_eq_take.1 hrest, hp']
    rfl

theorem startsFresh_char (c : Char) : StartsFresh (String.utf8EncodeChar c) := by
  intro byte hbyte hinner
  rcases utf8EncodeChar_cases c with ⟨hbytes, hascii⟩ | ⟨first, k, p, hbytes, hlead, -⟩
  · rw [hbytes, List.head?_cons, Option.mem_some_iff] at hbyte
    have hlow := hinner.1
    rw [← hbyte, UInt8.toNat_ofNat'] at hlow
    omega
  · rw [hbytes, List.head?_cons, Option.mem_some_iff] at hbyte
    rw [hbyte, lead_of_isInner hinner] at hlead
    cases hlead

theorem isInner_of_mem_tail {c : Char} {byte : UInt8} (h : byte ∈ (String.utf8EncodeChar c).tail) :
    IsInner byte := by
  rcases utf8EncodeChar_cases c with ⟨hbytes, -⟩ | ⟨first, k, p, hbytes, -⟩
  · rw [hbytes] at h
    cases h
  · rw [hbytes] at h
    exact isInner_of_mem_innerBytes h

theorem decode_inner_append {bytes : List UInt8} (h : ∀ byte ∈ bytes, IsInner byte)
    (rest : List UInt8) :
    decode (bytes ++ rest) = List.replicate bytes.length replacement ++ decode rest := by
  induction bytes with
  | nil => rfl
  | cons byte bytes ih =>
    obtain ⟨hbyte, hbytes⟩ := List.forall_mem_cons.1 h
    rw [List.cons_append, decode_cons_of_invalid (lead_of_isInner hbyte), ih hbytes]
    rfl

/-! ## Texts -/

@[simp]
theorem encode_nil : encode [] = [] := rfl

@[simp]
theorem encode_cons (c : Char) (text : List Char) :
    encode (c :: text) = String.utf8EncodeChar c ++ encode text := rfl

theorem encode_append (text more : List Char) :
    encode (text ++ more) = encode text ++ encode more :=
  List.flatMap_append

theorem decode_encode_append (text : List Char) (rest : List UInt8) :
    decode (encode text ++ rest) = text ++ decode rest := by
  induction text with
  | nil => rfl
  | cons c text ih => rw [encode_cons, List.append_assoc, decode_char_append, ih, List.cons_append]

theorem decode_encode (text : List Char) : decode (encode text) = text := by
  have happend := decode_encode_append text []
  rwa [List.append_nil, decode_nil, List.append_nil] at happend

theorem startsFresh_encode (text : List Char) : StartsFresh (encode text) := by
  induction text with
  | nil => exact startsFresh_nil
  | cons c text ih =>
    rw [encode_cons]
    exact (startsFresh_char c).append ih

end Outline.Text.Utf8
