import Mathlib.Data.List.Basic
import Signpost.Text.Utf8

/-!
# Characters as bytes

The bytes of a text read back as the text.  A byte of ASCII stands in them just
where its character stands in the text, so both can be split at it alike.
-/

namespace Signpost.Utf8

@[simp] theorem encode_nil : encode [] = [] := rfl

@[simp] theorem encode_cons (c : Char) (text : List Char) :
    encode (c :: text) = encodeChar c ++ encode text := rfl

@[simp] theorem encode_append (first second : List Char) :
    encode (first ++ second) = encode first ++ encode second :=
  List.flatMap_append

theorem width_append (first second : List Char) :
    width (first ++ second) = width first + width second := by
  simp [width]

theorem toNat_byte {value : Nat} (h : value < 256) :
    (byte value).toNat = value := by
  simp [byte, UInt8.toNat_ofNat', Nat.mod_eq_of_lt h]

theorem toNat_tailByte (code place : Nat) :
    (tailByte code place).toNat = 128 + code / place % 64 :=
  toNat_byte (by omega)

theorem encodeChar_ascii {c : Char} (h : c.toNat < 128) :
    encodeChar c = [byte c.toNat] := by
  simp [encodeChar, h]

theorem toNat_lt (c : Char) : c.toNat < 1114112 := by
  rcases c.valid with h | h
  · exact Nat.lt_trans h (by decide)
  · exact h.2

private theorem le_of_mem_encodeChar {c : Char} (h : 128 ≤ c.toNat) :
    ∀ b ∈ encodeChar c, 128 ≤ b.toNat := by
  have hlt := toNat_lt c
  have htail : ∀ code place, 128 ≤ (tailByte code place).toNat := by
    intro code place
    rw [toNat_tailByte]
    omega
  unfold encodeChar
  dsimp only
  rw [if_neg (by omega)]
  split
  · have hlead : 128 ≤ (byte (0xC0 + c.toNat / 64)).toNat := by
      rw [toNat_byte (by omega)]
      omega
    simp [hlead, htail]
  split
  · have hlead : 128 ≤ (byte (0xE0 + c.toNat / 4096)).toNat := by
      rw [toNat_byte (by omega)]
      omega
    simp [hlead, htail]
  · have hlead : 128 ≤ (byte (0xF0 + c.toNat / 262144)).toNat := by
      rw [toNat_byte (by omega)]
      omega
    simp [hlead, htail]

theorem length_encodeChar_pos (c : Char) : 0 < (encodeChar c).length := by
  unfold encodeChar
  dsimp only
  split
  · exact Nat.succ_pos _
  split
  · exact Nat.succ_pos _
  split
  · exact Nat.succ_pos _
  · exact Nat.succ_pos _

theorem mem_encodeChar_iff {c d : Char} (hd : d.toNat < 128) :
    byte d.toNat ∈ encodeChar c ↔ c = d := by
  constructor
  · intro hmem
    by_cases hc : c.toNat < 128
    · rw [encodeChar_ascii hc, List.mem_singleton] at hmem
      have hvalue := congrArg UInt8.toNat hmem
      rw [toNat_byte (by omega), toNat_byte (by omega)] at hvalue
      rw [← Char.ofNat_toNat c, ← Char.ofNat_toNat d, hvalue]
    · have hle := le_of_mem_encodeChar (Nat.le_of_not_lt hc) _ hmem
      rw [toNat_byte (by omega)] at hle
      omega
  · rintro rfl
    rw [encodeChar_ascii hd]
    exact List.mem_singleton.mpr rfl

theorem dropBytes?_width (before after : List Char) :
    dropBytes? (width before) (before ++ after) = some after := by
  induction before with
  | nil => cases after <;> rfl
  | cons c before ih =>
      have hpos := length_encodeChar_pos c
      have hwidth :
          width (c :: before) = (encodeChar c).length + width before := by
        simp [width]
      rw [hwidth, List.cons_append, dropBytes?, if_neg (by omega)]
      dsimp only
      rw [if_pos (Nat.le_add_right ..), Nat.add_sub_cancel_left, ih]

theorem decodeFrom_tail {pending : Partial} {code place : Nat}
    (hlow : pending.low ≤ 128 + code / place % 64)
    (hhigh : 128 + code / place % 64 ≤ pending.high) (rest : List UInt8) :
    decodeFrom (some pending) (tailByte code place :: rest) =
      if pending.missing = 1 then
        Char.ofNat (pending.code * 64 + code / place % 64) ::
          decodeFrom none rest
      else
        decodeFrom (some { missing := pending.missing - 1
                           code := pending.code * 64 + code / place % 64 })
                           rest := by
  have hbits : (128 + code / place % 64) % 64 = code / place % 64 := by omega
  rw [decodeFrom, toNat_tailByte, if_pos ⟨hlow, hhigh⟩]
  dsimp only
  rw [hbits]

theorem decodeFrom_lead {b : UInt8} {opened : Partial}
    (h : lead b.toNat = .ok opened) (rest : List UInt8) :
    decodeFrom none (b :: rest) = decodeFrom (some opened) rest := by
  rw [decodeFrom, h]

private theorem lead_three {c : Char} (hlow : 0x800 ≤ c.toNat)
    (hhigh : c.toNat < 0x10000) :
    ∃ opened, lead (byte (0xE0 + c.toNat / 4096)).toNat = .ok opened ∧
      opened.missing = 2 ∧ opened.code = c.toNat / 4096 ∧
      opened.low ≤ 128 + c.toNat / 64 % 64 ∧
      128 + c.toNat / 64 % 64 ≤ opened.high := by
  have hvalid : c.toNat < 0xD800 ∨ 0xDFFF < c.toNat ∧ c.toNat < 0x110000 :=
    c.valid
  rw [toNat_byte (by omega), lead, if_neg (by omega), if_neg (by omega),
    if_neg (by omega)]
  split
  · exact ⟨_, rfl, rfl, by dsimp only; omega, by dsimp only; omega,
      by dsimp only; omega⟩
  split
  · exact ⟨_, rfl, rfl, by dsimp only; omega, by dsimp only; omega,
      by dsimp only; omega⟩
  rw [if_pos (by omega)]
  exact ⟨_, rfl, rfl, by dsimp only; omega, by dsimp only; omega,
    by dsimp only; omega⟩

private theorem lead_four {c : Char} (hlow : 0x10000 ≤ c.toNat) :
    ∃ opened, lead (byte (0xF0 + c.toNat / 262144)).toNat = .ok opened ∧
      opened.missing = 3 ∧ opened.code = c.toNat / 262144 ∧
      opened.low ≤ 128 + c.toNat / 4096 % 64 ∧
      128 + c.toNat / 4096 % 64 ≤ opened.high := by
  have hlt := toNat_lt c
  rw [toNat_byte (by omega), lead, if_neg (by omega), if_neg (by omega),
    if_neg (by omega), if_neg (by omega), if_neg (by omega), if_neg (by omega)]
  split
  · exact ⟨_, rfl, rfl, by dsimp only; omega, by dsimp only; omega,
      by dsimp only; omega⟩
  split
  · exact ⟨_, rfl, rfl, by dsimp only; omega, by dsimp only; omega,
      by dsimp only; omega⟩
  rw [if_pos (by omega)]
  exact ⟨_, rfl, rfl, by dsimp only; omega, by dsimp only; omega,
    by dsimp only; omega⟩

private theorem decodeFrom_encodeChar (c : Char) (rest : List UInt8) :
    decodeFrom none (encodeChar c ++ rest) = c :: decodeFrom none rest := by
  have hlt := toNat_lt c
  have hofNat := Char.ofNat_toNat c
  have hvalid := c.valid
  unfold encodeChar
  dsimp only
  split
  · have hlead : lead (byte c.toNat).toNat = .error c := by
      rw [toNat_byte (by omega), lead, if_pos (by omega), hofNat]
    rw [List.singleton_append, decodeFrom, hlead]
  split
  · have hlead : lead (byte (0xC0 + c.toNat / 64)).toNat =
        .ok { missing := 1, code := c.toNat / 64 } := by
      rw [toNat_byte (by omega), lead, if_neg (by omega), if_neg (by omega),
        if_pos (by omega), Nat.add_sub_cancel_left]
    have hcode : c.toNat / 64 * 64 + c.toNat / 1 % 64 = c.toNat := by omega
    rw [List.cons_append, decodeFrom_lead hlead, List.singleton_append,
      decodeFrom_tail (by dsimp only; omega) (by dsimp only; omega), if_pos rfl]
    dsimp only
    rw [hcode, hofNat]
  split
  · obtain ⟨opened, hlead, hmissing, hopened, hlow, hhigh⟩ :=
      @lead_three c (by omega) (by omega)
    have hcode : (c.toNat / 4096 * 64 + c.toNat / 64 % 64) * 64 +
        c.toNat / 1 % 64 = c.toNat := by omega
    simp only [List.cons_append, List.nil_append]
    rw [decodeFrom_lead hlead, decodeFrom_tail hlow hhigh, hmissing,
      if_neg (by decide), hopened,
      decodeFrom_tail (by dsimp only; omega) (by dsimp only; omega), if_pos rfl]
    dsimp only
    rw [hcode, hofNat]
  · obtain ⟨opened, hlead, hmissing, hopened, hlow, hhigh⟩ :=
      @lead_four c (by omega)
    have hcode : ((c.toNat / 262144 * 64 + c.toNat / 4096 % 64) * 64 +
        c.toNat / 64 % 64) * 64 + c.toNat / 1 % 64 = c.toNat := by omega
    simp only [List.cons_append, List.nil_append]
    rw [decodeFrom_lead hlead, decodeFrom_tail hlow hhigh, hmissing,
      if_neg (by decide), hopened,
      decodeFrom_tail (by dsimp only; omega) (by dsimp only; omega),
      if_neg (by simp),
      decodeFrom_tail (by dsimp only; omega) (by dsimp only; omega)]
    dsimp only
    rw [if_pos rfl, hcode, hofNat]

theorem decodeLossy_encode (text : List Char) :
    decodeLossy (encode text) = text := by
  rw [decodeLossy]
  induction text with
  | nil => rfl
  | cons c text ih => rw [encode_cons, decodeFrom_encodeChar, ih]

theorem lead_ascii {b : UInt8} (h : b.toNat < 128) :
    lead b.toNat = .error (Char.ofNat b.toNat) :=
  if_pos h

private theorem decodeFrom_ascii {b : UInt8} (h : b.toNat < 128)
    (rest : List UInt8) :
    decodeFrom none (b :: rest) = Char.ofNat b.toNat ::
      decodeFrom none rest := by
  rw [decodeFrom, lead_ascii h]

private theorem low_of_lead {value : Nat} {opened : Partial}
    (h : lead value = .ok opened) :
    128 ≤ opened.low := by
  unfold lead at h
  repeat' split at h
  all_goals cases h <;> simp

/--
A byte of ASCII parts what is read: what is open before it is not completed
behind it.
-/
theorem decodeFrom_append {sign : UInt8} (hsign : sign.toNat < 128)
    (front back : List UInt8) :
    ∀ pending, (∀ opened, pending = some opened → 128 ≤ opened.low) →
      decodeFrom pending (front ++ sign :: back) =
        decodeFrom pending front ++ Char.ofNat sign.toNat ::
          decodeFrom none back := by
  induction front with
  | nil =>
      intro pending hlow
      cases pending with
      | none => exact decodeFrom_ascii hsign back
      | some opened =>
          have hopened := hlow opened rfl
          have hcut : decodeFrom (some opened) (sign :: back) =
              replacement :: Char.ofNat sign.toNat :: decodeFrom none back := by
            rw [decodeFrom, if_neg (by omega), lead_ascii hsign]
          exact hcut
  | cons b front ih =>
      intro pending hlow
      have hnone := ih none (by simp)
      have hlead : ∀ opened, lead b.toNat = .ok opened →
          decodeFrom (some opened) (front ++ sign :: back) =
            decodeFrom (some opened) front ++ Char.ofNat sign.toNat ::
              decodeFrom none back :=
        fun opened h => ih _ fun _ heq => Option.some.inj heq ▸ low_of_lead h
      rw [List.cons_append]
      cases pending with
      | none =>
          rw [decodeFrom, decodeFrom]
          split
          · rw [hnone, List.cons_append]
          · next h => exact hlead _ h
      | some opened =>
          rw [decodeFrom, decodeFrom]
          split
          · dsimp only
            split
            · rw [hnone, List.cons_append]
            · exact ih _ (by rintro _ ⟨⟩; exact Nat.le_refl _)
          · split
            · rw [hnone, List.cons_append, List.cons_append]
            · next h => rw [hlead _ h, List.cons_append]

theorem decodeLossy_append {sign : UInt8} (hsign : sign.toNat < 128)
    (front back : List UInt8) : decodeLossy (front ++ sign :: back) =
      decodeLossy front ++ Char.ofNat sign.toNat :: decodeLossy back :=
  decodeFrom_append hsign front back none (by simp)

end Signpost.Utf8
