import Signpost.Proofs.Text.Utf8
import Signpost.Text.Form

/-!
# Percent escapes

Form data is read by one pass over its bytes, in which a plus is a blank and a
percent sign with two hexadecimal digits is a byte.  Replacing the pluses first
and writing the separators as escapes beforehand comes to the same: what is put
in begins with no digit, so it completes no escape that was cut short before it.
-/

namespace Signpost

open Utf8

def IsDigitOf (value : Nat) (c : Char) : Prop :=
  c = value.digitChar ∨ c = value.digitChar.toUpper

instance (value : Nat) (c : Char) : Decidable (IsDigitOf value c) :=
  inferInstanceAs (Decidable (_ ∨ _))

namespace Form

def digit? (b : UInt8) : Option Nat :=
  (List.range 16).find? fun value => IsDigitOf value (Char.ofNat b.toNat)

theorem hexValue?_of_isDigitOf : ∀ value < 16, ∀ c, IsDigitOf value c →
    encodeChar c = [byte c.toNat] ∧ hexValue? (byte c.toNat) = some value := by
  rintro value hvalue c (rfl | rfl)
  · revert value
    decide
  · revert value
    decide

private theorem isDigitOf_ofNat :
    (∀ value < 10, IsDigitOf value (Char.ofNat (48 + value))) ∧
    ∀ value < 6, IsDigitOf (10 + value) (Char.ofNat (97 + value)) ∧
      IsDigitOf (10 + value) (Char.ofNat (65 + value)) := by
  decide

private theorem isDigitOf_of_hexValue? {b : UInt8} {value : Nat}
    (h : hexValue? b = some value) :
    value < 16 ∧ IsDigitOf value (Char.ofNat b.toNat) := by
  obtain ⟨hnumerals, hletters⟩ := isDigitOf_ofNat
  unfold hexValue? at h
  dsimp only at h
  split at h
  · obtain ⟨hb, hvalue⟩ : b.toNat = 48 + value ∧ value < 10 := by grind
    exact ⟨by omega, hb ▸ hnumerals value hvalue⟩
  split at h
  · obtain ⟨letter, hb, rfl, hletter⟩ : ∃ letter, b.toNat = 97 + letter ∧
        value = 10 + letter ∧ letter < 6 := ⟨b.toNat - 97, by grind⟩
    exact ⟨by omega, hb ▸ (hletters letter hletter).1⟩
  split at h
  · obtain ⟨letter, hb, rfl, hletter⟩ : ∃ letter, b.toNat = 65 + letter ∧
        value = 10 + letter ∧ letter < 6 := ⟨b.toNat - 65, by grind⟩
    exact ⟨by omega, hb ▸ (hletters letter hletter).2⟩
  · cases h

private theorem byte_ofNat (b : UInt8) :
    byte (Char.ofNat b.toNat).toNat = b := by
  have hvalid : b.toNat.isValidChar :=
    .inl (Nat.lt_trans b.toNat_lt (by decide))
  rw [Char.ofNat, dif_pos hvalid]
  exact UInt8.ofNat_toNat

theorem digit?_eq (b : UInt8) : digit? b = hexValue? b := by
  cases hdigit : digit? b with
  | some value =>
      have hrange := List.mem_range.mp (List.mem_of_find?_eq_some hdigit)
      have hof : IsDigitOf value (Char.ofNat b.toNat) :=
        of_decide_eq_true
          (List.find?_some (p := (IsDigitOf · (Char.ofNat b.toNat))) hdigit)
      obtain ⟨-, hvalue⟩ := hexValue?_of_isDigitOf value hrange _ hof
      rw [← hvalue, byte_ofNat]
  | none =>
      refine (Option.eq_none_iff_forall_not_mem.mpr fun value hvalue => ?_).symm
      obtain ⟨hrange, hof⟩ := isDigitOf_of_hexValue? hvalue
      exact List.find?_eq_none.mp hdigit value (List.mem_range.mpr hrange)
        (decide_eq_true hof)

theorem digit?_of_isDigitOf : ∀ value < 16, ∀ c, IsDigitOf value c →
    encodeChar c = [byte c.toNat] ∧ digit? (byte c.toNat) = some value := by
  intro value hvalue c hdigit
  rw [digit?_eq]
  exact hexValue?_of_isDigitOf value hvalue c hdigit

def escaped? : List UInt8 → Option (UInt8 × List UInt8)
  | high :: low :: rest =>
    match digit? high, digit? low with
    | some high, some low => some (byte (16 * high + low), rest)
    | _, _ => none
  | _ => none

theorem escaped?_pair (high low : UInt8) (rest : List UInt8) :
    escaped? (high :: low :: rest) =
      (digit? high).bind fun first => (digit? low).map fun second =>
        (byte (16 * first + second), rest) := by
  change (match digit? high, digit? low with
    | some first, some second => some (byte (16 * first + second), rest)
    | _, _ => none) = _
  cases digit? high <;> cases digit? low <;> rfl

/--
The bytes read from left to right: a plus is a blank, a percent sign with two
digits is the byte they write, and every other byte is itself.
-/
def unescape : List UInt8 → List UInt8
  | [] => []
  | b :: high :: low :: rest =>
    if b = plus then blank :: unescape (high :: low :: rest)
    else if b = percent then
      match digit? high, digit? low with
      | some high, some low => byte (16 * high + low) :: unescape rest
      | _, _ => percent :: unescape (high :: low :: rest)
    else b :: unescape (high :: low :: rest)
  | b :: rest => (if b = plus then blank else b) :: unescape rest

theorem unescape_plus (rest : List UInt8) :
    unescape (plus :: rest) = blank :: unescape rest := by
  match rest with
  | [] => rfl
  | [_] => rfl
  | _ :: _ :: _ => rfl

theorem unescape_of_ne {b : UInt8} (hplus : b ≠ plus) (hpercent : b ≠ percent)
    (rest : List UInt8) : unescape (b :: rest) = b :: unescape rest := by
  match rest with
  | [] => exact congrArg (· :: unescape []) (if_neg hplus)
  | [c] => exact congrArg (· :: unescape [c]) (if_neg hplus)
  | _ :: _ :: _ =>
      change (if b = plus then _ else if b = percent then _ else _) = _
      rw [if_neg hplus, if_neg hpercent]

theorem unescape_percent (rest : List UInt8) :
    unescape (percent :: rest) =
      match escaped? rest with
      | some (value, rest) => value :: unescape rest
      | none => percent :: unescape rest := by
  have hplus : percent ≠ plus := by decide
  match rest with
  | [] => rfl
  | [_] => rfl
  | high :: low :: rest =>
      change (if percent = plus then _ else if percent =
        percent then _ else _) = _
      rw [if_neg hplus, if_pos rfl, escaped?_pair]
      cases digit? high <;> cases digit? low <;> rfl

theorem percentDecode_percent (rest : List UInt8) :
    percentDecode (percent :: rest) =
      match escaped? rest with
      | some (value, rest) => value :: percentDecode rest
      | none => percent :: percentDecode rest := by
  match rest with
  | [] => rfl
  | [_] => rfl
  | high :: low :: rest =>
      change (if percent = percent then _ else _) = _
      rw [if_pos rfl, escaped?_pair, digit?_eq, digit?_eq]
      cases hexValue? high <;> cases hexValue? low <;> simp [byte, Nat.mul_comm]

theorem escaped?_length {bytes rest : List UInt8} {value : UInt8}
    (h : escaped? bytes = some (value, rest)) : rest.length < bytes.length := by
  match bytes with
  | [] => cases h
  | [_] => cases h
  | high :: low :: bytes =>
      rw [escaped?_pair] at h
      obtain ⟨first, -, h⟩ := Option.bind_eq_some_iff.mp h
      obtain ⟨second, -, h⟩ := Option.map_eq_some_iff.mp h
      obtain ⟨-, rfl⟩ := Prod.mk.inj h
      simp only [List.length_cons]
      omega

theorem escaped?_of_none {b : UInt8} (h : digit? b = none) (rest : List UInt8) :
    escaped? (b :: rest) = none := by
  cases rest with
  | nil => rfl
  | cons c rest => rw [escaped?_pair, h, Option.bind_none]

theorem escaped?_of_second_none {b c : UInt8} (h : digit? c = none)
    (rest : List UInt8) :
    escaped? (b :: c :: rest) = none := by
  rw [escaped?_pair, h]
  cases digit? b <;> rfl

private theorem escaped?_append {sign : UInt8} (h : digit? sign = none)
    (front back : List UInt8) :
    escaped? (front ++ sign :: back) =
      (escaped? front).map fun (value, rest) =>
        (value, rest ++ sign :: back) := by
  match front with
  | [] => exact escaped?_of_none h back
  | [b] => exact escaped?_of_second_none h back
  | high :: low :: front =>
      rw [List.cons_append, List.cons_append, escaped?_pair, escaped?_pair]
      cases digit? high <;> cases digit? low <;> rfl

theorem unescape_append {sign : UInt8} (hdigit : digit? sign = none)
    (hplus : sign ≠ plus)
    (hpercent : sign ≠ percent) (front back : List UInt8) :
    unescape (front ++ sign :: back) = unescape front ++
      sign :: unescape back := by
  induction hlength : front.length using Nat.strongRecOn generalizing front with
  | _ length ih =>
  subst hlength
  match front with
  | [] => exact unescape_of_ne hplus hpercent back
  | b :: front =>
    have hfront := ih front.length (by simp) front rfl
    rw [List.cons_append]
    by_cases hb : b = plus
    · subst hb
      rw [unescape_plus, unescape_plus, hfront, List.cons_append]
    by_cases hb' : b = percent
    · subst hb'
      rw [unescape_percent, unescape_percent, escaped?_append hdigit, hfront]
      cases hescaped : escaped? front with
      | none => rfl
      | some found =>
          have hshorter := escaped?_length hescaped
          simp only [Option.map_some]
          rw [ih found.2.length (by simp; omega) found.2 rfl, List.cons_append]
    · rw [unescape_of_ne hb hb', unescape_of_ne hb hb',
        hfront, List.cons_append]

theorem unescape_plain {bytes : List UInt8} (hplus : plus ∉ bytes)
    (hpercent : percent ∉ bytes) (rest : List UInt8) :
      unescape (bytes ++ rest) = bytes ++ unescape rest := by
  induction bytes with
  | nil => rfl
  | cons b bytes ih =>
      simp only [List.mem_cons, not_or] at hplus hpercent
      rw [List.cons_append, unescape_of_ne (Ne.symm hplus.1)
        (Ne.symm hpercent.1),
        ih hplus.2 hpercent.2, List.cons_append]

/-- A byte as it is decoded: separators as escapes, a plus as a blank. -/
def mask (b : UInt8) : List UInt8 :=
  if b = ampersand then [percent, 50, 54]
  else if b = equalsSign then [percent, 51, 68]
  else [plusToBlank b]

theorem mask_of_digit : ∀ b, (digit? b).isSome → mask b = [b] := by
  intro b hdigit
  have hne {sign : UInt8} (hsign : digit? sign = none) : b ≠ sign := by
    rintro rfl
    rw [hsign] at hdigit
    cases hdigit
  rw [mask, if_neg (hne rfl), if_neg (hne rfl), plusToBlank, if_neg (hne rfl)]

theorem exists_mask : ∀ b, ∃ c rest, mask b = c :: rest ∧
    digit? c = digit? b := by
  intro b
  unfold mask
  split
  · next h => exact ⟨_, _, rfl, by rw [h]; rfl⟩
  split
  · next h => exact ⟨_, _, rfl, by rw [h]; rfl⟩
  · refine ⟨_, _, rfl, ?_⟩
    unfold plusToBlank
    split
    · next h => rw [h]; rfl
    · rfl

private theorem escaped?_mask (bytes : List UInt8) :
    escaped? (bytes.flatMap mask) =
      (escaped? bytes).map fun (value, rest) => (value, rest.flatMap mask) := by
  match bytes with
  | [] => rfl
  | b :: rest =>
    rw [List.flatMap_cons]
    cases hb : digit? b with
    | none =>
        obtain ⟨c, more, hmask, hc⟩ := exists_mask b
        rw [hmask, List.cons_append, escaped?_of_none (hc.trans hb),
          escaped?_of_none hb]
        rfl
    | some high =>
        rw [mask_of_digit b (by simp [hb]), List.singleton_append]
        match rest with
        | [] => rfl
        | c :: rest =>
          rw [List.flatMap_cons]
          cases hc : digit? c with
          | none =>
              obtain ⟨d, more, hmask, hd⟩ := exists_mask c
              rw [hmask, List.cons_append,
                escaped?_of_second_none (hd.trans hc),
                escaped?_of_second_none hc]
              rfl
          | some low =>
              rw [mask_of_digit c (by simp [hc]), List.singleton_append]
              simp [escaped?_pair, hb, hc]

theorem percentDecode_of_ne {b : UInt8} (h : b ≠ percent) (rest : List UInt8) :
    percentDecode (b :: rest) = b :: percentDecode rest := by
  match rest with
  | [] => rfl
  | [_] => rfl
  | _ :: _ :: _ => exact if_neg h

theorem percentDecode_mask (bytes : List UInt8) :
    percentDecode (bytes.flatMap mask) = unescape bytes := by
  induction hlength : bytes.length using Nat.strongRecOn generalizing bytes with
  | _ length ih =>
  subst hlength
  match bytes with
  | [] => rfl
  | b :: rest =>
    have hrest := ih rest.length (by simp) rest rfl
    rw [List.flatMap_cons]
    -- the signs that are masked come first; all others stand for themselves
    by_cases hampersand : b = ampersand
    · subst hampersand
      rw [unescape_of_ne (by decide) (by decide), ← hrest]
      rfl
    by_cases hequals : b = equalsSign
    · subst hequals
      rw [unescape_of_ne (by decide) (by decide), ← hrest]
      rfl
    by_cases hplus : b = plus
    · subst hplus
      rw [unescape_plus, ← hrest]
      exact percentDecode_of_ne (by decide) _
    have hself :
        mask b = [b] := by simp [mask, plusToBlank, hampersand, hequals, hplus]
    rw [hself, List.singleton_append]
    by_cases hpercent : b = percent
    · subst hpercent
      rw [percentDecode_percent, unescape_percent, escaped?_mask, hrest]
      cases hescaped : escaped? rest with
      | none => rfl
      | some found =>
          have hshorter := escaped?_length hescaped
          simp only [Option.map_some]
          rw [ih found.2.length (by simp; omega) found.2 rfl]
    · rw [percentDecode_of_ne hpercent, unescape_of_ne hplus hpercent, hrest]

end Form

end Signpost
