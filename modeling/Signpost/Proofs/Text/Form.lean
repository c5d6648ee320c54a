import Signpost.Pattern.Params
import Signpost.Proofs.Text.Escapes

/-!
# Segments as form data

With its separators hidden a segment is one name of form data, whatever stands
in it.  A segment without percent signs and pluses is its own decoding.
-/

namespace Signpost

open Utf8

namespace Form

private theorem sequences_of_not_mem {bytes : List UInt8}
    (h : ampersand ∉ bytes) :
    sequences bytes = [bytes] := by
  induction bytes with
  | nil => rfl
  | cons b bytes ih =>
      have hb : b ≠ ampersand := fun heq => h (by simp [heq])
      rw [sequences, if_neg hb, ih fun hmem => h (List.mem_cons_of_mem _ hmem)]

private theorem pair_of_not_mem {bytes : List UInt8} (h : equalsSign ∉ bytes) :
    pair bytes = (decode bytes, decode []) := by
  have hall : ∀ b ∈ bytes, (b != equalsSign) = true := by
    intro b hb
    simp only [bne_iff_ne, ne_eq]
    rintro rfl
    exact h hb
  have htake : (bytes ++ []).takeWhile (· != equalsSign) = bytes ++ [] :=
    List.takeWhile_append_of_pos hall
  have hdrop : (bytes ++ []).dropWhile (· != equalsSign) = [] :=
    List.dropWhile_append_of_pos hall
  rw [List.append_nil] at htake hdrop
  rw [pair, htake, hdrop]
  rfl

end Form

theorem not_mem_encode {text : List Char} {sign : Char}
    (hsign : sign.toNat < 128)
    (h : sign ∉ text) : byte sign.toNat ∉ encode text := by
  intro hmem
  obtain ⟨c, hc, hbyte⟩ := List.mem_flatMap.mp hmem
  rw [(mem_encodeChar_iff hsign).mp hbyte] at hc
  exact h hc

theorem separator_not_mem {raw : List Char} {sign : Char}
    (h : sign = '&' ∨ sign = '=') : sign ∉ hideSeparators raw := by
  intro hmem
  obtain ⟨c, -, hc⟩ := List.mem_flatMap.mp hmem
  split at hc
  · rcases h with rfl | rfl <;> simp at hc
  split at hc
  · rcases h with rfl | rfl <;> simp at hc
  · next hampersand hequals =>
      rw [← List.mem_singleton.mp hc] at hampersand hequals
      exact h.elim hampersand hequals

theorem decodeSegment_eq (raw : List Char) :
    decodeSegment raw = Form.decode (encode (hideSeparators raw)) := by
  have hampersand : byte '&'.toNat ∉ encode (hideSeparators raw) :=
    not_mem_encode (by decide) (separator_not_mem (.inl rfl))
  have hequals : byte '='.toNat ∉ encode (hideSeparators raw) :=
    not_mem_encode (by decide) (separator_not_mem (.inr rfl))
  rw [decodeSegment, Form.pairs, Form.sequences_of_not_mem hampersand]
  cases hbytes : encode (hideSeparators raw) with
  | nil => rfl
  | cons b bytes =>
      rw [hbytes] at hequals
      simp [Form.pair_of_not_mem hequals]

private theorem mask_hidden (c : Char) :
    (encode (hideSeparators [c])).map Form.plusToBlank =
    (encodeChar c).flatMap Form.mask := by
  by_cases hampersand : c = '&'
  · subst hampersand
    decide
  by_cases hequals : c = '='
  · subst hequals
    decide
  have hself :
      hideSeparators [c] = [c] := by simp [hideSeparators, hampersand, hequals]
  have hmask : ∀ b ∈ encodeChar c, Form.mask b = [Form.plusToBlank b] := by
    intro b hb
    have hand : b ≠ Form.ampersand := by
      rintro rfl
      exact hampersand ((mem_encodeChar_iff (d := '&') (by decide)).mp hb)
    have hequal : b ≠ Form.equalsSign := by
      rintro rfl
      exact hequals ((mem_encodeChar_iff (d := '=') (by decide)).mp hb)
    rw [Form.mask, if_neg hand, if_neg hequal]
  rw [hself, encode, List.flatMap_singleton, List.flatMap_congr hmask]
  exact List.map_eq_flatMap

private theorem map_hidden (raw : List Char) :
    (encode (hideSeparators raw)).map Form.plusToBlank =
      (encode raw).flatMap Form.mask := by
  induction raw with
  | nil => rfl
  | cons c raw ih =>
      have hcons : hideSeparators (c :: raw) = hideSeparators [c] ++
          hideSeparators raw := by
        simp [hideSeparators]
      rw [hcons, encode_append, List.map_append, mask_hidden, ih, encode_cons,
        List.flatMap_append]

theorem percentDecode_hidden (raw : List Char) :
    Form.percentDecode ((encode (hideSeparators raw)).map Form.plusToBlank) =
      Form.unescape (encode raw) := by
  rw [map_hidden, Form.percentDecode_mask]

theorem decodeSegment_self {raw : List Char} (hpercent : '%' ∉ raw)
    (hplus : '+' ∉ raw) : decodeSegment raw = raw := by
  have hplain : Form.unescape (encode raw ++ []) =
      encode raw ++ Form.unescape [] :=
    Form.unescape_plain (not_mem_encode (by decide) hplus)
      (not_mem_encode (by decide) hpercent) []
  rw [List.append_nil] at hplain
  rw [decodeSegment_eq, Form.decode, percentDecode_hidden, hplain]
  exact (congrArg decodeLossy (List.append_nil _)).trans
    (decodeLossy_encode raw)

theorem unescape_parted (before behind : List Char) {sign : Char}
    (h : sign = '&' ∨ sign = '=') :
    decodeLossy (Form.unescape (encode (before ++ sign :: behind))) =
      decodeLossy (Form.unescape (encode before)) ++
        sign :: decodeLossy (Form.unescape (encode behind)) := by
  have hsign : encodeChar sign = [byte sign.toNat] ∧
      Form.digit? (byte sign.toNat) = none ∧
      byte sign.toNat ≠ Form.plus ∧ byte sign.toNat ≠ Form.percent ∧
      (byte sign.toNat).toNat < 128 ∧ Char.ofNat
        (byte sign.toNat).toNat = sign := by
    rcases h with rfl | rfl <;> decide
  obtain ⟨hencode, hdigit, hplus, hpercent, hascii, hchar⟩ := hsign
  rw [encode_append, encode_cons, hencode, List.singleton_append,
    Form.unescape_append hdigit hplus hpercent,
    decodeLossy_append hascii, hchar]

/--
A segment decodes to what one pass over its bytes gives, whatever stands in it.
The signs that separate form data stand for themselves, and what is before and
behind one of them is decoded as if it stood alone.
-/
theorem decodeSegment_one_pass :
    (∀ raw, decodeSegment raw = decodeLossy (Form.unescape (encode raw))) ∧
    (∀ before behind, decodeSegment (before ++ '&' :: behind) =
      decodeSegment before ++ '&' :: decodeSegment behind) ∧
    (∀ before behind, decodeSegment (before ++ '=' :: behind) =
      decodeSegment before ++ '=' :: decodeSegment behind) := by
  have hpass :
      ∀ raw, decodeSegment raw = decodeLossy (Form.unescape (encode raw)) := by
    intro raw
    rw [decodeSegment_eq, Form.decode, percentDecode_hidden]
  refine ⟨hpass, fun before behind => ?_, fun before behind => ?_⟩
  · rw [hpass, hpass, hpass, unescape_parted before behind (.inl rfl)]
  · rw [hpass, hpass, hpass, unescape_parted before behind (.inr rfl)]

/-- A sign behind an escape that was cut short does not complete it. -/
example : decodeSegment "%2&6+%c3=%A9".toList = "%2&6 �=�".toList := by
  decide +kernel

end Signpost
