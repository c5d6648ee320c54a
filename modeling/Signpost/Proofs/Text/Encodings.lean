import Mathlib.Data.List.Forall2
import Signpost.Proofs.Text.Form

/-!
# Encoded segments

A text may be written in a path in many ways: each of its characters as itself,
a blank as a plus, and any character as the escapes of its bytes.  All of them
are decoded to the text.
-/

namespace Signpost

open Utf8

/--
A percent sign and the two hexadecimal digits of a byte, small or capital.
-/
def IsEscapeOf (b : UInt8) (part : List Char) : Prop :=
  ∃ high low, part = ['%', high, low] ∧
    IsDigitOf (b.toNat / 16) high ∧ IsDigitOf (b.toNat % 16) low

/-- The ways to write a text, with a choice for each of its characters. -/
inductive Encodes : List Char → List Char → Prop
  | nil : Encodes [] []
  | self {c : Char} {text encoded : List Char} :
      c ≠ '%' → c ≠ '+' → Encodes text encoded →
      Encodes (c :: text) (c :: encoded)
  | plus {text encoded : List Char} :
      Encodes text encoded → Encodes (' ' :: text) ('+' :: encoded)
  | escaped {c : Char} {parts : List (List Char)} {text encoded : List Char} :
      List.Forall₂ IsEscapeOf (encodeChar c) parts → Encodes text encoded →
        Encodes (c :: text) (parts.flatten ++ encoded)

namespace Form

private theorem unescape_of_isEscapeOf {b : UInt8} {part : List Char}
    (h : IsEscapeOf b part)
    (rest : List UInt8) : unescape (encode part ++ rest) =
      b :: unescape rest := by
  obtain ⟨high, low, rfl, hhigh, hlow⟩ := h
  have hb := b.toNat_lt
  obtain ⟨hhigh, hfirst⟩ := digit?_of_isDigitOf _ (by omega) high hhigh
  obtain ⟨hlow, hsecond⟩ := digit?_of_isDigitOf _ (by omega) low hlow
  have hvalue : byte (16 * (b.toNat / 16) + b.toNat % 16) = b := by
    rw [Nat.div_add_mod, byte, UInt8.ofNat_toNat]
  have hencode :
      encode ['%', high, low] = [percent, byte high.toNat, byte low.toNat] := by
    rw [encode_cons, encode_cons, encode_cons, hhigh, hlow]
    rfl
  rw [hencode]
  simp only [List.cons_append, List.nil_append]
  rw [unescape_percent, escaped?, hfirst, hsecond]
  simp only [hvalue]

private theorem unescape_escapes {bytes : List UInt8} {parts : List (List Char)}
    (h : List.Forall₂ IsEscapeOf bytes parts) (rest : List UInt8) :
    unescape (encode parts.flatten ++ rest) = bytes ++ unescape rest := by
  induction h with
  | nil => rfl
  | cons hpart _ ih =>
      rw [List.flatten_cons, encode_append, List.append_assoc,
        unescape_of_isEscapeOf hpart, ih, List.cons_append]

private theorem unescape_encodes {text encoded : List Char}
    (h : Encodes text encoded) :
    unescape (encode encoded) = encode text := by
  induction h with
  | nil => rfl
  | @self c text encoded hpercent hplus _ ih =>
      have hself := @unescape_plain (encodeChar c)
        (fun hmem =>
          hplus ((mem_encodeChar_iff (d := '+') (by decide)).mp hmem))
        (fun hmem =>
          hpercent ((mem_encodeChar_iff (d := '%') (by decide)).mp hmem))
        (encode encoded)
      rw [encode_cons, encode_cons, hself, ih]
  | @plus text encoded _ ih =>
      have hblank := unescape_plus (encode encoded)
      rw [ih] at hblank
      exact hblank
  | escaped hparts _ ih =>
      rw [encode_append, unescape_escapes hparts, ih, encode_cons]

end Form

/-- Every encoding of a text is decoded to the text. -/
theorem decodeSegment_encodes {text encoded : List Char}
    (h : Encodes text encoded) :
    decodeSegment encoded = text := by
  rw [decodeSegment_eq, Form.decode, percentDecode_hidden,
    Form.unescape_encodes h, decodeLossy_encode]

theorem decodeSegment_encodes_mixed :
    Encodes "é +&%2B".toList "%c3%A9+%2b&%252B".toList ∧
      decodeSegment "%c3%A9+%2b&%252B".toList = "é +&%2B".toList := by
  have h : Encodes "é +&%2B".toList "%c3%A9+%2b&%252B".toList := by
    refine @Encodes.escaped 'é' ["%c3".toList, "%A9".toList] _ _ ?_ (.plus ?_)
    · exact .cons ⟨'c', '3', rfl, by decide, by decide⟩
        (.cons ⟨'A', '9', rfl, by decide, by decide⟩ .nil)
    refine @Encodes.escaped '+' ["%2b".toList] _ _ ?_
      (.self (by decide) (by decide) ?_)
    · exact .cons ⟨'2', 'b', rfl, by decide, by decide⟩ .nil
    refine @Encodes.escaped '%' ["%25".toList] _ _ ?_ ?_
    · exact .cons ⟨'2', '5', rfl, by decide, by decide⟩ .nil
    exact .self (by decide) (by decide) (.self (by decide) (by decide) .nil)
  exact ⟨h, decodeSegment_encodes h⟩

end Signpost
