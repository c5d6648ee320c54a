import Mathlib.Data.List.Basic
import Signpost.Pattern.Compiled
import Signpost.Proofs.Text.Utf8

/-!
# The remainder of a path

The remainder is found by counting slashes among the bytes of a path.  No byte
of another character is that of a slash, so the bytes are counted as the
characters are.
-/

namespace Signpost

open Utf8

private theorem afterSeparators_other {count seen passed : Nat}
    (hseen : seen ≠ count)
    {bytes : List UInt8} (h : byte '/'.toNat ∉ bytes) (rest : List UInt8) :
    afterSeparators count seen passed (bytes ++ rest) =
      afterSeparators count seen (passed + bytes.length) rest := by
  induction bytes generalizing passed with
  | nil => rfl
  | cons b bytes ih =>
      have hb : b ≠ byte '/'.toNat := fun heq => h (by simp [heq])
      rw [List.cons_append, afterSeparators, if_neg hb, if_neg hseen,
        ih fun hmem => h (List.mem_cons_of_mem _ hmem)]
      congr 1
      simp only [List.length_cons]
      omega

private theorem afterSeparators_slash {count seen passed : Nat}
    (hseen : seen + 1 ≠ count) (rest : List UInt8) :
    afterSeparators count seen passed (byte '/'.toNat :: rest) =
      afterSeparators count (seen + 1) (passed + 1) rest := by
  rw [afterSeparators, if_pos rfl, if_neg hseen]

theorem afterSeparators_encode {count : Nat} (text : List Char) :
    ∀ {seen passed : Nat}, seen + text.count '/' < count → ∀ rest : List UInt8,
    afterSeparators count seen passed (encode text ++ rest) =
      afterSeparators count (seen + text.count '/')
        (passed + width text) rest := by
  induction text with
  | nil => exact fun _ _ => rfl
  | cons c text ih =>
      intro seen passed h rest
      have hwidth : width (c :: text) = (encodeChar c).length + width text := by
        simp [width]
      rw [encode_cons, List.append_assoc, hwidth]
      by_cases hc : c = '/'
      · subst hc
        rw [List.count_cons_self] at h ⊢
        have hslash : encodeChar '/' = [byte '/'.toNat] := rfl
        rw [hslash, List.singleton_append, afterSeparators_slash (by omega),
          ih (by omega)]
        congr 1
        · omega
        · simp only [List.length_singleton]
          omega
      · rw [List.count_cons_of_ne hc] at h ⊢
        have hother : byte '/'.toNat ∉ encodeChar c :=
          fun hmem => hc ((mem_encodeChar_iff (by decide)).mp hmem)
        rw [afterSeparators_other (by omega) hother, ih h, Nat.add_assoc]

theorem splatStart_append {before : List Char} {count : Nat}
    (h : before.count '/' = count) (rest : List Char) :
    splatStart (before ++ '/' :: rest) (count + 1) =
      some (width (before ++ ['/'])) := by
  have hslash : encode ('/' :: rest) = byte '/'.toNat :: encode rest := rfl
  rw [splatStart, encode_append, afterSeparators_encode before
    (by omega), hslash,
    afterSeparators, if_pos rfl, if_pos (by omega), width_append, Nat.zero_add]
  rfl

theorem splatStart_eq_none {path : List Char} {count : Nat}
    (h : path.count '/' < count) : splatStart path count = none := by
  have hnone := @afterSeparators_encode count path 0 0 (by omega) []
  rw [List.append_nil] at hnone
  rw [splatStart, hnone]
  rfl

theorem dropBytes?_slash (before rest : List Char) :
    dropBytes? (width (before ++ ['/'])) (before ++ '/' :: rest) =
      some rest := by
  rw [← dropBytes?_width (before ++ ['/']) rest, List.append_assoc]
  rfl

theorem splatOf_append {before : List Char} {count : Nat}
    (h : before.count '/' = count) (rest : List Char) :
    splatOf (before ++ '/' :: rest) (count + 1) =
      if rest = [] then none else some (String.ofList rest) := by
  rw [splatOf, splatStart_append h, Option.bind_some, dropBytes?_slash]
  cases rest <;> rfl

theorem splatOf_eq_none {path : List Char} {count : Nat}
    (h : path.count '/' < count) : splatOf path count = none := by
  rw [splatOf, splatStart_eq_none h]
  rfl

end Signpost
