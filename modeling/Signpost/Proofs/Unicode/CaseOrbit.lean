import Mathlib.Data.List.Basic
import Signpost.Unicode.CaseOrbit

/-!
# Company of the signs

No sign of ASCII belongs to the case orbit of another character: what has
company within ASCII is a letter.
-/

namespace Signpost.Unicode.CaseOrbit

/--
Every member is a character beyond ASCII, or the family is one orbit and it a
letter.
-/
def Family.isClear (family : Family) : Bool :=
  family.first.all fun leader =>
    (128 ≤ leader && leader + family.stride * family.count < 0xD800) ||
      (0xE000 ≤ leader && leader + family.stride * family.count < 0x110000) ||
      (family.count = 1 && (Char.ofNat leader).isAlpha)

private theorem families_isClear : ∀ family ∈ families, family.isClear := by
  decide +kernel

theorem toNat_ofNat {code : Nat} (h : code.isValidChar) :
    (Char.ofNat code).toNat = code := by
  rw [Char.ofNat, dif_pos h]
  rfl

private theorem Family.exists_round {family : Family} {code leader : Nat}
    (h : family.reaches code leader) :
    ∃ round < family.count, code = leader + family.stride * round := by
  simp only [reaches, Bool.and_eq_true, decide_eq_true_eq] at h
  refine ⟨(code - leader) / family.stride, h.2, ?_⟩
  have hdiv := Nat.div_add_mod (code - leader) family.stride
  omega

private theorem isAlpha_of_mem_family {family : Family}
    (hclear : family.isClear) {code other : Nat} {others : List Nat}
    (hothers : family.companions? code = some others) (hmem : other ∈ others)
    (hother : (Char.ofNat other).toNat < 128) : (Char.ofNat other).isAlpha := by
  obtain ⟨leader, hleader, rfl⟩ := Option.map_eq_some_iff.mp hothers
  obtain ⟨round, hround, rfl⟩ :=
    Family.exists_round (List.find?_some hleader)
  obtain ⟨member, hmember, rfl⟩ := List.mem_map.mp hmem
  have hfirst :=
    List.all_eq_true.mp hclear member (List.mem_filter.mp hmember).1
  have hbelow : family.stride * round ≤ family.stride * family.count :=
    Nat.mul_le_mul_left _ (Nat.le_of_lt hround)
  rw [Nat.add_sub_cancel_left] at hother ⊢
  simp only [Bool.or_eq_true, Bool.and_eq_true, decide_eq_true_eq] at hfirst
  rcases hfirst with (⟨hlow, hhigh⟩ | ⟨hlow, hhigh⟩) | ⟨hcount, halpha⟩
  · rw [toNat_ofNat (.inl (by omega))] at hother
    omega
  · rw [toNat_ofNat (.inr (by omega))] at hother
    omega
  · have hround : round = 0 := by omega
    simpa [hround] using halpha

private theorem ascii_isClear :
    ((List.range 128).all fun code =>
      (companions (Char.ofNat code)).all fun d =>
      128 ≤ d.toNat || d.isAlpha) = true := by
  decide +kernel

theorem isAlpha_of_mem_companions {c d : Char} (h : d ∈ companions c)
    (hd : d.toNat < 128) : d.isAlpha := by
  by_cases hc : c.toNat < 128
  · have hclear :=
      List.all_eq_true.mp ascii_isClear c.toNat (List.mem_range.mpr hc)
    rw [Char.ofNat_toNat] at hclear
    have hletter := List.all_eq_true.mp hclear d h
    rw [Bool.or_eq_true, decide_eq_true_eq] at hletter
    exact hletter.resolve_left (by omega)
  · rw [companions, if_neg hc] at h
    obtain ⟨code, hcode, rfl⟩ := List.mem_map.mp h
    cases hfound : families.findSome? fun family =>
        family.companions? c.toNat with
    | none => simp [hfound] at hcode
    | some others =>
        rw [hfound] at hcode
        obtain ⟨family, hfamily, hothers⟩ :=
          List.exists_of_findSome?_eq_some hfound
        have hclear := families_isClear family hfamily
        exact isAlpha_of_mem_family hclear hothers hcode hd

end Signpost.Unicode.CaseOrbit
