import ClusterDeploy.Text.Upper
/-!
# Upper case and marks

Upper case brings nothing but letters into a text, and takes nothing but letters out of it. So the
marks that give a line its structure, which come before the letters, stay where they are and no
others appear.
-/
namespace ClusterDeploy.Text

theorem upperRuns_letters : ∀ r ∈ upperRuns, 65 ≤ r.first + r.shift ∧
    (r.last + r.shift < 0xD800 ∨ 0xDFFF < r.first + r.shift ∧ r.last + r.shift < 0x110000) := by
  decide +kernel

theorem upperSpecial_letters : ∀ e ∈ upperSpecial, ∀ code ∈ e.2, 65 ≤ (Char.ofNat code).toNat := by
  decide +kernel

theorem toNat_ofNat {n : Nat} (h : n.isValidChar) : (Char.ofNat n).toNat = n := by
  rw [Char.ofNat, dif_pos h]
  rfl

theorem CaseRun.letter {r : CaseRun} {n : Nat} (hr : r ∈ upperRuns) (hn : r.covers n) :
    65 ≤ (Char.ofNat (n + r.shift).toNat).toNat := by
  obtain ⟨hletter, hexists⟩ := upperRuns_letters r hr
  simp only [covers, Bool.and_eq_true, decide_eq_true_eq] at hn
  obtain ⟨⟨hfirst, hlast⟩, -⟩ := hn
  have hvalid : (n + r.shift).toNat.isValidChar := by
    unfold Nat.isValidChar
    omega
  rw [toNat_ofNat hvalid]
  omega

theorem toUpper_cases (c : Char) : c.toUpper = c ∨ 97 ≤ c.toNat ∧ 65 ≤ c.toUpper.toNat := by
  by_cases hlower : 'a'.val ≤ c.val ∧ c.val ≤ 'z'.val
  · right
    have hlow : 97 ≤ c.val.toNat := UInt32.le_iff_toNat_le.mp hlower.1
    have hhigh : c.val.toNat ≤ 122 := UInt32.le_iff_toNat_le.mp hlower.2
    have hshift : ('A'.val - 'a'.val).toNat = 2 ^ 32 - 32 := rfl
    refine ⟨hlow, ?_⟩
    delta Char.toUpper
    rw [dif_pos hlower]
    change 65 ≤ (c.val + ('A'.val - 'a'.val)).toNat
    rw [UInt32.toNat_add, hshift]
    omega
  · left
    delta Char.toUpper
    rw [dif_neg hlower]

theorem mem_upperChar {c d : Char} (h : d ∈ upperChar c) : d = c ∨ 65 ≤ d.toNat := by
  unfold upperChar at h
  dsimp only at h
  split at h
  · obtain rfl := List.mem_singleton.mp h
    exact (toUpper_cases c).imp_right And.right
  split at h
  · next hfind =>
    obtain ⟨code, hcode, rfl⟩ := List.mem_map.mp h
    exact .inr (upperSpecial_letters _ (List.mem_of_find?_eq_some hfind) code hcode)
  split at h
  · next hfind =>
    obtain rfl := List.mem_singleton.mp h
    have hcovers := List.find?_some hfind
    exact .inr (CaseRun.letter (List.mem_of_find?_eq_some hfind) hcovers)
  · exact .inl (List.mem_singleton.mp h)

/-- What comes before the letters is neither added nor taken away. -/
theorem mem_upper_iff {c : Char} {cs : List Char} (h : c.toNat < 65) : c ∈ upper cs ↔ c ∈ cs := by
  constructor
  · intro hc
    obtain ⟨d, hd, hc⟩ := List.mem_flatMap.mp hc
    rcases mem_upperChar hc with rfl | hletter
    · exact hd
    · omega
  · intro hc
    have hlow : c.toNat < 0x80 := by omega
    have hsame : c.toUpper = c := (toUpper_cases c).resolve_right (by omega)
    exact List.mem_flatMap.mpr ⟨c, hc, by simp [upperChar, hlow, hsame]⟩

end ClusterDeploy.Text
