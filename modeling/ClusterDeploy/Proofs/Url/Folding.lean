import ClusterDeploy.Proofs.Text.Upper
import ClusterDeploy.Proofs.Text.Utf8
import ClusterDeploy.Url.Folding
/-!
# Folding once

What a character of a host name is folded to stays as it is when it is folded again: no entry of the
tables leads to a character that has an entry itself.
-/
namespace ClusterDeploy.Url

open Text

def runCodes (r : CaseRun) : List Nat :=
  (List.range ((r.last - r.first) / r.step + 1)).map fun k => r.first + r.step * k

theorem mem_runCodes {r : CaseRun} {n : Nat} (h : r.covers n = true) : n ∈ runCodes r := by
  simp only [CaseRun.covers, Bool.and_eq_true, decide_eq_true_eq, beq_iff_eq] at h
  obtain ⟨⟨hfirst, hlast⟩, hstep⟩ := h
  refine List.mem_map.mpr ⟨(n - r.first) / r.step, ?_, ?_⟩
  · have hle := Nat.div_le_div_right (c := r.step) (Nat.sub_le_sub_right hlast r.first)
    exact List.mem_range.mpr (Nat.lt_succ_of_le hle)
  · rw [Nat.mul_div_cancel' (Nat.dvd_of_mod_eq_zero hstep)]
    omega

def bitsOf (codes : List Nat) : Nat := codes.foldr (fun code bits => bits ||| 1 <<< code) 0

theorem testBit_bitsOf {codes : List Nat} {n : Nat} (h : n ∈ codes) :
    (bitsOf codes).testBit n = true := by
  induction codes with
  | nil => cases h
  | cons code more ih =>
    rw [bitsOf, List.foldr_cons, ← bitsOf, Nat.testBit_or, Bool.or_eq_true]
    rcases List.mem_cons.mp h with rfl | h
    · exact .inr (by simp [Nat.testBit_shiftLeft])
    · exact .inl (ih h)

def foldCodes : List Nat := foldSpecial.map (·.1) ++ foldRuns.flatMap runCodes

-- A look-up in the tables walks over them, so the check asks for a bit instead.
def isSettledCode (n : Nat) : Bool :=
  (n < 0xD800 || (0xDFFF < n && n < 0x110000)) && (n < 65 || 90 < n) && !isInvisible n &&
    !(bitsOf foldCodes).testBit n

theorem foldSpecial_settled : ∀ e ∈ foldSpecial, ∀ code ∈ e.2, isSettledCode code = true := by
  decide +kernel

theorem foldRuns_settled :
    ∀ r ∈ foldRuns, ∀ n ∈ runCodes r, isSettledCode (n + r.shift).toNat = true := by
  decide +kernel

theorem toLower_eq_self {c : Char} (h : c.toNat < 65 ∨ 90 < c.toNat) : c.toLower = c := by
  have hupper : ¬ ('A'.val ≤ c.val ∧ c.val ≤ 'Z'.val) := by
    rintro ⟨hlow, hhigh⟩
    have hlow : 65 ≤ c.val.toNat := UInt32.le_iff_toNat_le.mp hlow
    have hhigh : c.val.toNat ≤ 90 := UInt32.le_iff_toNat_le.mp hhigh
    change c.val.toNat < 65 ∨ 90 < c.val.toNat at h
    omega
  delta Char.toLower
  rw [dif_neg hupper]

theorem foldChar_of_lt {c : Char} (h : c.toNat < 0x80) : foldChar c = [c.toLower] := by
  rw [foldChar]
  exact if_pos h

theorem foldChar_settled {n : Nat} (h : isSettledCode n = true) :
    foldChar (Char.ofNat n) = [Char.ofNat n] := by
  simp only [isSettledCode, Bool.and_eq_true, Bool.or_eq_true, decide_eq_true_eq,
    Bool.not_eq_true'] at h
  obtain ⟨⟨⟨hvalid, hupper⟩, hvisible⟩, hbits⟩ := h
  have hn : (Char.ofNat n).toNat = n := toNat_ofNat hvalid
  have hcodes : n ∉ foldCodes := fun hmem => by
    rw [testBit_bitsOf hmem] at hbits
    cases hbits
  rw [foldCodes, List.mem_append, not_or] at hcodes
  have hspecial : foldSpecial.find? (fun e => e.1 == n) = none := by
    rw [List.find?_eq_none]
    intro e he heq
    exact hcodes.1 (List.mem_map.mpr ⟨e, he, by simpa using heq⟩)
  have hruns : foldRuns.find? (fun r => r.covers n) = none := by
    rw [List.find?_eq_none]
    intro r hr hcovers
    exact hcodes.2 (List.mem_flatMap.mpr ⟨r, hr, mem_runCodes hcovers⟩)
  by_cases hascii : n < 0x80
  · rw [foldChar_of_lt (by rwa [hn]), toLower_eq_self (by rwa [hn])]
  · simp only [foldChar, hn, if_neg hascii, hvisible, hspecial, hruns]
    rfl

/-- Folding a second time changes nothing. -/
theorem foldChar_folded {c d : Char} (h : d ∈ foldChar c) : foldChar d = [d] := by
  by_cases hascii : c.toNat < 0x80
  · rw [foldChar_of_lt hascii, List.mem_singleton] at h
    exact h ▸ forall_ascii (P := fun c => foldChar c.toLower = [c.toLower]) (by decide) hascii
  rw [foldChar, if_neg hascii] at h
  split at h
  · cases h
  split at h
  · next hfind =>
    obtain ⟨code, hcode, rfl⟩ := List.mem_map.mp h
    exact foldChar_settled (foldSpecial_settled _ (List.mem_of_find?_eq_some hfind) code hcode)
  split at h
  · next hfind =>
    obtain rfl := List.mem_singleton.mp h
    have hcovers := List.find?_some hfind
    exact foldChar_settled
      (foldRuns_settled _ (List.mem_of_find?_eq_some hfind) _ (mem_runCodes hcovers))
  · next hvisible _ hspecial _ hruns =>
    obtain rfl := List.mem_singleton.mp h
    simp only [foldChar, if_neg hascii, hvisible, hspecial, hruns]
    rfl

end ClusterDeploy.Url
