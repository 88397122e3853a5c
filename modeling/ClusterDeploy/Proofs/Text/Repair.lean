import ClusterDeploy.Proofs.Text.Upper
import ClusterDeploy.Proofs.Text.Utf8
import ClusterDeploy.Text.Blank
/-!
# Text read leniently and written again

Octets that are UTF-8 are the octets of the text they spell, so reading them leniently and writing
the text gives them back. From all other octets a replacement character comes in, and they do not
come back.
-/
namespace ClusterDeploy.Text

def repaired (octets : List UInt8) : List UInt8 := encodeUtf8 (decodeLossy octets)

/-! ## One character -/

theorem octet_eq {n : Nat} {b : UInt8} (h : n = b.toNat) : UInt8.ofNat n = b := by
  rw [h, UInt8.ofNat_toNat]

theorem tail_bounds {b : UInt8} (h : isTail b = true) : 128 ≤ b.toNat ∧ b.toNat ≤ 191 := by
  simp only [isTail, Bool.and_eq_true, decide_eq_true_eq, UInt8.le_iff_toNat_le] at h
  exact h

/-- What the range of the second octet rules out: overlong forms, surrogates, and what is above the
last character. -/
theorem second_bounds {lead b : UInt8}
    (h : (decide ((secondRange lead).1 ≤ b) && decide (b ≤ (secondRange lead).2)) = true) :
    128 ≤ b.toNat ∧ b.toNat ≤ 191 ∧ (lead.toNat = 0xE0 → 160 ≤ b.toNat) ∧
      (lead.toNat = 0xED → b.toNat ≤ 159) ∧ (lead.toNat = 0xF0 → 144 ≤ b.toNat) ∧
      (lead.toNat = 0xF4 → b.toNat ≤ 143) := by
  simp only [Bool.and_eq_true, decide_eq_true_eq, UInt8.le_iff_toNat_le, secondRange_eq] at h
  repeat' split at h
  all_goals simp at h
  all_goals omega

section Encodings

variable {n : Nat}

theorem encode_one (h : n ≤ 0x7f) : String.utf8EncodeChar (Char.ofNat n) = [UInt8.ofNat n] := by
  have hval : (Char.ofNat n).val.toNat = n := toNat_ofNat (.inl (by omega))
  unfold String.utf8EncodeChar
  rw [hval]
  exact if_pos h

theorem encode_two (low : 0x7f < n) (high : n ≤ 0x7ff) :
    String.utf8EncodeChar (Char.ofNat n) =
      [UInt8.ofNat (n / 64 % 32 + 192), UInt8.ofNat (n % 64 + 128)] := by
  have hval : (Char.ofNat n).val.toNat = n := toNat_ofNat (.inl (by omega))
  unfold String.utf8EncodeChar
  rw [hval]
  exact (if_neg (by omega)).trans (if_pos high)

theorem encode_three (low : 0x7ff < n) (high : n ≤ 0xffff) (valid : n < 0xD800 ∨ 0xDFFF < n) :
    String.utf8EncodeChar (Char.ofNat n) =
      [UInt8.ofNat (n / 4096 % 16 + 224), UInt8.ofNat (n / 64 % 64 + 128),
        UInt8.ofNat (n % 64 + 128)] := by
  have hvalid : n.isValidChar := by
    unfold Nat.isValidChar
    omega
  have hval : (Char.ofNat n).val.toNat = n := toNat_ofNat hvalid
  unfold String.utf8EncodeChar
  rw [hval]
  exact (if_neg (by omega)).trans ((if_neg (by omega)).trans (if_pos high))

theorem encode_four (low : 0xffff < n) (high : n < 0x110000) :
    String.utf8EncodeChar (Char.ofNat n) =
      [UInt8.ofNat (n / 262144 % 8 + 240), UInt8.ofNat (n / 4096 % 64 + 128),
        UInt8.ofNat (n / 64 % 64 + 128), UInt8.ofNat (n % 64 + 128)] := by
  have hvalid : n.isValidChar := by
    unfold Nat.isValidChar
    omega
  have hval : (Char.ofNat n).val.toNat = n := toNat_ofNat hvalid
  unfold String.utf8EncodeChar
  rw [hval]
  exact (if_neg (by omega)).trans ((if_neg (by omega)).trans (if_neg (by omega)))

end Encodings

theorem encode_of_utf8Head {lead : UInt8} {rest : List UInt8} {c : Char} {width : Nat}
    (h : utf8Head lead rest = .char c width) :
    String.utf8EncodeChar c = lead :: rest.take (width - 1) := by
  have hwidth := leadWidth_eq lead
  unfold utf8Head at h
  dsimp only at h
  split at h
  · next hone =>
    obtain ⟨rfl, rfl⟩ := Utf8Head.char.inj h
    rw [hone] at hwidth
    rw [encode_one (by split at hwidth <;> grind), UInt8.ofNat_toNat]
    rfl
  · next htwo =>
    rw [htwo] at hwidth
    have hlead : 0xC2 ≤ lead.toNat ∧ lead.toNat ≤ 0xDF := by grind
    split at h
    · cases h
    split at h
    · next b more hb =>
      obtain ⟨rfl, rfl⟩ := Utf8Head.char.inj h
      have hb := tail_bounds hb
      unfold addTail
      rw [encode_two (by omega) (by omega), octet_eq (b := lead) (by omega),
        octet_eq (b := b) (by omega)]
      rfl
    · cases h
  · next hthree =>
    rw [hthree] at hwidth
    have hlead : 0xE0 ≤ lead.toNat ∧ lead.toNat ≤ 0xEF := by grind
    split at h
    · cases h
    split at h
    · next b more hb =>
      split at h
      · cases h
      split at h
      · next c more hc =>
        obtain ⟨rfl, rfl⟩ := Utf8Head.char.inj h
        have hb := second_bounds hb
        have hc := tail_bounds hc
        unfold addTail
        rw [encode_three (by omega) (by omega) (by omega), octet_eq (b := lead) (by omega),
          octet_eq (b := b) (by omega), octet_eq (b := c) (by omega)]
        rfl
      · cases h
    · cases h
  · next hfour =>
    rw [hfour] at hwidth
    have hlead : 0xF0 ≤ lead.toNat ∧ lead.toNat ≤ 0xF4 := by grind
    split at h
    · cases h
    split at h
    · next b more hb =>
      split at h
      · cases h
      split at h
      · next c more hc =>
        split at h
        · cases h
        split at h
        · next d more hd =>
          obtain ⟨rfl, rfl⟩ := Utf8Head.char.inj h
          have hb := second_bounds hb
          have hc := tail_bounds hc
          have hd := tail_bounds hd
          unfold addTail
          rw [encode_four (by omega) (by omega), octet_eq (b := lead) (by omega),
            octet_eq (b := b) (by omega), octet_eq (b := c) (by omega),
            octet_eq (b := d) (by omega)]
          rfl
        · cases h
      · cases h
    · cases h
  · cases h

/-! ## A whole text -/

theorem flatMap_of_decodeFrom {index skip : Nat} {octets : List UInt8} {cs : List Char}
    (h : decodeFrom index skip octets = .ok cs) :
    cs.flatMap String.utf8EncodeChar = octets.drop skip := by
  induction octets generalizing index skip cs with
  | nil =>
    cases skip <;> cases h <;> rfl
  | cons b rest ih =>
    cases skip with
    | succ skip => exact ih h
    | zero =>
      rw [decodeFrom] at h
      cases hhead : utf8Head b rest with
      | wrong width => simp [hhead] at h
      | cut => simp [hhead] at h
      | char c width =>
        rw [hhead] at h
        dsimp only at h
        cases hrest : decodeFrom (index + 1) (width - 1) rest with
        | error fault => simp [hrest, Except.map] at h
        | ok more =>
          rw [hrest] at h
          obtain rfl := Except.ok.inj h
          rw [List.flatMap_cons, encode_of_utf8Head hhead, ih hrest, List.cons_append,
            List.take_append_drop]
          rfl

/-- What was read as UTF-8 is written as the same octets. -/
theorem encodeUtf8_of_decodeUtf8 {octets : List UInt8} {cs : List Char}
    (h : decodeUtf8 octets = .ok cs) : encodeUtf8 (String.ofList cs) = octets := by
  rw [encodeUtf8_eq, String.toList_ofList]
  exact flatMap_of_decodeFrom h

/-- Only octets that are UTF-8 come back as they were. -/
theorem repaired_eq_iff {octets : List UInt8} :
    repaired octets = octets ↔ ∃ cs, decodeUtf8 octets = .ok cs := by
  constructor
  · intro h
    rw [← h, repaired, decodeUtf8_encodeUtf8]
    exact ⟨_, rfl⟩
  · rintro ⟨cs, h⟩
    rw [repaired, decodeLossy, decodeLossyFrom_eq h, encodeUtf8_of_decodeUtf8 h]

/-- A fault leaves a replacement character in the text. -/
theorem mem_decodeLossyFrom {index skip : Nat} {octets : List UInt8} {fault : Utf8Fault}
    (h : decodeFrom index skip octets = .error fault) :
    '\uFFFD' ∈ decodeLossyFrom skip octets := by
  induction octets generalizing index skip fault with
  | nil => cases skip <;> cases h
  | cons b rest ih =>
    cases skip with
    | succ skip => exact ih h
    | zero =>
      rw [decodeFrom] at h
      rw [decodeLossyFrom]
      cases hhead : utf8Head b rest with
      | wrong width => exact List.mem_cons_self
      | cut => exact List.mem_cons_self
      | char c width =>
        rw [hhead] at h
        dsimp only at h ⊢
        cases hrest : decodeFrom (index + 1) (width - 1) rest with
        | ok more => simp [hrest, Except.map] at h
        | error fault => exact List.mem_cons_of_mem _ (ih hrest)

theorem decodeUtf8_of_blank {octets : List UInt8} (h : isBlankText (decodeLossy octets) = true) :
    ∃ cs, decodeUtf8 octets = .ok cs := by
  cases hdecode : decodeUtf8 octets with
  | ok cs => exact ⟨cs, rfl⟩
  | error fault =>
    have hmem := mem_decodeLossyFrom hdecode
    rw [decodeLossy, isBlankText, String.toList_ofList] at h
    exact absurd (List.all_eq_true.mp h _ hmem) (by decide)

end ClusterDeploy.Text
