import ClusterDeploy.Text.Utf8
/-!
# UTF-8 that was encoded here

Reading the octets of a text gives that text back: no character is encoded in a form that the
ranges of the second octet refuse.
-/
namespace ClusterDeploy.Text

theorem octets_loop (bs : ByteArray) (i : Nat) (seen : List UInt8) :
    ByteArray.toList.loop bs i seen = seen.reverse ++ bs.data.toList.drop i := by
  fun_induction ByteArray.toList.loop bs i seen with
  | case1 i seen h ih =>
    have hi : i < bs.data.toList.length := h
    have hget : bs.get! i = bs.data.toList[i] := by
      simp [ByteArray.get!, h]
    rw [ih, List.drop_eq_getElem_cons hi, hget]
    simp
  | case2 i seen h =>
    have hi : bs.data.toList.length ≤ i := Nat.le_of_not_lt h
    rw [List.drop_eq_nil_of_le hi, List.append_nil]

theorem encodeUtf8_eq (s : String) : encodeUtf8 s = s.toList.flatMap String.utf8EncodeChar := by
  have hbytes : s.toUTF8 = (s.toList.flatMap String.utf8EncodeChar).toByteArray :=
    String.utf8Encode_toList.symm
  rw [encodeUtf8, hbytes, ByteArray.toList, octets_loop]
  simp [List.data_toByteArray]

/-! ## Characters and octets as numbers -/

/-- What holds of every number below 128 holds of every ASCII character. -/
theorem forall_ascii {P : Char → Prop} (h : ∀ n < 128, P (Char.ofNat n)) {c : Char}
    (hc : c.toNat < 128) : P c :=
  Char.ofNat_toNat c ▸ h c.toNat hc

theorem toNat_octet {n : Nat} (h : n < 256) : (UInt8.ofNat n).toNat = n := by
  rw [UInt8.toNat_ofNat', Nat.mod_eq_of_lt h]

theorem leadWidth_eq (b : UInt8) :
    leadWidth b =
      if b.toNat < 0x80 then 1
      else if 0xC2 ≤ b.toNat ∧ b.toNat ≤ 0xDF then 2
      else if 0xE0 ≤ b.toNat ∧ b.toNat ≤ 0xEF then 3
      else if 0xF0 ≤ b.toNat ∧ b.toNat ≤ 0xF4 then 4
      else 0 := by
  simp only [leadWidth, Bool.and_eq_true, decide_eq_true_eq, UInt8.lt_iff_toNat_lt,
    UInt8.le_iff_toNat_le]
  rfl

theorem secondRange_eq (b : UInt8) :
    secondRange b =
      if b.toNat = 0xE0 then (0xA0, 0xBF)
      else if b.toNat = 0xED then (0x80, 0x9F)
      else if b.toNat = 0xF0 then (0x90, 0xBF)
      else if b.toNat = 0xF4 then (0x80, 0x8F)
      else (0x80, 0xBF) := by
  simp only [secondRange, beq_iff_eq, ← UInt8.toNat_inj]
  rfl

theorem isTail_octet (n : Nat) : isTail (UInt8.ofNat (n % 64 + 128)) = true := by
  simp only [isTail, Bool.and_eq_true, decide_eq_true_eq, UInt8.le_iff_toNat_le]
  rw [toNat_octet (by omega)]
  change 128 ≤ _ ∧ _ ≤ 191
  omega

theorem addTail_octet (m n : Nat) : addTail m (UInt8.ofNat (n % 64 + 128)) = m * 64 + n % 64 := by
  rw [addTail, toNat_octet (by omega)]
  omega

/-! ## One character -/

section Heads

variable {n : Nat} {rest : List UInt8}

theorem utf8Head_one (h : n ≤ 0x7f) : utf8Head (.ofNat n) rest = .char (Char.ofNat n) 1 := by
  have hlead : (UInt8.ofNat n).toNat = n := toNat_octet (by omega)
  have hwidth : leadWidth (UInt8.ofNat n) = 1 := by
    rw [leadWidth_eq, hlead, if_pos (by omega)]
  simp only [utf8Head, hwidth, hlead]

theorem utf8Head_two (low : 0x7f < n) (high : n ≤ 0x7ff) :
    utf8Head (.ofNat (n / 64 % 0x20 + 0xc0)) (.ofNat (n % 0x40 + 0x80) :: rest) =
      .char (Char.ofNat n) 2 := by
  have hlead : (UInt8.ofNat (n / 64 % 0x20 + 0xc0)).toNat = n / 64 + 0xc0 := by
    rw [toNat_octet (by omega)]
    omega
  have hwidth : leadWidth (UInt8.ofNat (n / 64 % 0x20 + 0xc0)) = 2 := by
    rw [leadWidth_eq, hlead, if_neg (by omega), if_pos (by omega)]
  have hread : (n / 64 + 0xc0) % 32 * 64 + n % 64 = n := by omega
  simp only [utf8Head, hwidth, isTail_octet, if_true, addTail_octet, hlead, hread]

/-- The lead octets E0 and ED narrow the range of the second octet: below and above it stand the
overlong forms and the surrogates. -/
theorem utf8Head_three (low : 0x7ff < n) (high : n ≤ 0xffff)
    (valid : n < 0xD800 ∨ 0xDFFF < n) :
    utf8Head (.ofNat (n / 4096 % 0x10 + 0xe0))
        (.ofNat (n / 64 % 0x40 + 0x80) :: .ofNat (n % 0x40 + 0x80) :: rest) =
      .char (Char.ofNat n) 3 := by
  have hlead : (UInt8.ofNat (n / 4096 % 0x10 + 0xe0)).toNat = n / 4096 + 0xe0 := by
    rw [toNat_octet (by omega)]
    omega
  have hwidth : leadWidth (UInt8.ofNat (n / 4096 % 0x10 + 0xe0)) = 3 := by
    rw [leadWidth_eq, hlead, if_neg (by omega), if_neg (by omega), if_pos (by omega)]
  have hsecond : (UInt8.ofNat (n / 64 % 0x40 + 0x80)).toNat = n / 64 % 64 + 0x80 :=
    toNat_octet (by omega)
  have hrange : (secondRange (UInt8.ofNat (n / 4096 % 0x10 + 0xe0))).1 ≤
        UInt8.ofNat (n / 64 % 0x40 + 0x80) ∧
      UInt8.ofNat (n / 64 % 0x40 + 0x80) ≤
        (secondRange (UInt8.ofNat (n / 4096 % 0x10 + 0xe0))).2 := by
    rw [secondRange_eq, hlead, UInt8.le_iff_toNat_le, UInt8.le_iff_toNat_le, hsecond]
    repeat' split
    all_goals simp
    all_goals omega
  have hread : ((n / 4096 + 0xe0) % 16 * 64 + n / 64 % 64) * 64 + n % 64 = n := by omega
  simp only [utf8Head, hwidth, hrange, decide_true, Bool.and_self, if_true, isTail_octet,
    addTail_octet, hlead, hread]

/-- The lead octets F0 and F4 narrow the range of the second octet: below and above it stand the
overlong forms and what is no character any more. -/
theorem utf8Head_four (low : 0xffff < n) (high : n < 0x110000) :
    utf8Head (.ofNat (n / 262144 % 0x08 + 0xf0))
        (.ofNat (n / 4096 % 0x40 + 0x80) :: .ofNat (n / 64 % 0x40 + 0x80) ::
          .ofNat (n % 0x40 + 0x80) :: rest) =
      .char (Char.ofNat n) 4 := by
  have hlead : (UInt8.ofNat (n / 262144 % 0x08 + 0xf0)).toNat = n / 262144 + 0xf0 := by
    rw [toNat_octet (by omega)]
    omega
  have hwidth : leadWidth (UInt8.ofNat (n / 262144 % 0x08 + 0xf0)) = 4 := by
    rw [leadWidth_eq, hlead, if_neg (by omega), if_neg (by omega), if_neg (by omega),
      if_pos (by omega)]
  have hsecond : (UInt8.ofNat (n / 4096 % 0x40 + 0x80)).toNat = n / 4096 % 64 + 0x80 :=
    toNat_octet (by omega)
  have hrange : (secondRange (UInt8.ofNat (n / 262144 % 0x08 + 0xf0))).1 ≤
        UInt8.ofNat (n / 4096 % 0x40 + 0x80) ∧
      UInt8.ofNat (n / 4096 % 0x40 + 0x80) ≤
        (secondRange (UInt8.ofNat (n / 262144 % 0x08 + 0xf0))).2 := by
    rw [secondRange_eq, hlead, UInt8.le_iff_toNat_le, UInt8.le_iff_toNat_le, hsecond]
    repeat' split
    all_goals simp
    all_goals omega
  have hread : (((n / 262144 + 0xf0) % 8 * 64 + n / 4096 % 64) * 64 + n / 64 % 64) * 64 + n % 64 =
      n := by omega
  simp only [utf8Head, hwidth, hrange, decide_true, Bool.and_self, if_true, isTail_octet,
    addTail_octet, hlead, hread]

end Heads

/-- The octets of one character are read as that character, whatever follows them. -/
theorem utf8Head_char (c : Char) (rest : List UInt8) :
    ∃ lead tail, String.utf8EncodeChar c = lead :: tail ∧
      utf8Head lead (tail ++ rest) = .char c (tail.length + 1) := by
  have hc : Char.ofNat c.toNat = c := Char.ofNat_toNat c
  have hvalid : c.toNat < 0xD800 ∨ 0xDFFF < c.toNat ∧ c.toNat < 0x110000 := c.valid
  have hval : c.val.toNat = c.toNat := rfl
  unfold String.utf8EncodeChar
  rw [hval]
  by_cases h1 : c.toNat ≤ 0x7f
  · exact ⟨_, _, if_pos h1, by rw [utf8Head_one h1, hc]; rfl⟩
  rw [if_neg h1]
  by_cases h2 : c.toNat ≤ 0x7ff
  · refine ⟨_, _, if_pos h2, ?_⟩
    rw [List.cons_append, utf8Head_two (by omega) h2, hc]
    rfl
  rw [if_neg h2]
  by_cases h3 : c.toNat ≤ 0xffff
  · refine ⟨_, _, if_pos h3, ?_⟩
    rw [List.cons_append, List.cons_append, utf8Head_three (by omega) h3 (by omega), hc]
    rfl
  · refine ⟨_, _, if_neg h3, ?_⟩
    rw [List.cons_append, List.cons_append, List.cons_append, utf8Head_four (by omega) (by omega),
      hc]
    rfl

/-! ## A whole text -/

theorem decodeFrom_skip (index : Nat) (passed rest : List UInt8) :
    decodeFrom index passed.length (passed ++ rest) =
      decodeFrom (index + passed.length) 0 rest := by
  induction passed generalizing index with
  | nil => rfl
  | cons b more ih =>
    rw [List.length_cons, List.cons_append, decodeFrom, ih]
    congr 1
    omega

theorem decodeFrom_flatMap (index : Nat) (cs : List Char) :
    decodeFrom index 0 (cs.flatMap String.utf8EncodeChar) = .ok cs := by
  induction cs generalizing index with
  | nil => rfl
  | cons c more ih =>
    obtain ⟨lead, tail, hoctets, hhead⟩ := utf8Head_char c (more.flatMap String.utf8EncodeChar)
    rw [List.flatMap_cons, hoctets, List.cons_append, decodeFrom, hhead]
    simp only [Nat.add_sub_cancel]
    rw [decodeFrom_skip, ih]
    rfl

/-- What is written as UTF-8 is read back. -/
theorem decodeUtf8_encodeUtf8 (s : String) : decodeUtf8 (encodeUtf8 s) = .ok s.toList := by
  rw [encodeUtf8_eq]
  exact decodeFrom_flatMap 0 s.toList

/-- Where nothing is wrong, nothing is replaced. -/
theorem decodeLossyFrom_eq {index skip : Nat} {octets : List UInt8} {cs : List Char}
    (h : decodeFrom index skip octets = .ok cs) : decodeLossyFrom skip octets = cs := by
  induction octets generalizing index skip cs with
  | nil =>
    cases skip <;> exact Except.ok.inj h
  | cons b rest ih =>
    cases skip with
    | succ skip => exact ih h
    | zero =>
      rw [decodeFrom] at h
      rw [decodeLossyFrom]
      cases hhead : utf8Head b rest with
      | wrong width => simp [hhead] at h
      | cut => simp [hhead] at h
      | char c width =>
        rw [hhead] at h
        dsimp only at h ⊢
        cases hrest : decodeFrom (index + 1) (width - 1) rest with
        | error fault => simp [hrest, Except.map] at h
        | ok more =>
          rw [hrest] at h
          rw [ih hrest]
          exact Except.ok.inj h

theorem decodeLossy_encodeUtf8 (s : String) : decodeLossy (encodeUtf8 s) = s := by
  rw [decodeLossy, decodeLossyFrom_eq (decodeUtf8_encodeUtf8 s), String.ofList_toList]

end ClusterDeploy.Text
