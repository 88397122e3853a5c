import ClusterDeploy.Proofs.Text.Pieces
import ClusterDeploy.Url.Punycode
import Mathlib.Tactic.Ring
/-!
# Reading encoded labels back

The encoder walks over the label once for every character beyond ASCII, in ascending order; the
decoder inserts one character per difference. Both count the same steps: a character `m` before
which `i` of the characters read so far stand is the step `m * (length + 1) + i`, and what the
encoder has counted since its last difference is how far it is ahead of the decoder.
-/
namespace ClusterDeploy.Url.Punycode

/-! ## One difference -/

def digitChars : List Char := "abcdefghijklmnopqrstuvwxyz0123456789".toList

theorem digitChar_mem {d : Nat} (h : d < 36) : digitChar d ∈ digitChars := by
  decide +revert

theorem digitValue_digitChar {d : Nat} (h : d < 36) : digitValue (digitChar d) = some d := by
  decide +revert

theorem writeDelta_subset (bias k q : Nat) : writeDelta bias k q ⊆ digitChars := by
  fun_induction writeDelta bias k q
  case case1 k q t hlast =>
    have hle := threshold_le k bias
    have hdigit := digitChar_mem (show q < 36 by omega)
    simpa using hdigit
  case case2 k q t hmore ih =>
    have hpos := threshold_pos k bias
    have hle := threshold_le k bias
    have hmod := Nat.mod_lt (q - t) (show 0 < 36 - t by omega)
    exact List.cons_subset.mpr ⟨digitChar_mem (by omega), ih⟩

theorem writeDelta_ne_nil (bias k q : Nat) : writeDelta bias k q ≠ [] := by
  rw [writeDelta]
  split <;> simp

/-- The digits come in with the weight and the value that are reached so far. -/
theorem readDelta_writeDelta (bias k q weight value : Nat) (rest : List Char) :
    readDelta bias k weight value (writeDelta bias k q ++ rest) =
      some (value + q * weight, rest) := by
  fun_induction writeDelta bias k q generalizing weight value with
  | case1 k q t hlast =>
    have hle := threshold_le k bias
    have hdigit := digitValue_digitChar (show q < 36 by omega)
    simp only [List.cons_append, List.nil_append, readDelta, hdigit]
    rw [if_pos hlast]
  | case2 k q t hmore ih =>
    have hpos := threshold_pos k bias
    have hle := threshold_le k bias
    have hmod := Nat.mod_lt (q - t) (show 0 < 36 - t by omega)
    have hdigit := digitValue_digitChar (show t + (q - t) % (36 - t) < 36 by omega)
    simp only [List.cons_append, readDelta, hdigit]
    rw [if_neg (by omega), ih]
    have hsplit : q = t + (q - t) % (36 - t) + (q - t) / (36 - t) * (36 - t) := by
      have := Nat.mod_add_div' (q - t) (36 - t)
      omega
    have hweight : value + (t + (q - t) % (36 - t)) * weight +
        (q - t) / (36 - t) * (weight * (36 - t)) = value + q * weight := by
      calc value + (t + (q - t) % (36 - t)) * weight + (q - t) / (36 - t) * (weight * (36 - t))
          = value + (t + (q - t) % (36 - t) + (q - t) / (36 - t) * (36 - t)) * weight := by ring
        _ = value + q * weight := by rw [← hsplit]
    exact congrArg (fun v => some (v, rest)) hweight

/-! ## The decoder step by step -/

/-- The state of the decoder: the last character and the place after it, the bias, and what is
decoded so far. -/
structure Decoder where
  next : Nat
  index : Nat
  bias : Nat
  out : List Nat

def Decoder.run (fuel : Nat) (d : Decoder) (digits : List Char) : Option (List Nat) :=
  decodeFrom fuel d.next d.index d.bias d.out digits

/-- Reading the digits takes the decoder from one state to the other, with no more fuel than there
are digits. -/
def Reads (d : Decoder) (digits : List Char) (d' : Decoder) : Prop :=
  ∃ steps ≤ digits.length, ∀ fuel rest, d.run (fuel + steps) (digits ++ rest) = d'.run fuel rest

theorem Reads.refl (d : Decoder) : Reads d [] d := ⟨0, le_rfl, fun _ _ => rfl⟩

theorem Reads.trans {d d' d'' : Decoder} {front back : List Char} (h : Reads d front d')
    (h' : Reads d' back d'') : Reads d (front ++ back) d'' := by
  obtain ⟨steps, hsteps, hrun⟩ := h
  obtain ⟨steps', hsteps', hrun'⟩ := h'
  refine ⟨steps' + steps, by rw [List.length_append]; omega, fun fuel rest => ?_⟩
  rw [List.append_assoc, ← Nat.add_assoc, hrun, hrun']

theorem Reads.out {d d' : Decoder} {digits : List Char} (h : Reads d digits d') :
    d.run digits.length digits = some d'.out := by
  obtain ⟨steps, hsteps, hrun⟩ := h
  have hrun := hrun (digits.length - steps) []
  rw [List.append_nil, Nat.sub_add_cancel hsteps] at hrun
  rw [hrun, Decoder.run]
  cases digits.length - steps <;> rfl

def Decoder.place (d : Decoder) : Nat := d.next * (d.out.length + 1) + d.index

def IsCode (m : Nat) : Prop := m ≤ 0x10FFFF ∧ ¬ (0xD800 ≤ m ∧ m ≤ 0xDFFF)

theorem isCode_toNat (c : Char) : IsCode c.toNat := by
  have hvalid : c.toNat < 0xD800 ∨ 0xDFFF < c.toNat ∧ c.toNat < 0x110000 := c.valid
  unfold IsCode
  omega

/-- One difference inserts one character, at the place that is as many steps ahead. -/
theorem Reads.insert {d : Decoder} {m i delta : Nat} (hcode : IsCode m) (hi : i ≤ d.out.length)
    (h : d.place + delta = m * (d.out.length + 1) + i) :
    Reads d (writeDelta d.bias 36 delta)
      { next := m, index := i + 1, bias := adapt delta (d.out.length + 1) (d.index == 0),
        out := insertAt i m d.out } := by
  refine ⟨1, List.length_pos_iff.mpr (writeDelta_ne_nil _ _ _), fun fuel rest => ?_⟩
  have hread := readDelta_writeDelta d.bias 36 delta 1 0 rest
  obtain ⟨c, more, hdigits⟩ := List.exists_cons_of_ne_nil (writeDelta_ne_nil d.bias 36 delta)
  rw [hdigits, List.cons_append] at hread
  -- The steps that are left, as whole rounds over the places and the rest of one.
  obtain ⟨rounds, hrounds⟩ : ∃ rounds, m = d.next + rounds := by
    refine Nat.exists_eq_add_of_le (Nat.le_of_lt_succ ?_)
    refine lt_of_mul_lt_mul_right (a := d.out.length + 1) ?_ (Nat.zero_le _)
    unfold Decoder.place at h
    rw [Nat.succ_mul]
    omega
  have hposition : d.index + delta = (d.out.length + 1) * rounds + i := by
    unfold Decoder.place at h
    rw [hrounds, Nat.add_mul, Nat.mul_comm rounds] at h
    omega
  have hnext : d.next + (d.index + delta) / (d.out.length + 1) = m := by
    rw [hposition, Nat.mul_add_div (Nat.succ_pos _), Nat.div_eq_of_lt (Nat.lt_succ_of_le hi),
      hrounds]
    rfl
  have hindex : (d.index + delta) % (d.out.length + 1) = i := by
    rw [hposition, Nat.mul_add_mod, Nat.mod_eq_of_lt (Nat.lt_succ_of_le hi)]
  have hvalid :
      (decide (0x10FFFF < m) || (decide (0xD800 ≤ m) && decide (m ≤ 0xDFFF))) = false := by
    unfold IsCode at hcode
    simp
    omega
  rw [hdigits, List.cons_append, Decoder.run, decodeFrom, hread]
  simp only [Nat.zero_add, Nat.mul_one, hnext, hindex, hvalid]
  rfl

/-! ## Encoder and decoder side by side -/

/-- What the encoder writes on its way from `e` to `e'`, the decoder reads on its way from `d` to
`d'`. -/
def Writes (e e' : Encoder) (d d' : Decoder) : Prop :=
  ∃ written, e'.out = e.out ++ written ∧ written ⊆ digitChars ∧ Reads d written d'

theorem Writes.nothing {e e' : Encoder} (h : e'.out = e.out) (d : Decoder) : Writes e e' d d :=
  ⟨[], by rw [h, List.append_nil], List.nil_subset _, .refl d⟩

theorem Writes.trans {e e' e'' : Encoder} {d d' d'' : Decoder} (h : Writes e e' d d')
    (h' : Writes e' e'' d' d'') : Writes e e'' d d'' := by
  obtain ⟨written, hout, hdigits, hreads⟩ := h
  obtain ⟨written', hout', hdigits', hreads'⟩ := h'
  exact ⟨written ++ written', by rw [hout', hout, List.append_assoc],
    List.append_subset.mpr ⟨hdigits, hdigits'⟩, hreads.trans hreads'⟩

/-- The encoder has come between `front` and `back` on its walk for the character `m`. The decoder
knows the smaller characters, and of `m` those in front; it is behind by the steps counted. -/
structure Follows (plain m : Nat) (front back : List Nat) (e : Encoder) (d : Decoder) : Prop where
  out : d.out = front.filter (· ≤ m) ++ back.filter (· < m)
  handled : e.handled = d.out.length
  bias : e.bias = d.bias
  place : d.place + e.delta = m * (d.out.length + 1) + (front.filter (· ≤ m)).length
  first : d.index = 0 ∧ e.handled = plain ∨ 0 < d.index ∧ plain < e.handled

section Walks

variable {plain m : Nat} {e : Encoder} {d : Decoder}

section Characters

variable {n : Nat} {front back : List Nat}

theorem Follows.see_below (hlt : n < m) (h : Follows plain m front (n :: back) e d) :
    ∃ d', Writes e (e.see plain m n) d d' ∧
      Follows plain m (front ++ [n]) back (e.see plain m n) d' := by
  have hsee : e.see plain m n = { e with delta := e.delta + 1 } := by
    rw [Encoder.see, if_pos hlt]
  have hkept : (front ++ [n]).filter (· ≤ m) = front.filter (· ≤ m) ++ [n] := by simp [hlt.le]
  refine ⟨d, .nothing (by rw [hsee]) d, ?_⟩
  rw [hsee]
  exact {
    out := by rw [h.out, hkept]; simp [hlt]
    handled := h.handled
    bias := h.bias
    place := by
      have hplace := h.place
      rw [hkept, List.length_append, List.length_singleton]
      dsimp only
      omega
    first := h.first }

theorem Follows.see_above (hlt : m < n) (h : Follows plain m front (n :: back) e d) :
    ∃ d', Writes e (e.see plain m n) d d' ∧
      Follows plain m (front ++ [n]) back (e.see plain m n) d' := by
  have hsee : e.see plain m n = e := by
    rw [Encoder.see, if_neg (by omega), if_neg (by omega)]
  have hkept : (front ++ [n]).filter (· ≤ m) = front.filter (· ≤ m) := by simp [hlt]
  refine ⟨d, .nothing (by rw [hsee]) d, ?_⟩
  rw [hsee]
  exact {
    out := by rw [h.out, hkept]; simp [hlt.le]
    handled := h.handled
    bias := h.bias
    place := by rw [hkept]; exact h.place
    first := h.first }

theorem Follows.see_same (hcode : IsCode m) (h : Follows plain m front (m :: back) e d) :
    ∃ d', Writes e (e.see plain m m) d d' ∧
      Follows plain m (front ++ [m]) back (e.see plain m m) d' := by
  have hsee : e.see plain m m = {
      out := e.out ++ writeDelta e.bias 36 e.delta
      delta := 0
      bias := adapt e.delta (e.handled + 1) (e.handled == plain)
      handled := e.handled + 1 } := by
    rw [Encoder.see, if_neg (Nat.lt_irrefl m), if_pos rfl]
  have hkept : (front ++ [m]).filter (· ≤ m) = front.filter (· ≤ m) ++ [m] := by simp
  have hout : d.out = front.filter (· ≤ m) ++ back.filter (· < m) := by
    rw [h.out]
    simp
  have hi : (front.filter (· ≤ m)).length ≤ d.out.length := by
    rw [hout, List.length_append]
    omega
  have hreads := Reads.insert hcode hi h.place
  rw [← h.bias] at hreads
  have hinsert : insertAt (front.filter (· ≤ m)).length m d.out =
      (front ++ [m]).filter (· ≤ m) ++ back.filter (· < m) := by
    rw [insertAt, hout, List.take_left, List.drop_left, hkept]
    simp
  have hlength : (insertAt (front.filter (· ≤ m)).length m d.out).length = d.out.length + 1 := by
    rw [hinsert, hkept, hout]
    simp only [List.length_append, List.length_singleton]
    omega
  have hfirst : (e.handled == plain) = (d.index == 0) := by
    rcases h.first with ⟨hindex, hhandled⟩ | ⟨hindex, hhandled⟩
    · simp [hindex, hhandled]
    · simp [Nat.ne_of_gt hindex, Nat.ne_of_gt hhandled]
  refine ⟨_, ⟨_, by rw [hsee], writeDelta_subset _ _ _, hreads⟩, ?_⟩
  rw [hsee]
  exact {
    out := hinsert
    handled := by rw [hlength, ← h.handled]
    bias := by rw [← h.handled, hfirst]
    place := by
      rw [Decoder.place, hkept, List.length_append, List.length_singleton]
      rfl
    first := by
      have hmore : plain ≤ e.handled := by
        rcases h.first with ⟨-, hhandled⟩ | ⟨-, hhandled⟩ <;> omega
      exact .inr ⟨Nat.succ_pos _, Nat.lt_succ_of_le hmore⟩ }

theorem Follows.see (hcode : IsCode m) (h : Follows plain m front (n :: back) e d) :
    ∃ d', Writes e (e.see plain m n) d d' ∧
      Follows plain m (front ++ [n]) back (e.see plain m n) d' := by
  rcases Nat.lt_trichotomy n m with hlt | rfl | hlt
  · exact h.see_below hlt
  · exact h.see_same hcode
  · exact h.see_above hlt

end Characters

theorem Follows.walk {front back : List Nat} (hcode : IsCode m)
    (h : Follows plain m front back e d) :
    ∃ d', Writes e (back.foldl (Encoder.see plain m) e) d d' ∧
      Follows plain m (front ++ back) [] (back.foldl (Encoder.see plain m) e) d' := by
  induction back generalizing front e d with
  | nil => exact ⟨d, .nothing rfl d, by simpa using h⟩
  | cons n more ih =>
    obtain ⟨d', hwrites, hfollows⟩ := h.see hcode
    obtain ⟨d'', hwrites', hfollows'⟩ := ih hfollows
    refine ⟨d'', hwrites.trans hwrites', ?_⟩
    rwa [List.append_assoc] at hfollows'

/-- Characters that the label does not have are passed by, a whole round for each. -/
theorem Follows.pass {start next : Nat} {input : List Nat} (hle : start ≤ next)
    (hnone : ∀ x ∈ input, start ≤ x → next ≤ x) (h : Follows plain start [] input e d) :
    Follows plain next [] input
      { e with delta := e.delta + (next - start) * (e.handled + 1) } d := by
  have hsame : input.filter (· < start) = input.filter (· < next) := by
    refine List.filter_congr fun x hx => ?_
    have := hnone x hx
    rw [decide_eq_decide]
    omega
  exact {
    out := by
      rw [h.out, hsame]
      rfl
    handled := h.handled
    bias := h.bias
    place := by
      have hplace := h.place
      obtain ⟨rounds, rfl⟩ := Nat.exists_eq_add_of_le hle
      simp only [List.filter_nil, List.length_nil, Nat.add_sub_cancel_left, h.handled,
        Nat.add_mul] at hplace ⊢
      omega
    first := h.first }

theorem Follows.turn {input : List Nat} (h : Follows plain m input [] e d) :
    Follows plain (m + 1) [] input { e with delta := e.delta + 1 } d := by
  have hout : d.out = input.filter (· ≤ m) := by rw [h.out]; simp
  exact {
    out := by
      rw [hout]
      simp only [List.filter_nil, List.nil_append, Nat.lt_succ_iff]
    handled := h.handled
    bias := h.bias
    place := by
      have hplace := h.place
      rw [← hout] at hplace
      simp only [List.filter_nil, List.length_nil, Nat.succ_mul]
      omega
    first := h.first }

theorem Follows.encodeFrom {others input : List Nat} {start : Nat}
    (hsorted : others.Pairwise (· < ·)) (hothers : ∀ m ∈ others, start ≤ m ∧ IsCode m)
    (hall : ∀ x ∈ input, start ≤ x → x ∈ others) (h : Follows plain start [] input e d) :
    ∃ d', Writes e (encodeFrom input plain others start e) d d' ∧ d'.out = input := by
  induction others generalizing start e d with
  | nil =>
    have hinput : input.filter (· < start) = input :=
      List.filter_eq_self.mpr fun x hx => by
        have := hall x hx
        simpa using this
    exact ⟨d, .nothing rfl d, by rw [h.out, hinput]; rfl⟩
  | cons m more ih =>
    obtain ⟨hleast, hsorted⟩ := List.pairwise_cons.mp hsorted
    obtain ⟨⟨hstart, hcode⟩, hmore⟩ := List.forall_mem_cons.mp hothers
    have hnext : ∀ x ∈ input, start ≤ x → m ≤ x := by
      intro x hx hle
      rcases List.mem_cons.mp (hall x hx hle) with rfl | hx
      · exact le_rfl
      · exact (hleast x hx).le
    obtain ⟨d', hwrites, hfollows⟩ := (h.pass hstart hnext).walk hcode
    have hturn := hfollows.turn
    have hlater : ∀ x ∈ input, m + 1 ≤ x → x ∈ more := by
      intro x hx hle
      exact (List.mem_cons.mp (hall x hx (by omega))).resolve_left (by omega)
    obtain ⟨d'', hwrites', hout⟩ :=
      ih hsorted (fun x hx => ⟨hleast x hx, (hmore x hx).2⟩) hlater hturn
    exact ⟨d'', hwrites.trans hwrites', hout⟩

end Walks

/-! ## A whole label -/

theorem mem_insertOnce {x y : Nat} {xs : List Nat} : y ∈ insertOnce x xs ↔ y = x ∨ y ∈ xs := by
  fun_induction insertOnce x xs with
  | case1 => simp
  | case2 z zs h => simp
  | case3 zs h => simp
  | case4 z zs hlt hne ih => simp [ih, or_left_comm]

theorem sorted_insertOnce {x : Nat} {xs : List Nat} (h : xs.Pairwise (· < ·)) :
    (insertOnce x xs).Pairwise (· < ·) := by
  fun_induction insertOnce x xs with
  | case1 => simp
  | case2 z zs hlt =>
    obtain ⟨hleast, -⟩ := List.pairwise_cons.mp h
    refine List.pairwise_cons.mpr ⟨?_, h⟩
    exact List.forall_mem_cons.mpr ⟨hlt, fun y hy => hlt.trans (hleast y hy)⟩
  | case3 zs hlt => exact h
  | case4 z zs hlt hne ih =>
    obtain ⟨hleast, hsorted⟩ := List.pairwise_cons.mp h
    refine List.pairwise_cons.mpr ⟨fun y hy => ?_, ih hsorted⟩
    rcases mem_insertOnce.mp hy with rfl | hy
    · omega
    · exact hleast y hy

def foreignCodes (label : List Char) (xs : List Nat) : List Nat :=
  label.foldl (fun xs c => if c.toNat < 128 then xs else insertOnce c.toNat xs) xs

theorem sorted_foreignCodes (label : List Char) {xs : List Nat} (h : xs.Pairwise (· < ·)) :
    (foreignCodes label xs).Pairwise (· < ·) := by
  induction label generalizing xs with
  | nil => exact h
  | cons c rest ih =>
    refine ih ?_
    dsimp only
    split
    · exact h
    · exact sorted_insertOnce h

theorem mem_foreignCodes {label : List Char} {xs : List Nat} {m : Nat} :
    m ∈ foreignCodes label xs ↔ m ∈ xs ∨ 128 ≤ m ∧ m ∈ label.map Char.toNat := by
  induction label generalizing xs with
  | nil => simp [foreignCodes]
  | cons c rest ih =>
    rw [foreignCodes, List.foldl_cons, ← foreignCodes, ih, List.map_cons, List.mem_cons]
    split
    · next hplain =>
      have hne : 128 ≤ m → m ≠ c.toNat := by omega
      grind
    · next hforeign =>
      rw [mem_insertOnce]
      grind

theorem splitLast_digits {digits : List Char} (h : '-' ∉ digits) :
    splitLast digits = ([], digits) := by
  have htail : (digits.reverse.takeWhile (· != '-')).reverse = digits :=
    Text.afterLast_append h []
  have hplain : digits.length - digits.length - 1 = 0 := by omega
  simp only [splitLast, htail, hplain, List.take_zero]

theorem splitLast_append (plain : List Char) {digits : List Char} (h : '-' ∉ digits) :
    splitLast (plain ++ '-' :: digits) = (plain, digits) := by
  have htail : ((plain ++ '-' :: digits).reverse.takeWhile (· != '-')).reverse = digits := by
    rw [List.append_cons, Text.afterLast_append h]
    simp
  have hplain : (plain ++ '-' :: digits).length - digits.length - 1 = plain.length := by
    rw [List.length_append, List.length_cons]
    omega
  simp only [splitLast, htail, hplain, List.take_left]

def plainPart (label : List Char) : List Char := label.filter fun c => c.toNat < 128

def plainHead (label : List Char) : List Char :=
  if (plainPart label).isEmpty then [] else plainPart label ++ ['-']

theorem splitLast_plainHead (label : List Char) {digits : List Char} (h : digits ⊆ digitChars) :
    splitLast (plainHead label ++ digits) = (plainPart label, digits) := by
  have hhyphen : '-' ∉ digits := fun hc => absurd (h hc) (by decide)
  unfold plainHead
  split
  · next hempty =>
    rw [List.nil_append, splitLast_digits hhyphen, List.isEmpty_iff.mp hempty]
  · rw [List.append_assoc]
    exact splitLast_append _ hhyphen

theorem map_ofNat_toNat (cs : List Char) : (cs.map Char.toNat).map Char.ofNat = cs := by
  rw [List.map_map]
  exact (List.map_congr_left fun c _ => Char.ofNat_toNat c).trans (List.map_id cs)

/-- A label is written as its plain part and digits, which are read as that label. -/
theorem encode_spec (label : List Char) : ∃ digits,
    encode label = plainHead label ++ digits ∧ digits ⊆ digitChars ∧
      decode (encode label) = some label := by
  have hstart : Follows (plainPart label).length 128 [] (label.map Char.toNat)
      ⟨plainHead label, 0, 72, (plainPart label).length⟩
      ⟨128, 0, 72, (plainPart label).map Char.toNat⟩ := {
    out := by simp [plainPart, List.filter_map, Function.comp_def]
    handled := by simp
    bias := rfl
    place := rfl
    first := .inl ⟨rfl, rfl⟩ }
  have hothers : ∀ m ∈ foreignCodes label [], 128 ≤ m ∧ IsCode m := by
    intro m hm
    obtain ⟨hforeign, hm⟩ := (mem_foreignCodes.mp hm).resolve_left List.not_mem_nil
    obtain ⟨c, -, rfl⟩ := List.mem_map.mp hm
    exact ⟨hforeign, isCode_toNat c⟩
  have hall : ∀ x ∈ label.map Char.toNat, 128 ≤ x → x ∈ foreignCodes label [] :=
    fun x hx hforeign => mem_foreignCodes.mpr (.inr ⟨hforeign, hx⟩)
  obtain ⟨d, ⟨digits, hwritten, hdigits, hreads⟩, hout⟩ :=
    hstart.encodeFrom (sorted_foreignCodes label .nil) hothers hall
  have hencode : encode label = plainHead label ++ digits := hwritten
  refine ⟨digits, hencode, hdigits, ?_⟩
  have hdecode := hreads.out
  rw [Decoder.run] at hdecode
  rw [decode, hencode, splitLast_plainHead label hdigits]
  dsimp only
  rw [hdecode, hout, Option.map_some, map_ofNat_toNat]

theorem plain_of_encode {label : List Char} (h : encode label = plainHead label) :
    ∀ c ∈ label, c.toNat < 128 := by
  obtain ⟨_, _, _, hdecode⟩ := encode_spec label
  have hsplit := splitLast_plainHead label (List.nil_subset digitChars)
  rw [List.append_nil] at hsplit
  rw [h, decode, hsplit] at hdecode
  simp only [List.length_nil, decodeFrom, Option.map_some, map_ofNat_toNat,
    Option.some_inj] at hdecode
  intro c hc
  rw [← hdecode] at hc
  simpa using (List.mem_filter.mp hc).2

end ClusterDeploy.Url.Punycode
