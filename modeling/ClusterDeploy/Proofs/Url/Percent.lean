import ClusterDeploy.Proofs.Text.Utf8
import ClusterDeploy.Url.Percent
/-!
# Encoded once and for all

What is percent encoded holds no character of its set any more, so encoding it again changes
nothing. Read the other way, an escape can hide any octet; those that hide a dot are told apart
here.
-/
namespace ClusterDeploy.Url

open Text

variable {inSet : Char → Bool} {cs : List Char}

def Kept (inSet : Char → Bool) (cs : List Char) : Prop := ∀ c ∈ cs, inSet c = false

instance (inSet : Char → Bool) (cs : List Char) : Decidable (Kept inSet cs) :=
  List.decidableBAll _ cs

theorem Kept.percentEncode (h : Kept inSet cs) : percentEncode inSet cs = cs := by
  induction cs with
  | nil => rfl
  | cons c rest ih =>
    obtain ⟨hc, hrest⟩ := List.forall_mem_cons.mp h
    rw [Url.percentEncode, List.flatMap_cons, ← Url.percentEncode, ih hrest, hc]
    rfl

def escapeChars : List Char := "%0123456789ABCDEF".toList

theorem mem_encodeChar {c d : Char} (h : d ∈ encodeChar c) : d ∈ escapeChars := by
  obtain ⟨b, _, hd⟩ := List.mem_flatMap.mp h
  have hbound : b.toNat < 256 := b.toNat_lt
  have hhex : ∀ n < 16, hexUpper n ∈ escapeChars := by decide
  simp only [encodeOctet, List.mem_cons, List.not_mem_nil, or_false] at hd
  rcases hd with rfl | rfl | rfl
  · decide
  · exact hhex _ (by omega)
  · exact hhex _ (by omega)

theorem mem_percentEncode {d : Char} (h : d ∈ percentEncode inSet cs) :
    d ∈ escapeChars ∨ d ∈ cs ∧ inSet d = false := by
  obtain ⟨c, hc, hd⟩ := List.mem_flatMap.mp h
  split at hd
  · exact .inl (mem_encodeChar hd)
  · next hset =>
    rw [List.mem_singleton] at hd
    exact .inr ⟨hd ▸ hc, by simpa [hd] using hset⟩

theorem kept_percentEncode (h : Kept inSet escapeChars) (cs : List Char) :
    Kept inSet (percentEncode inSet cs) := by
  intro d hd
  rcases mem_percentEncode hd with hd | ⟨_, hd⟩
  · exact h d hd
  · exact hd

theorem not_mem_percentEncode {d : Char} (hescape : d ∉ escapeChars) (h : d ∉ cs) :
    d ∉ percentEncode inSet cs := by
  intro hd
  rcases mem_percentEncode hd with hd | ⟨hd, _⟩
  · exact hescape hd
  · exact h hd

/-! ## The sets of the parts of a URL -/

def IsVisible (c : Char) : Prop := 32 < c.toNat ∧ c.toNat < 127

instance (c : Char) : Decidable (IsVisible c) := inferInstanceAs (Decidable (_ ∧ _))

theorem isVisible_of {c : Char} (hcontrol : isControl c = false) (hblank : c ≠ ' ') :
    IsVisible c := by
  have hne : c.toNat ≠ 32 := fun h => hblank (Char.toNat_inj.mp h)
  simp only [isControl, Bool.or_eq_false_iff, decide_eq_false_iff_not] at hcontrol
  unfold IsVisible
  omega

section Sets

variable {c : Char}

theorem isVisible_of_fragment (h : inFragmentSet c = false) : IsVisible c := by
  simp only [inFragmentSet, Bool.or_eq_false_iff, List.contains_eq_mem, decide_eq_false_iff_not,
    List.mem_cons, not_or] at h
  exact isVisible_of h.1 h.2.1

theorem isVisible_of_query (h : inSpecialQuerySet c = false) : IsVisible c := by
  simp only [inSpecialQuerySet, inQuerySet, Bool.or_eq_false_iff, List.contains_eq_mem,
    decide_eq_false_iff_not, List.mem_cons, not_or] at h
  exact isVisible_of h.1.1 h.1.2.1

theorem inFragmentSet_of_path (h : inPathSet c = false) : inFragmentSet c = false := by
  simp only [inPathSet, Bool.or_eq_false_iff] at h
  exact h.1

theorem inPathSet_of_user (h : inUserSet c = false) : inPathSet c = false := by
  simp only [inUserSet, Bool.or_eq_false_iff] at h
  exact h.1

end Sets

/-! ## Escapes that hide a dot -/

theorem percentDecode_eq_nil_iff : percentDecode cs = [] ↔ cs = [] := by
  refine ⟨fun h => ?_, fun h => by rw [h]; rfl⟩
  fun_cases percentDecode cs with
  | case1 => rfl
  | case2 a b rest x y hx hy => simp [percentDecode, hx, hy] at h
  | case3 a b rest hhex =>
    rw [percentDecode] at h
    split at h
    · cases h
    · cases h
  | case4 c rest hescape =>
    rw [percentDecode] at h
    · obtain ⟨lead, tail, hoctets, _⟩ := utf8Head_char c []
      simp [encodeUtf8_eq, hoctets] at h
    · exact hescape

theorem hexDigit?_eq_some {c : Char} {x : Nat} (h : hexDigit? c = some x) :
    x < 10 ∧ c.toNat = x + 48 ∨ 10 ≤ x ∧ x < 16 ∧ (c.toNat = x + 87 ∨ c.toNat = x + 55) := by
  simp only [hexDigit?, Bool.and_eq_true, decide_eq_true_eq] at h
  split at h
  · cases h
    omega
  split at h
  · cases h
    omega
  split at h
  · cases h
    omega
  · cases h

/-- The two digits of the octet of a dot. -/
theorem hexDigit?_dot {a b : Char} {x y : Nat} (ha : hexDigit? a = some x)
    (hb : hexDigit? b = some y) (h : UInt8.ofNat (x * 16 + y) = 0x2E) :
    a = '2' ∧ (b = 'e' ∨ b = 'E') := by
  have hachar := hexDigit?_eq_some ha
  have hbchar := hexDigit?_eq_some hb
  have hoctet : x * 16 + y = 46 := by
    have hnat := congrArg UInt8.toNat h
    rwa [toNat_octet (by omega)] at hnat
  have char_eq {c d : Char} (hc : c.toNat = d.toNat) : c = d := Char.toNat_inj.mp hc
  refine ⟨char_eq ?_, ?_⟩
  · change a.toNat = 50
    omega
  · rcases hbchar with hb | ⟨_, _, hb | hb⟩
    · omega
    · left
      apply char_eq
      change b.toNat = 101
      omega
    · right
      apply char_eq
      change b.toNat = 69
      omega

/-- A text whose first octet is a dot starts with a dot or with the escape of one. -/
theorem percentDecode_eq_dot_cons {octets : List UInt8} (h : percentDecode cs = 0x2E :: octets) :
    ∃ rest, percentDecode rest = octets ∧
      (cs = '.' :: rest ∨ cs = '%' :: '2' :: 'e' :: rest ∨ cs = '%' :: '2' :: 'E' :: rest) := by
  fun_cases percentDecode cs with
  | case1 => cases h
  | case2 a b rest x y hy hx =>
    simp only [percentDecode, hx, hy, List.cons.injEq] at h
    obtain ⟨rfl, hb⟩ := hexDigit?_dot hx hy h.1
    refine ⟨rest, h.2, .inr ?_⟩
    rcases hb with rfl | rfl
    · exact .inl rfl
    · exact .inr rfl
  | case3 a b rest hhex =>
    rw [percentDecode] at h
    split at h
    · next x y hx hy => exact absurd hy (hhex x y hx)
    · cases h
  | case4 c rest hescape =>
    rw [percentDecode] at h
    · obtain ⟨lead, tail, hoctets, hhead⟩ := utf8Head_char c []
      rw [encodeUtf8_eq] at h
      simp only [Char.toString, String.toList_singleton, List.flatMap_cons, List.flatMap_nil,
        List.append_nil, hoctets, List.cons_append, List.cons.injEq] at h
      obtain ⟨rfl, hmore⟩ := h
      rw [show (0x2E : UInt8) = .ofNat 46 from rfl, utf8Head_one (by decide)] at hhead
      injection hhead with hc hwidth
      obtain rfl : tail = [] := List.eq_nil_of_length_eq_zero (by omega)
      exact ⟨rest, hmore, .inl (by rw [← hc])⟩
    · exact hescape

end ClusterDeploy.Url
