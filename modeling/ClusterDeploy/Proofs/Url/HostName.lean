import ClusterDeploy.Proofs.Url.Address
import ClusterDeploy.Proofs.Url.Commas
import ClusterDeploy.Proofs.Url.Folding
import ClusterDeploy.Proofs.Url.Punycode
import Mathlib.Data.Bool.AllAny
/-!
# Hosts read back

What a host is written as is read as the same host, whatever it was written as at first: a name is
folded and encoded already, an address is written in the one form that means it.
-/
namespace ClusterDeploy.Url

open Text

/-! ## Labels -/

def IsNamePart (c : Char) : Prop := foldChar c = [c] ∧ isForbidden c = false ∧ c ≠ '.'

instance (c : Char) : Decidable (IsNamePart c) := inferInstanceAs (Decidable (_ ∧ _))

structure WrittenLabel (label : List Char) : Prop where
  same : asciiLabel? label = some label
  ascii : ∀ c ∈ label, c.toNat < 128
  parts : ∀ c ∈ label, IsNamePart c

theorem flatMap_foldChar {cs : List Char} (h : ∀ c ∈ cs, foldChar c = [c]) :
    cs.flatMap foldChar = cs := by
  induction cs with
  | nil => rfl
  | cons c rest ih =>
    obtain ⟨hc, hrest⟩ := List.forall_mem_cons.mp h
    rw [List.flatMap_cons, hc, ih hrest]
    rfl

theorem isAscii_iff {cs : List Char} : isAscii cs = true ↔ ∀ c ∈ cs, c.toNat < 128 := by
  simp [isAscii]

def encodedStart : List Char := "xn--".toList

section Encoded

variable {label : List Char} (hparts : ∀ c ∈ label, IsNamePart c)
include hparts

theorem encode_parts : ∀ c ∈ Punycode.encode label, c.toNat < 128 ∧ IsNamePart c := by
  obtain ⟨digits, hencode, hdigits, -⟩ := Punycode.encode_spec label
  have hplain : ∀ c ∈ Punycode.plainPart label, c.toNat < 128 ∧ IsNamePart c := by
    intro c hc
    obtain ⟨hc, hascii⟩ := List.mem_filter.mp hc
    exact ⟨by simpa using hascii, hparts c hc⟩
  have hmarks : ∀ c ∈ '-' :: Punycode.digitChars, c.toNat < 128 ∧ IsNamePart c :=
    List.all_iff_forall_prop.mp (by decide)
  rw [hencode]
  refine List.forall_mem_append.mpr ⟨?_, fun c hc => hmarks c (List.mem_cons_of_mem _ (hdigits hc))⟩
  unfold Punycode.plainHead
  split
  · simp
  · refine List.forall_mem_append.mpr ⟨hplain, fun c hc => ?_⟩
    exact hmarks c (List.mem_singleton.mp hc ▸ List.mem_cons_self)

theorem writtenLabel_encode (hforeign : isAscii label = false) (hlabel : isLabel label = true) :
    WrittenLabel (encodedStart ++ Punycode.encode label) := by
  obtain ⟨digits, hencode, hdigits, hdecode⟩ := Punycode.encode_spec label
  have hchars : ∀ c ∈ encodedStart ++ Punycode.encode label, c.toNat < 128 ∧ IsNamePart c :=
    List.forall_mem_append.mpr ⟨List.all_iff_forall_prop.mp (by decide), encode_parts hparts⟩
  have hsome : digits ≠ [] := by
    rintro rfl
    rw [List.append_nil] at hencode
    rw [isAscii_iff.mpr (Punycode.plain_of_encode hencode)] at hforeign
    cases hforeign
  have hlast : (Punycode.encode label).getLast? ≠ some '-' := by
    rw [hencode, List.getLast?_append_of_ne_nil _ hsome]
    exact fun h => absurd (hdigits (List.mem_of_getLast? h)) (by decide)
  refine ⟨?_, fun c hc => (hchars c hc).1, fun c hc => (hchars c hc).2⟩
  have hascii : isAscii (encodedStart ++ Punycode.encode label) = true :=
    isAscii_iff.mpr fun c hc => (hchars c hc).1
  have hcode : afterStart ['x', 'n', '-', '-'] (encodedStart ++ Punycode.encode label) =
      some (Punycode.encode label) := afterStart_eq_some_iff.mpr rfl
  have hfolded : label.flatMap foldChar = label := flatMap_foldChar fun c hc => (hparts c hc).1
  rw [asciiLabel?, if_pos hascii, hcode]
  simp [hdecode, hforeign, hlabel, hfolded, hlast]

theorem asciiLabel?_written {written : List Char} (h : asciiLabel? label = some written) :
    WrittenLabel written := by
  cases hascii : isAscii label with
  | true =>
    obtain rfl := asciiLabel?_ascii hascii h
    exact ⟨h, isAscii_iff.mp hascii, hparts⟩
  | false =>
    rw [asciiLabel?, hascii] at h
    obtain ⟨hlabel, hwritten⟩ := Option.ite_none_right_eq_some.mp h
    cases hwritten
    exact writtenLabel_encode hparts hascii hlabel

end Encoded

/-! ## Names -/

def IsNameChar (c : Char) : Prop := c.toNat < 128 ∧ foldChar c = [c] ∧ isForbidden c = false

/-- A name that is read as it is written. -/
structure WrittenName (name : List Char) : Prop where
  same : asciiName? name = some name
  chars : ∀ c ∈ name, IsNameChar c

theorem writtenName_joinWith {labels : List (List Char)} (hsome : labels ≠ [])
    (h : ∀ label ∈ labels, WrittenLabel label) : WrittenName (joinWith '.' labels) := by
  have hchars : ∀ c ∈ joinWith '.' labels, IsNameChar c := by
    intro c hc
    rcases mem_joinWith hc with rfl | ⟨label, hlabel, hc⟩
    · exact ⟨by decide, by decide, by decide⟩
    · obtain ⟨hfold, hallowed, -⟩ := (h label hlabel).parts c hc
      exact ⟨(h label hlabel).ascii c hc, hfold, hallowed⟩
  have hfolded : (joinWith '.' labels).flatMap foldChar = joinWith '.' labels :=
    flatMap_foldChar fun c hc => (hchars c hc).2.1
  have hallowed : (joinWith '.' labels).any isForbidden = false := by
    rw [List.any_eq_false]
    intro c hc
    rw [(hchars c hc).2.2]
    exact Bool.false_ne_true
  have hsplit : splitAt '.' (joinWith '.' labels) = labels :=
    splitAt_joinWith (fun label hlabel hc => ((h label hlabel).parts _ hc).2.2 rfl) hsome
  have hlabels : labels.mapM asciiLabel? = some labels :=
    mapM_eq_some_iff.mpr (List.forall₂_same.mpr fun label hlabel => (h label hlabel).same)
  refine ⟨?_, hchars⟩
  simp only [asciiName?, hfolded, hallowed, hsplit, hlabels]
  rfl

theorem asciiName?_written {cs name : List Char} (h : asciiName? cs = some name) :
    WrittenName name := by
  unfold asciiName? at h
  dsimp only at h
  split at h
  · cases h
  next hallowed =>
    obtain ⟨labels, hlabels, h⟩ := Option.bind_eq_some_iff.mp h
    cases h
    refine writtenName_joinWith ?_ fun label hlabel => ?_
    · rintro rfl
      have hlength := (mapM_eq_some_iff.mp hlabels).length_eq
      exact splitAt_ne_nil '.' _ (List.eq_nil_of_length_eq_zero hlength)
    · obtain ⟨piece, hpiece, hwritten⟩ := mapM_some hlabels label hlabel
      refine asciiLabel?_written (fun c hc => ?_) hwritten
      have hfolded := mem_of_mem_splitAt hpiece hc
      obtain ⟨d, -, hd⟩ := List.mem_flatMap.mp hfolded
      refine ⟨foldChar_folded hd, ?_, fun heq => splitAt_pieces hpiece (heq ▸ hc)⟩
      exact Bool.eq_false_iff.mpr fun hc => hallowed (List.any_eq_true.mpr ⟨c, hfolded, hc⟩)

theorem WrittenName.not_mem {name : List Char} (h : WrittenName name) {c : Char}
    (hc : isForbidden c = true) : c ∉ name := by
  intro hmem
  rw [(h.chars c hmem).2.2] at hc
  cases hc

/-- A name that is written is not unescaped or folded to anything else. -/
theorem parseHost_written {name : List Char} (h : WrittenName name) (hsome : name ≠ []) :
    parseHost name =
      if endsInNumber name then (parseIpv4 name).map .ipv4 else .ok (.name name) := by
  have hempty : name.isEmpty = false := by simpa using hsome
  have hbracket : (name.head? == some '[') = false := by
    rw [beq_eq_false_iff_ne]
    exact fun hhead => h.not_mem (c := '[') (by decide) (List.mem_of_mem_head? hhead)
  have hescape : '%' ∉ name := h.not_mem (by decide)
  rw [parseHost, hempty, hbracket, percentDecode_plain hescape, decodeUtf8_encodeUtf8,
    String.toList_ofList]
  simp only [Bool.false_eq_true, if_false, h.same]

/-! ## Hosts -/

/-- A host whose text is read as it, and where it ends is seen from outside. -/
structure Host.Readable (host : Host) : Prop where
  same : parseHost host.text = .ok host
  chars : ∀ c ∈ host.text, IsVisible c ∧ c ∉ ['/', '?', '#', '@', '\\']
  port : ∀ rest, splitPort false (host.text ++ rest) =
    (host.text ++ (splitPort false rest).1, (splitPort false rest).2)

theorem Host.Readable.ne_nil {host : Host} (h : host.Readable) : host.text ≠ [] := by
  intro hnil
  have hsame := h.same
  rw [hnil] at hsame
  cases hsame

/-- A part without a colon and an opening bracket is all host. -/
theorem splitPort_append {part : List Char} (hcolon : ':' ∉ part) (hbracket : '[' ∉ part)
    (rest : List Char) :
    splitPort false (part ++ rest) =
      (part ++ (splitPort false rest).1, (splitPort false rest).2) := by
  induction part with
  | nil => rfl
  | cons c part ih =>
    obtain ⟨hc, hpart⟩ := not_or.mp (mt List.mem_cons.mpr hcolon)
    obtain ⟨hc', hpart'⟩ := not_or.mp (mt List.mem_cons.mpr hbracket)
    have hopen : (c == '[') = false := by simpa using Ne.symm hc'
    have hport : (decide (c = ':') && !false) = false := by simpa using Ne.symm hc
    simp only [List.cons_append, splitPort, hopen, hport, Bool.false_and, Bool.false_or,
      Bool.false_eq_true, if_false, ih hpart hpart']

theorem isVisible_of_allowed {c : Char} (hascii : c.toNat < 128) (h : isForbidden c = false) :
    IsVisible c := by
  simp only [isForbidden, Bool.or_eq_false_iff, decide_eq_false_iff_not, beq_eq_false_iff_ne] at h
  unfold IsVisible
  omega

section Readable

variable {name : List Char} (h : WrittenName name)
include h

theorem WrittenName.visible : ∀ c ∈ name, IsVisible c ∧ c ∉ ['/', '?', '#', '@', '\\'] := by
  intro c hc
  obtain ⟨hascii, -, hallowed⟩ := h.chars c hc
  refine ⟨isVisible_of_allowed hascii hallowed, fun hmark => ?_⟩
  have hforbidden : ∀ c ∈ ['/', '?', '#', '@', '\\'], isForbidden c = true :=
    List.all_iff_forall_prop.mp (by decide)
  exact h.not_mem (hforbidden c hmark) hc

theorem WrittenName.port (rest : List Char) :
    splitPort false (name ++ rest) = (name ++ (splitPort false rest).1, (splitPort false rest).2) :=
  splitPort_append (h.not_mem (by decide)) (h.not_mem (by decide)) rest

theorem readable_name (hsome : name ≠ []) (hnumber : endsInNumber name = false) :
    (Host.name name).Readable where
  same := by
    rw [Host.text, parseHost_written h hsome, hnumber]
    rfl
  chars := h.visible
  port := h.port

end Readable

theorem writtenLabel_toDigits (n : Nat) : WrittenLabel (Nat.toDigits 10 n) := by
  have hchars : ∀ c ∈ Nat.toDigits 10 n, c.toNat < 128 ∧ IsNamePart c ∧ c ≠ 'x' := by
    intro c hc
    obtain ⟨d, hd, rfl⟩ := mem_toDigits (by decide) hc
    have hdigits : ∀ d < 10, d.digitChar.toNat < 128 ∧ IsNamePart d.digitChar ∧
        d.digitChar ≠ 'x' := by decide
    exact hdigits d hd
  have hplain : afterStart ['x', 'n', '-', '-'] (Nat.toDigits 10 n) = none := by
    rw [Option.eq_none_iff_forall_ne_some]
    intro rest hrest
    have hx : 'x' ∈ Nat.toDigits 10 n := by
      rw [afterStart_eq_some_iff.mp hrest]
      simp
    exact (hchars _ hx).2.2 rfl
  refine ⟨?_, fun c hc => (hchars c hc).1, fun c hc => (hchars c hc).2.1⟩
  rw [asciiLabel?, if_pos (isAscii_iff.mpr fun c hc => (hchars c hc).1), hplain]

theorem writtenName_ipv4Text (n : Nat) : WrittenName (ipv4Text n).toList := by
  rw [ipv4Text_eq]
  refine writtenName_joinWith (by simp [octetsOf]) fun label hlabel => ?_
  obtain ⟨m, -, rfl⟩ := List.mem_map.mp hlabel
  exact writtenLabel_toDigits m

theorem readable_ipv4 {n : Nat} (h : n < 256 ^ 4) : (Host.ipv4 n).Readable where
  same := by
    have hsome : (ipv4Text n).toList ≠ [] := by
      intro hnil
      have hnumber := endsInNumber_ipv4Text n
      rw [hnil] at hnumber
      exact absurd hnumber (by decide)
    rw [Host.text, parseHost_written (writtenName_ipv4Text n) hsome, endsInNumber_ipv4Text,
      if_pos rfl, parseIpv4_ipv4Text h]
    rfl
  chars := (writtenName_ipv4Text n).visible
  port := (writtenName_ipv4Text n).port

/-- Inside the brackets colons are part of the host. -/
theorem splitPort_bracketed {part : List Char} (h : ']' ∉ part) (rest : List Char) :
    splitPort true (part ++ ']' :: rest) =
      (part ++ ']' :: (splitPort false rest).1, (splitPort false rest).2) := by
  induction part with
  | nil => simp [splitPort]
  | cons c part ih =>
    obtain ⟨hc, hpart⟩ := not_or.mp (mt List.mem_cons.mpr h)
    have hinside : (c == '[' || (true && c != ']')) = true := by simp [Ne.symm hc]
    simp only [List.cons_append, splitPort, hinside, Bool.not_true, Bool.and_false,
      Bool.false_eq_true, if_false, ih hpart]

theorem readable_ipv6 {groups : List Nat} (hlength : groups.length = 8)
    (h : ∀ g ∈ groups, g < 65536) : (Host.ipv6 groups).Readable where
  same := by
    have hlast : ('[' :: ((ipv6Text groups).toList ++ [']'])).getLast? = some ']' := by
      rw [← List.cons_append, List.getLast?_concat]
    have hinside : (('[' :: ((ipv6Text groups).toList ++ [']'])).drop 1).dropLast =
        (ipv6Text groups).toList := List.dropLast_concat
    have hread : bracketed ('[' :: ((ipv6Text groups).toList ++ [']'])) = .ok (.ipv6 groups) := by
      rw [bracketed, hlast]
      simp only [hinside, parseIpv6, ipv6Groups?_ipv6Text hlength h]
      rfl
    exact hread
  chars := by
    have hmarks : ∀ c ∈ '[' :: ']' :: groupChars,
        IsVisible c ∧ c ∉ ['/', '?', '#', '@', '\\'] :=
      List.all_iff_forall_prop.mp (by decide)
    intro c hc
    refine hmarks c ?_
    rcases List.mem_cons.mp hc with rfl | hc
    · simp
    rcases List.mem_append.mp hc with hc | hc
    · simp [ipv6Text_subset groups hc]
    · simp [List.mem_singleton.mp hc]
  port := by
    intro rest
    have hclose : ']' ∉ (ipv6Text groups).toList :=
      fun hc => absurd (ipv6Text_subset groups hc) (by decide)
    have htext : Host.text (.ipv6 groups) ++ rest =
        '[' :: ((ipv6Text groups).toList ++ ']' :: rest) := by simp [Host.text]
    have hopen : splitPort false ('[' :: ((ipv6Text groups).toList ++ ']' :: rest)) =
        ('[' :: (splitPort true ((ipv6Text groups).toList ++ ']' :: rest)).1,
          (splitPort true ((ipv6Text groups).toList ++ ']' :: rest)).2) := by
      rw [splitPort]
      rfl
    rw [htext, hopen, splitPort_bracketed hclose]
    simp [Host.text]

/-- Whatever is read as a host can be read again as it is written. -/
theorem parseHost_readable {cs : List Char} {host : Host} (h : parseHost cs = .ok host) :
    host.Readable := by
  unfold parseHost at h
  split at h
  · cases h
  split at h
  · unfold bracketed at h
    split at h
    · cases hgroups : ipv6Groups? (cs.drop 1).dropLast with
      | none =>
        rw [parseIpv6, hgroups] at h
        cases h
      | some groups =>
        rw [parseIpv6, hgroups] at h
        cases h
        obtain ⟨hlength, hbounds⟩ := ipv6Groups?_bounds hgroups
        exact readable_ipv6 hlength hbounds
    · cases h
  split at h
  · cases h
  split at h
  · cases h
  · cases h
  next name hsome hname =>
    split at h
    · cases hn : parseIpv4 name with
      | error e =>
        rw [hn] at h
        cases h
      | ok n =>
        rw [hn] at h
        cases h
        exact readable_ipv4 (parseIpv4_lt hn)
    · next hnumber =>
      cases h
      exact readable_name (asciiName?_written hname) (fun hnil => hsome (hnil ▸ rfl))
        (by simpa using hnumber)

end ClusterDeploy.Url
