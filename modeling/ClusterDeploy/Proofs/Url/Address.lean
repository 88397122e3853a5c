import ClusterDeploy.Proofs.Text.Pieces
import ClusterDeploy.Proofs.Url.Percent
import ClusterDeploy.Url.Address
import Mathlib.Algebra.Group.Nat.Defs
import Mathlib.Data.List.Induction
/-!
# Numeric hosts read back

An address is written in one of the many ways in which it can be read. That way is read as the same
address, for IPv4 since its parts are decimal octets without leading zeros, for IPv6 since the
colons stand where the compressed zeros were.
-/
namespace ClusterDeploy.Url

open Text

/-! ## Numbers -/

section Numbers

variable {radix n : Nat} {cs : List Char}

theorem hexDigit?_digitChar {d : Nat} (h : d < 16) : hexDigit? d.digitChar = some d := by
  decide +revert

def digitStep (radix : Nat) (n : Option Nat) (c : Char) : Option Nat := do
  let d ← hexDigit? c
  if d < radix then some ((← n) * radix + d) else none

theorem digitsIn_concat (radix : Nat) (cs : List Char) (c : Char) :
    digitsIn radix (cs ++ [c]) = digitStep radix (digitsIn radix cs) c :=
  List.foldl_append

theorem digitsIn_toDigits (hone : 1 < radix) (hhex : radix ≤ 16) (n : Nat) :
    digitsIn radix (Nat.toDigits radix n) = some n := by
  induction n using Nat.strong_induction_on with
  | _ n ih =>
    rw [Nat.toDigits_eq_if hone]
    split
    · next hlt =>
      change digitStep radix (some 0) _ = _
      simp [digitStep, hexDigit?_digitChar (show n < 16 by omega), hlt]
    · next hge =>
      have hless : n / radix < n := Nat.div_lt_self (by omega) hone
      have hdigit : n % radix < radix := Nat.mod_lt _ (by omega)
      rw [digitsIn_concat, ih _ hless]
      simp [digitStep, hexDigit?_digitChar (show n % radix < 16 by omega), hdigit,
        Nat.div_add_mod']

theorem digitsIn_lt (h : digitsIn radix cs = some n) : n < radix ^ cs.length := by
  induction cs using List.reverseRecOn generalizing n with
  | nil =>
    cases h
    exact Nat.one_pos
  | append_singleton cs c ih =>
    rw [digitsIn_concat, digitStep] at h
    obtain ⟨d, -, h⟩ := Option.bind_eq_some_iff.mp h
    split at h
    · next hd =>
      obtain ⟨m, hm, h⟩ := Option.bind_eq_some_iff.mp h
      cases h
      have hm := ih hm
      rw [List.length_append, List.length_singleton, Nat.pow_succ]
      calc m * radix + d < m * radix + radix := by omega
        _ = (m + 1) * radix := by rw [Nat.succ_mul]
        _ ≤ radix ^ cs.length * radix := Nat.mul_le_mul_right _ hm
    · cases h

theorem mem_toDigits {c : Char} (hone : 1 < radix) (h : c ∈ Nat.toDigits radix n) :
    ∃ d < radix, c = d.digitChar := by
  induction n using Nat.strong_induction_on with
  | _ n ih =>
    rw [Nat.toDigits_eq_if hone] at h
    split at h
    · next hlt => exact ⟨n, hlt, List.mem_singleton.mp h⟩
    · next hge =>
      rcases List.mem_append.mp h with h | h
      · exact ih _ (Nat.div_lt_self (by omega) hone) h
      · exact ⟨n % radix, Nat.mod_lt _ (by omega), List.mem_singleton.mp h⟩

theorem toDigits_head (hone : 1 < radix) (hn : 0 < n) :
    (Nat.toDigits radix n).head? ≠ some '0' := by
  induction n using Nat.strong_induction_on with
  | _ n ih =>
    rw [Nat.toDigits_eq_if hone]
    split
    · simpa using Nat.ne_of_gt hn
    · next hge =>
      have hless : n / radix < n := Nat.div_lt_self hn hone
      have hpos : 0 < n / radix := Nat.div_pos (by omega) (by omega)
      rw [List.head?_append_of_ne_nil _ Nat.toDigits_ne_nil]
      exact ih _ hless hpos

end Numbers

/-! ## IPv4 -/

section Ipv4

variable {n : Nat}

theorem ipv4Part?_toDigits (n : Nat) : ipv4Part? (Nat.toDigits 10 n) = some n := by
  have hread := digitsIn_toDigits (show 1 < 10 by decide) (by decide) n
  rcases Nat.eq_zero_or_pos n with rfl | hn
  · rfl
  have hhead := toDigits_head (show 1 < 10 by decide) hn
  unfold ipv4Part?
  split
  · next hnil => exact absurd hnil Nat.toDigits_ne_nil
  · next hzero => simp [hzero] at hhead
  · next hzero => simp [hzero] at hhead
  · next hzero => simp [hzero] at hhead
  · exact hread

def octetsOf (n : Nat) : List Nat :=
  [n / 16777216 % 256, n / 65536 % 256, n / 256 % 256, n % 256]

theorem ipv4Text_eq (n : Nat) :
    (ipv4Text n).toList = joinWith '.' ((octetsOf n).map (Nat.toDigits 10)) := by
  have hdot : (toString ".").toList = ['.'] := rfl
  simp [ipv4Text, octetsOf, joinWith, hdot]

theorem isDigit_toDigits {n : Nat} {c : Char} (h : c ∈ Nat.toDigits 10 n) : isDigit c = true :=
  Nat.isDigit_of_mem_toDigits (by decide) (by decide) h

theorem dot_toDigits (n : Nat) : '.' ∉ Nat.toDigits 10 n := by
  exact fun h => absurd (isDigit_toDigits h) (by decide)

theorem hostParts_ipv4Text (n : Nat) :
    hostParts (ipv4Text n).toList = (octetsOf n).map (Nat.toDigits 10) := by
  have hsplit : splitAt '.' (ipv4Text n).toList = (octetsOf n).map (Nat.toDigits 10) := by
    rw [ipv4Text_eq]
    refine splitAt_joinWith (fun part hpart => ?_) (by simp [octetsOf])
    obtain ⟨m, -, rfl⟩ := List.mem_map.mp hpart
    exact dot_toDigits m
  rw [hostParts, hsplit]
  simp [octetsOf]

theorem endsInNumber_ipv4Text (n : Nat) : endsInNumber (ipv4Text n).toList = true := by
  have hdigits : (Nat.toDigits 10 (n % 256)).all isDigit = true :=
    List.all_eq_true.mpr fun c hc => isDigit_toDigits hc
  rw [endsInNumber, hostParts_ipv4Text]
  simp [octetsOf, hdigits]

theorem ipv4OfParts_octetsOf (h : n < 256 ^ 4) : ipv4OfParts 4 (octetsOf n) = some n := by
  have hoctet (m : Nat) : ¬ 255 < m % 256 := by omega
  have hlast : n % 256 < Nat.pow 256 1 := Nat.mod_lt n (by decide)
  simp only [octetsOf, ipv4OfParts, hoctet, if_false, Nat.reduceSub, hlast, if_true,
    Option.map_some, Option.some_inj]
  change n / 16777216 % 256 * 16777216 +
    (n / 65536 % 256 * 65536 + (n / 256 % 256 * 256 + n % 256)) = n
  omega

theorem parseIpv4_ipv4Text (h : n < 256 ^ 4) : parseIpv4 (ipv4Text n).toList = .ok n := by
  have hparts : ((octetsOf n).map (Nat.toDigits 10)).mapM ipv4Part? = some (octetsOf n) := by
    simp [octetsOf, ipv4Part?_toDigits]
  have hlength : ¬ 4 < ((octetsOf n).map (Nat.toDigits 10)).length := by simp [octetsOf]
  simp only [parseIpv4, hostParts_ipv4Text, hlength, if_false, hparts, ipv4OfParts_octetsOf h]

theorem ipv4OfParts_lt {left : Nat} {numbers : List Nat} (hlength : numbers.length ≤ left)
    (h : ipv4OfParts left numbers = some n) : n < 256 ^ left := by
  fun_induction ipv4OfParts left numbers generalizing n with
  | case1 => cases h
  | case2 left last hlast =>
    cases h
    exact hlast
  | case3 => cases h
  | case4 => cases h
  | case5 left p more hmore hp ih =>
    obtain ⟨rest, hrest, rfl⟩ := Option.map_eq_some_iff.mp h
    rw [List.length_cons] at hlength
    have hless := ih (by omega) hrest
    obtain ⟨fewer, rfl⟩ : ∃ fewer, left = fewer + 1 := Nat.exists_eq_add_one.mpr (by omega)
    change p * 256 ^ fewer + rest < 256 ^ (fewer + 1)
    calc p * 256 ^ fewer + rest < p * 256 ^ fewer + 256 ^ fewer := by
          exact Nat.add_lt_add_left hless _
      _ = (p + 1) * 256 ^ fewer := by rw [Nat.succ_mul]
      _ ≤ 256 * 256 ^ fewer := Nat.mul_le_mul_right _ (by omega)
      _ = 256 ^ (fewer + 1) := by rw [Nat.pow_succ, Nat.mul_comm]

theorem parseIpv4_lt {cs : List Char} (h : parseIpv4 cs = .ok n) : n < 256 ^ 4 := by
  unfold parseIpv4 at h
  dsimp only at h
  split at h
  · cases h
  split at h
  · cases h
  next hlength _ numbers hnumbers =>
    split at h
    · next hparts =>
      cases h
      refine ipv4OfParts_lt ?_ hparts
      rw [← (mapM_eq_some_iff.mp hnumbers).length_eq]
      omega
    · cases h

end Ipv4

/-! ## IPv6 -/

section Ipv6

variable {groups : List Nat} {cs : List Char}

def groupsText (groups : List Nat) : List Char := joinWith ':' (groups.map (Nat.toDigits 16))

theorem toList_groupsText (groups : List Nat) :
    (":".intercalate (groups.map hexText)).toList = groupsText groups := by
  have hcolon : ":".toList = [':'] := rfl
  have hhex : String.toList ∘ hexText = Nat.toDigits 16 := funext fun _ => String.toList_ofList
  rw [String.toList_intercalate, List.map_map, hcolon, ← joinWith_eq, hhex]
  rfl

def HasZeros (groups : List Nat) (place : Nat × Nat) : Prop :=
  groups.take place.1 ++ (List.replicate place.2 0 ++ groups.drop (place.1 + place.2)) = groups

theorem hasZeros_none (groups : List Nat) (start : Nat) : HasZeros groups (start, 0) :=
  List.take_append_drop start groups

theorem replicate_zeroRun (groups : List Nat) :
    List.replicate (zeroRun groups) 0 ++ groups.drop (zeroRun groups) = groups := by
  have hzeros : groups.takeWhile (· == 0) = List.replicate (zeroRun groups) 0 :=
    List.eq_replicate_iff.mpr ⟨rfl, fun n hn => by simpa using List.mem_takeWhile_imp hn⟩
  have hrest : groups.drop (zeroRun groups) = groups.dropWhile (· == 0) := by
    calc groups.drop (zeroRun groups)
        = (groups.takeWhile (· == 0) ++ groups.dropWhile (· == 0)).drop (zeroRun groups) := by
          rw [List.takeWhile_append_dropWhile]
      _ = groups.dropWhile (· == 0) := List.drop_left
  rw [← hzeros, hrest, List.takeWhile_append_dropWhile]

/-- The search has come to `groups` after `front`. -/
theorem longestZeros_hasZeros {front groups : List Nat} {index : Nat} {best : Nat × Nat}
    (hindex : index = front.length) (hbest : HasZeros (front ++ groups) best) :
    HasZeros (front ++ groups) (longestZeros index groups best) := by
  induction groups generalizing front index best with
  | nil => exact hbest
  | cons g more ih =>
    rw [longestZeros, List.append_cons]
    refine ih (by simp [hindex]) ?_
    rw [← List.append_cons]
    split
    · rw [HasZeros, hindex, List.take_left, List.drop_length_add_append, replicate_zeroRun]
    · exact hbest

/-- An address is written in full, or two colons stand for some of its zeros. -/
theorem ipv6Text_spec (groups : List Nat) :
    (ipv6Text groups).toList = groupsText groups ∨
      ∃ front zeros back, groups = front ++ (List.replicate (zeros + 1) 0 ++ back) ∧
        (ipv6Text groups).toList = groupsText front ++ ':' :: ':' :: groupsText back := by
  have hzeros := longestZeros_hasZeros List.length_nil.symm (hasZeros_none groups 0)
  have hcolons : "::".toList = [':', ':'] := rfl
  rw [List.nil_append] at hzeros
  unfold ipv6Text
  generalize longestZeros 0 groups (0, 0) = place at hzeros ⊢
  obtain ⟨start, run⟩ := place
  dsimp only
  split
  · exact .inl (toList_groupsText groups)
  · next hrun =>
    obtain ⟨zeros, rfl⟩ := Nat.exists_eq_succ_of_ne_zero hrun
    refine .inr ⟨_, zeros, _, hzeros.symm, ?_⟩
    simp only [String.toList_append, toList_groupsText, hcolons, List.append_assoc,
      List.cons_append, List.nil_append]

def withFront (part : List Char) : List Char × List Char → List Char × List Char
  | (before, after) => (part ++ before, after)

theorem map_withFront (part more : List Char) (split : Option (List Char × List Char)) :
    (split.map (withFront more)).map (withFront part) = split.map (withFront (part ++ more)) := by
  cases split with
  | none => rfl
  | some parts => simp [withFront]

theorem splitDouble_cons {c : Char} {cs : List Char} (h : c ≠ ':' ∨ cs.head? ≠ some ':') :
    splitDouble (c :: cs) = (splitDouble cs).map (withFront [c]) := by
  rw [splitDouble]
  · rfl
  · rintro rest rfl rfl
    simp at h

theorem splitDouble_append {part : List Char} (h : ':' ∉ part) (rest : List Char) :
    splitDouble (part ++ rest) = (splitDouble rest).map (withFront part) := by
  induction part with
  | nil =>
    rw [List.nil_append]
    cases splitDouble rest <;> rfl
  | cons c part ih =>
    have hc : c ≠ ':' := fun heq => h (heq ▸ List.mem_cons_self)
    have hpart : ':' ∉ part := fun hc => h (List.mem_cons_of_mem _ hc)
    rw [List.cons_append, splitDouble_cons (.inl hc), ih hpart, map_withFront]
    rfl

theorem mark_toDigits {c : Char} (hc : c ∈ [':', '.']) (n : Nat) : c ∉ Nat.toDigits 16 n := by
  intro h
  obtain ⟨d, hd, rfl⟩ := mem_toDigits (by decide) h
  have hmarks : ∀ d < 16, d.digitChar ∉ [':', '.'] := by decide
  exact hmarks d hd hc

theorem groupsText_cons (g : Nat) (more : List Nat) :
    ∃ rest, groupsText (g :: more) = Nat.toDigits 16 g ++ rest := by
  cases more with
  | nil => exact ⟨[], (List.append_nil _).symm⟩
  | cons next more => exact ⟨':' :: groupsText (next :: more), rfl⟩

theorem head_groupsText (g : Nat) (more : List Nat) (rest : List Char) :
    (groupsText (g :: more) ++ rest).head? ≠ some ':' := by
  obtain ⟨tail, htail⟩ := groupsText_cons g more
  obtain ⟨c, cs, hcs⟩ := List.exists_cons_of_ne_nil (Nat.toDigits_ne_nil (b := 16) (n := g))
  have hmark := mark_toDigits (c := ':') (by decide) g
  rw [htail, hcs, List.append_assoc, List.cons_append, List.head?_cons, ne_eq, Option.some_inj]
  rintro rfl
  exact hmark (hcs ▸ List.mem_cons_self)

theorem splitDouble_groupsText (groups : List Nat) (rest : List Char) :
    splitDouble (groupsText groups ++ rest) =
      (splitDouble rest).map (withFront (groupsText groups)) := by
  induction groups with
  | nil => exact splitDouble_append List.not_mem_nil rest
  | cons g more ih =>
    have hg : ':' ∉ Nat.toDigits 16 g := mark_toDigits (by simp) g
    cases more with
    | nil => exact splitDouble_append hg rest
    | cons next more =>
      have htext : groupsText (g :: next :: more) =
          Nat.toDigits 16 g ++ ':' :: groupsText (next :: more) := rfl
      rw [htext, List.append_assoc, splitDouble_append hg, List.cons_append,
        splitDouble_cons (.inr (head_groupsText next more rest)), ih, map_withFront, map_withFront,
        List.append_assoc]
      rfl

theorem group?_toDigits {g : Nat} (h : g < 65536) : group? (Nat.toDigits 16 g) = some g := by
  have hlength : ¬ 4 < (Nat.toDigits 16 g).length :=
    Nat.not_lt.mpr ((Nat.length_toDigits_le_iff (by decide) (by decide)).mpr h)
  simp [group?, hlength, digitsIn_toDigits]

theorem groups?_map_toDigits {groups : List Nat} (h : ∀ g ∈ groups, g < 65536) :
    groups? (groups.map (Nat.toDigits 16)) = some groups := by
  induction groups with
  | nil => rfl
  | cons g more ih =>
    obtain ⟨hg, hmore⟩ := List.forall_mem_cons.mp h
    cases more with
    | nil =>
      have hdot := mark_toDigits (c := '.') (by decide) g
      simp [groups?, hdot, group?_toDigits hg]
    | cons next more =>
      have hread := ih hmore
      rw [List.map_cons] at hread
      rw [List.map_cons, List.map_cons, groups?, group?_toDigits hg, hread]
      · rfl
      · exact List.cons_ne_nil _ _

theorem groupsOf?_groupsText {groups : List Nat} (h : ∀ g ∈ groups, g < 65536) :
    groupsOf? (groupsText groups) = some groups := by
  cases groups with
  | nil => rfl
  | cons g more =>
    have hsplit : splitAt ':' (groupsText (g :: more)) = (g :: more).map (Nat.toDigits 16) := by
      refine splitAt_joinWith (fun piece hpiece => ?_) (by simp)
      obtain ⟨n, -, rfl⟩ := List.mem_map.mp hpiece
      exact mark_toDigits (by decide) n
    obtain ⟨rest, hrest⟩ := groupsText_cons g more
    have hsome : (groupsText (g :: more)).isEmpty = false := by
      rw [hrest]
      simp
    rw [groupsOf?, hsome, hsplit]
    exact groups?_map_toDigits h

def groupChars : List Char := "0123456789abcdef:".toList

theorem groupsText_subset (groups : List Nat) : groupsText groups ⊆ groupChars := by
  intro c hc
  rcases mem_joinWith hc with rfl | ⟨piece, hpiece, hc⟩
  · decide
  · obtain ⟨n, -, rfl⟩ := List.mem_map.mp hpiece
    obtain ⟨d, hd, rfl⟩ := mem_toDigits (by decide) hc
    have hdigits : ∀ d < 16, d.digitChar ∈ groupChars := by decide
    exact hdigits d hd

theorem ipv6Text_subset (groups : List Nat) : (ipv6Text groups).toList ⊆ groupChars := by
  rcases ipv6Text_spec groups with htext | ⟨front, zeros, back, -, htext⟩
  · exact htext ▸ groupsText_subset groups
  · rw [htext]
    have hcolon : ':' ∈ groupChars := by decide
    exact List.append_subset.mpr ⟨groupsText_subset front,
      List.cons_subset.mpr ⟨hcolon, List.cons_subset.mpr ⟨hcolon, groupsText_subset back⟩⟩⟩

theorem dot_groupsText (groups : List Nat) : (groupsText groups).contains '.' = false := by
  simp only [List.contains_eq_mem, decide_eq_false_iff_not]
  exact fun h => absurd (groupsText_subset groups h) (by decide)

theorem ipv6Groups?_ipv6Text {groups : List Nat} (hlength : groups.length = 8)
    (h : ∀ g ∈ groups, g < 65536) : ipv6Groups? (ipv6Text groups).toList = some groups := by
  rcases ipv6Text_spec groups with htext | ⟨front, zeros, back, hgroups, htext⟩
  · have hsplit := splitDouble_groupsText groups []
    rw [List.append_nil, splitDouble, Option.map_none] at hsplit
    simp only [ipv6Groups?, htext, hsplit, groupsOf?_groupsText h, hlength, if_true]
  · have hsplit := splitDouble_groupsText front (':' :: ':' :: groupsText back)
    rw [splitDouble, Option.map_some, withFront, List.append_nil] at hsplit
    have hfront : ∀ g ∈ front, g < 65536 := fun g hg => h g (by simp [hgroups, hg])
    have hback : ∀ g ∈ back, g < 65536 := fun g hg => h g (by simp [hgroups, hg])
    have hsum : front.length + (zeros + 1 + back.length) = 8 := by
      rw [← hlength, hgroups]
      simp
    have hle : front.length + back.length ≤ 7 := by omega
    have hzeros : 8 - front.length - back.length = zeros + 1 := by omega
    simp only [ipv6Groups?, htext, hsplit, dot_groupsText, groupsOf?_groupsText hfront,
      groupsOf?_groupsText hback, if_pos hle, hzeros, Bool.false_eq_true, if_false]
    rw [hgroups, List.append_assoc]

/-! ### What is read as an address -/

theorem group?_lt {cs : List Char} {g : Nat} (h : group? cs = some g) : g < 65536 := by
  unfold group? at h
  split at h
  · cases h
  · next hlength =>
    have hle : cs.length ≤ 4 := by simp at hlength; omega
    calc g < 16 ^ cs.length := digitsIn_lt h
      _ ≤ 16 ^ 4 := Nat.pow_le_pow_right (by decide) hle

theorem octet?_le {cs : List Char} {n : Nat} (h : octet? cs = some n) : n ≤ 255 := by
  unfold octet? at h
  split at h
  · cases h
  split at h
  · split at h
    · next hle =>
      cases h
      exact hle
    · cases h
  · cases h

theorem dottedGroups?_lt {cs : List Char} {groups : List Nat} (h : dottedGroups? cs = some groups) :
    ∀ g ∈ groups, g < 65536 := by
  unfold dottedGroups? at h
  split at h
  · next a b c d hoctets =>
    have hle : ∀ n ∈ [a, b, c, d], n ≤ 255 := fun n hn =>
      have ⟨_, _, hn⟩ := mapM_some hoctets n hn
      octet?_le hn
    simp only [List.forall_mem_cons] at hle
    cases h
    simp only [List.forall_mem_cons]
    refine ⟨by omega, by omega, by simp⟩
  · cases h

theorem groups?_lt {pieces : List (List Char)} {groups : List Nat}
    (h : groups? pieces = some groups) : ∀ g ∈ groups, g < 65536 := by
  fun_induction groups? pieces generalizing groups with
  | case1 =>
    cases h
    simp
  | case2 last hdot => exact dottedGroups?_lt h
  | case3 last hdot =>
    obtain ⟨g, hg, rfl⟩ := Option.map_eq_some_iff.mp h
    simpa using group?_lt hg
  | case4 piece more hmore ih =>
    obtain ⟨g, hg, h⟩ := Option.bind_eq_some_iff.mp h
    obtain ⟨rest, hrest, h⟩ := Option.bind_eq_some_iff.mp h
    cases h
    exact List.forall_mem_cons.mpr ⟨group?_lt hg, ih hrest⟩

theorem groupsOf?_lt {cs : List Char} {groups : List Nat} (h : groupsOf? cs = some groups) :
    ∀ g ∈ groups, g < 65536 := by
  unfold groupsOf? at h
  split at h
  · cases h
    simp
  · exact groups?_lt h

theorem ipv6Groups?_bounds {cs : List Char} {groups : List Nat} (h : ipv6Groups? cs = some groups) :
    groups.length = 8 ∧ ∀ g ∈ groups, g < 65536 := by
  unfold ipv6Groups? at h
  split at h
  · split at h
    · next gs hgs =>
      split at h
      · next hlength =>
        cases h
        exact ⟨hlength, groupsOf?_lt hgs⟩
      · cases h
    · cases h
  split at h
  · cases h
  split at h
  · next front back hfront hback =>
    split at h
    · next hle =>
      cases h
      refine ⟨by simp; omega, ?_⟩
      simp only [List.forall_mem_append]
      exact ⟨⟨groupsOf?_lt hfront, fun g hg => by rw [List.eq_of_mem_replicate hg]; decide⟩,
        groupsOf?_lt hback⟩
    · cases h
  · cases h

end Ipv6

end ClusterDeploy.Url
