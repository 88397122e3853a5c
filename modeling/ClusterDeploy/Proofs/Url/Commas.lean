import ClusterDeploy.Proofs.Url.Address
import ClusterDeploy.Proofs.Url.Segments
import ClusterDeploy.Url.Join
/-!
# Where the commas of a URL come from

Reading and writing a URL adds escapes, digits and separators to the characters it is given, but no
comma. Only the name of a host is unescaped and folded, so a comma may also come from an escape or
from a compatibility form there; in plain text there is neither.
-/
namespace ClusterDeploy.Url

open Text

def Plain (cs : List Char) : Prop := ∀ c ∈ cs, c.toNat < 128 ∧ c ≠ ',' ∧ c ≠ '%'

-- Over the members of the list; the search for an instance could take one over all characters.
instance (cs : List Char) : Decidable (Plain cs) := List.decidableBAll _ cs

variable {cs : List Char}

theorem Plain.comma (h : Plain cs) : ',' ∉ cs := fun hc => (h _ hc).2.1 rfl

theorem Plain.subset {part : List Char} (h : Plain cs) (hpart : part ⊆ cs) : Plain part :=
  fun c hc => h c (hpart hc)

/-! ## Numbers and escapes -/

theorem comma_decimal (n : Nat) : ',' ∉ (toString n).toList := by
  rw [Nat.toString_eq_ofList_toDigits, String.toList_ofList]
  intro h
  have hdigit := Nat.isDigit_of_mem_toDigits (by decide) (by decide) h
  exact absurd hdigit (by decide)

theorem comma_integer (n : Int) : ',' ∉ (toString n).toList := by
  cases n with
  | ofNat n => exact comma_decimal n
  | negSucc n =>
    have hminus : toString (Int.negSucc n) = "-" ++ toString (n + 1) := rfl
    rw [hminus, String.toList_append]
    intro h
    rcases List.mem_append.mp h with h | h
    · exact absurd h (by decide)
    · exact comma_decimal _ h

theorem comma_percentEncode (inSet : Char → Bool) (h : ',' ∉ cs) :
    ',' ∉ percentEncode inSet cs :=
  not_mem_percentEncode (by decide) h

/-! ## Hosts -/

theorem comma_joinWith {sep : Char} {pieces : List (List Char)} (hsep : sep ≠ ',')
    (h : ∀ piece ∈ pieces, ',' ∉ piece) : ',' ∉ joinWith sep pieces := by
  intro hc
  rcases mem_joinWith hc with hc | ⟨piece, hmem, hc⟩
  · exact hsep hc.symm
  · exact h piece hmem hc

theorem comma_ipv4Text (n : Nat) : ',' ∉ (ipv4Text n).toList := by
  simp only [ipv4Text, String.toList_append, List.mem_append, not_or]
  have hdot : ',' ∉ ".".toList := by decide
  exact ⟨⟨⟨⟨⟨⟨comma_decimal _, hdot⟩, comma_decimal _⟩, hdot⟩, comma_decimal _⟩, hdot⟩,
    comma_decimal _⟩

theorem comma_ipv6Text (groups : List Nat) : ',' ∉ (ipv6Text groups).toList := fun hc =>
  absurd (ipv6Text_subset groups hc) (by decide)

theorem percentDecode_plain (h : '%' ∉ cs) : percentDecode cs = encodeUtf8 (String.ofList cs) := by
  rw [encodeUtf8_eq, String.toList_ofList]
  fun_induction percentDecode cs with
  | case1 => rfl
  | case2 => simp at h
  | case3 => simp at h
  | case4 c rest _ ih =>
    have hrest : '%' ∉ rest := fun hc => h (List.mem_cons_of_mem _ hc)
    rw [ih hrest, encodeUtf8_eq, List.flatMap_cons]
    simp

theorem toLower_ascii {c : Char} (h : c.toNat < 128) (hcomma : c ≠ ',') :
    c.toLower.toNat < 128 ∧ c.toLower ≠ ',' := by
  obtain ⟨hascii, hback⟩ := forall_ascii
    (P := fun c => c.toLower.toNat < 128 ∧ (c.toLower = ',' → c = ',')) (by decide) h
  exact ⟨hascii, fun hc => hcomma (hback hc)⟩

theorem folded_plain (h : Plain cs) :
    ∀ d ∈ cs.flatMap foldChar, d.toNat < 128 ∧ d ≠ ',' := by
  intro d hd
  obtain ⟨c, hc, hd⟩ := List.mem_flatMap.mp hd
  obtain ⟨hascii, hcomma, _⟩ := h c hc
  have hfold : foldChar c = [c.toLower] := if_pos hascii
  rw [hfold, List.mem_singleton] at hd
  exact hd ▸ toLower_ascii hascii hcomma

theorem asciiLabel?_ascii {label written : List Char} (hascii : isAscii label = true)
    (h : asciiLabel? label = some written) : written = label := by
  unfold asciiLabel? at h
  rw [if_pos hascii] at h
  split at h
  · exact (Option.some.inj h).symm
  · split at h
    · cases h
    · split at h
      · cases h
      · exact (Option.some.inj h).symm

theorem asciiName?_comma {name : List Char} (plain : Plain cs) (h : asciiName? cs = some name) :
    ',' ∉ name := by
  unfold asciiName? at h
  dsimp only at h
  split at h
  · cases h
  obtain ⟨labels, hlabels, h⟩ := Option.bind_eq_some_iff.mp h
  cases h
  apply comma_joinWith (by decide)
  intro written hwritten hc
  obtain ⟨label, hlabel, hf⟩ := mapM_some hlabels written hwritten
  have hfolded : ∀ d ∈ label, d.toNat < 128 ∧ d ≠ ',' := fun d hd =>
    folded_plain plain d (mem_of_mem_splitAt hlabel hd)
  have hascii : isAscii label = true := List.all_eq_true.mpr fun d hd =>
    decide_eq_true (hfolded d hd).1
  rw [asciiLabel?_ascii hascii hf] at hc
  exact (hfolded _ hc).2 rfl

theorem bracketed_comma {host : Host} (h : bracketed cs = .ok host) : ',' ∉ host.text := by
  unfold bracketed at h
  split at h
  · cases hgroups : parseIpv6 (cs.drop 1).dropLast with
    | error e =>
      rw [hgroups] at h
      cases h
    | ok groups =>
      rw [hgroups] at h
      cases h
      simpa [Host.text] using comma_ipv6Text groups
  · cases h

theorem parseHost_comma {host : Host} (plain : Plain cs) (h : parseHost cs = .ok host) :
    ',' ∉ host.text := by
  have hescape : '%' ∉ cs := fun hc => (plain _ hc).2.2 rfl
  unfold parseHost at h
  split at h
  · cases h
  split at h
  · exact bracketed_comma h
  rw [percentDecode_plain hescape, decodeUtf8_encodeUtf8, String.toList_ofList] at h
  dsimp only at h
  split at h
  · cases h
  · cases h
  · next name _ hname =>
    split at h
    · cases hn : parseIpv4 name with
      | error e =>
        rw [hn] at h
        cases h
      | ok n =>
        rw [hn] at h
        cases h
        exact comma_ipv4Text n
    · cases h
      exact asciiName?_comma plain hname

theorem parseOpaqueHost_comma {host : Host} (hcomma : ',' ∉ cs)
    (h : parseOpaqueHost cs = .ok host) : ',' ∉ host.text := by
  unfold parseOpaqueHost at h
  split at h
  · exact bracketed_comma h
  split at h
  · cases h
  · cases h
    exact comma_percentEncode _ hcomma

/-! ## Reading a URL -/

/-- No part of the URL holds a comma. -/
structure Commaless (u : Url) : Prop where
  scheme : ',' ∉ u.scheme.toList
  authority : ∀ a ∈ u.authority, ',' ∉ a.text
  path : ',' ∉ u.path.text
  query : ∀ q ∈ u.query, ',' ∉ q
  fragment : ∀ f ∈ u.fragment, ',' ∉ f

theorem Commaless.chars {u : Url} (h : Commaless u) : ',' ∉ u.chars := by
  have hguard : ',' ∉ u.pathGuard := by
    unfold pathGuard
    split <;> decide
  simp only [Url.chars, List.mem_append, List.mem_cons, not_or]
  refine ⟨h.scheme, by decide, ⟨⟨⟨?authority, hguard⟩, h.path⟩, ?query⟩, ?fragment⟩
  case authority =>
    split
    · next a ha => simpa using h.authority a ha
    · simp
  case query =>
    split
    · next q hq => simpa using h.query q hq
    · simp
  case fragment =>
    split
    · next f hf => simpa using h.fragment f hf
    · simp

theorem clean_subset (cs : List Char) : clean cs ⊆ cs := by
  intro c hc
  have hc := (List.mem_filter.mp hc).1
  rw [List.mem_reverse] at hc
  have hc := (List.dropWhile_sublist _).subset hc
  rw [List.mem_reverse] at hc
  exact (List.dropWhile_sublist _).subset hc

theorem splitScheme_plain {scheme : String} {rest : List Char} (plain : Plain cs)
    (h : splitScheme cs = some (scheme, rest)) : ',' ∉ scheme.toList ∧ Plain rest := by
  unfold splitScheme at h
  split at h
  · split at h
    · dsimp only at h
      split at h
      · next rest' hrest =>
        cases h
        constructor
        · rw [String.toList_ofList]
          intro hc
          obtain ⟨c, hmem, hc⟩ := List.mem_map.mp hc
          obtain ⟨hascii, hcomma, _⟩ := plain c ((List.takeWhile_sublist _).subset hmem)
          exact (toLower_ascii hascii hcomma).2 hc
        · apply plain.subset
          intro c hc
          apply (List.dropWhile_sublist _).subset
          rw [hrest]
          exact List.mem_cons_of_mem _ hc
      · cases h
    · cases h
  · cases h

theorem comma_segments {items : List (List Char)} (h : ∀ s ∈ items, ',' ∉ s) :
    ',' ∉ (UrlPath.segments items).text := by
  intro hc
  rcases mem_segments_text hc with hc | ⟨s, hs, hc⟩
  · exact absurd hc (by decide)
  · exact h s hs hc

theorem comma_readPath (special : Bool) (h : ',' ∉ cs) : ',' ∉ (readPath special cs).text := by
  have hslashed : ',' ∉ slashed special cs := by
    unfold slashed
    split
    · intro hc
      obtain ⟨c, hmem, hc⟩ := List.mem_map.mp hc
      split at hc
      · exact absurd hc (by decide)
      · exact h (hc ▸ hmem)
    · exact h
  have hpieces {rest : List Char} (hrest : ',' ∉ rest) : ∀ s ∈ resolveFrom []
      ((splitAt '/' rest).map (percentEncode inPathSet)), ',' ∉ s := by
    intro s hs
    rcases mem_resolveFrom hs with hs | rfl | ⟨hs, -⟩
    · cases hs
    · simp
    · obtain ⟨piece, hpiece, rfl⟩ := List.mem_map.mp hs
      exact comma_percentEncode _ fun hc => hrest (mem_of_mem_splitAt hpiece hc)
  unfold readPath
  split
  · apply comma_segments
    intro s hs
    split at hs
    · rw [List.mem_singleton.mp hs]
      simp
    · cases hs
  · next rest hrest =>
    rw [hrest] at hslashed
    exact comma_segments (hpieces fun hc => hslashed (List.mem_cons_of_mem _ hc))
  · exact comma_segments (hpieces hslashed)

theorem splitOnce_comma {sep : Char} {before after : List Char}
    (h : splitOnce sep cs = some (before, after)) (hcomma : ',' ∉ cs) :
    ',' ∉ before ∧ ',' ∉ after := by
  obtain ⟨rfl, _⟩ := splitOnce_eq_some h
  exact ⟨fun hc => hcomma (List.mem_append_left _ hc),
    fun hc => hcomma (List.mem_append_right _ (List.mem_cons_of_mem _ hc))⟩

theorem splitOnce_encoded {sep : Char} {before after : List Char} (inSet : Char → Bool)
    (h : splitOnce sep cs = some (before, after)) (hcomma : ',' ∉ cs) :
    ',' ∉ before ∧ ∀ part ∈ some (percentEncode inSet after), ',' ∉ part := by
  obtain ⟨hbefore, hafter⟩ := splitOnce_comma h hcomma
  refine ⟨hbefore, ?_⟩
  intro part hpart
  rw [← Option.some.inj hpart]
  exact comma_percentEncode inSet hafter

theorem comma_splitTail (special : Bool) (h : ',' ∉ cs) :
    ',' ∉ (splitTail special cs).1 ∧ (∀ q ∈ (splitTail special cs).2.1, ',' ∉ q) ∧
      ∀ f ∈ (splitTail special cs).2.2, ',' ∉ f := by
  have hnone : ∀ part ∈ (none : Option (List Char)), ',' ∉ part := by simp
  unfold splitTail
  cases hfragment : splitOnce '#' cs with
  | none =>
    dsimp only
    cases hquery : splitOnce '?' cs with
    | none => exact ⟨h, hnone, hnone⟩
    | some parts =>
      obtain ⟨hpath, hq⟩ := splitOnce_encoded _ hquery h
      exact ⟨hpath, hq, hnone⟩
  | some parts =>
    obtain ⟨hbody, hf⟩ := splitOnce_encoded inFragmentSet hfragment h
    dsimp only
    cases hquery : splitOnce '?' parts.1 with
    | none => exact ⟨hbody, hnone, hf⟩
    | some parts' =>
      obtain ⟨hpath, hq⟩ := splitOnce_encoded _ hquery hbody
      exact ⟨hpath, hq, hf⟩

theorem splitLogin_subset (cs : List Char) :
    (splitLogin cs).1.getD [] ⊆ cs ∧ (splitLogin cs).2 ⊆ cs := by
  unfold splitLogin
  dsimp only
  split
  · exact ⟨List.nil_subset _, List.Subset.refl _⟩
  · refine ⟨List.take_subset _ _, ?_⟩
    intro c hc
    rw [List.mem_reverse] at hc
    exact List.mem_reverse.mp ((List.takeWhile_sublist _).subset hc)

theorem comma_readLogin (h : ',' ∉ cs) :
    ',' ∉ (readLogin cs).1 ∧ ',' ∉ (readLogin cs).2 := by
  unfold readLogin
  cases hlogin : splitOnce ':' cs with
  | none => exact ⟨comma_percentEncode _ h, by simp⟩
  | some parts =>
    obtain ⟨huser, hpassword⟩ := splitOnce_comma hlogin h
    exact ⟨comma_percentEncode _ huser, comma_percentEncode _ hpassword⟩

theorem splitPort_subset (inBrackets : Bool) (cs : List Char) :
    (splitPort inBrackets cs).1 ⊆ cs := by
  fun_induction splitPort inBrackets cs with
  | case1 => exact List.Subset.refl _
  | case2 => exact List.nil_subset _
  | case3 inBrackets c rest _ host port hsplit ih =>
    rw [hsplit] at ih
    exact List.cons_subset_cons c ih

theorem readAuthority_parts {scheme : String} {a : Authority}
    (h : readAuthority scheme cs = .ok a) :
    (a.user, a.password) = readLogin ((splitLogin cs).1.getD []) ∧
      (if isSpecial scheme then parseHost (splitPort false (splitLogin cs).2).1
        else parseOpaqueHost (splitPort false (splitLogin cs).2).1) = .ok a.host ∧
      ∀ n, a.port = some n → ∃ digits, readPort scheme digits = .ok (some n) := by
  unfold readAuthority at h
  dsimp only [bind, Except.bind, throw, throwThe, MonadExceptOf.throw, pure, Except.pure] at h
  -- All branches but those that end in the authority are errors.
  repeat' split at h
  all_goals cases h
  all_goals refine ⟨rfl, by simp only [*, if_true, Bool.false_eq_true, if_false], ?_⟩
  all_goals rintro n ⟨⟩
  all_goals exact ⟨_, ‹_›⟩

theorem readAuthority_comma {scheme : String} {a : Authority} (plain : Plain cs)
    (h : readAuthority scheme cs = .ok a) : ',' ∉ a.text := by
  obtain ⟨hlogin, hhost, -⟩ := readAuthority_parts h
  obtain ⟨hbefore, hafter⟩ := splitLogin_subset cs
  obtain ⟨huser, hpassword⟩ := comma_readLogin (plain.subset hbefore).comma
  rw [← hlogin] at huser hpassword
  have hplain : Plain (splitPort false (splitLogin cs).2).1 :=
    plain.subset fun c hc => hafter (splitPort_subset _ _ hc)
  have hname : ',' ∉ a.host.text := by
    split at hhost
    · exact parseHost_comma hplain hhost
    · exact parseOpaqueHost_comma hplain.comma hhost
  simp only [Authority.text, List.mem_append, not_or]
  refine ⟨⟨?login, hname⟩, ?port⟩
  case login =>
    split
    · simp
    split
    · simpa using huser
    · simpa using ⟨huser, hpassword⟩
  case port =>
    split
    · simp
    · simpa using comma_decimal _

theorem readHierarchy_commaless {scheme : String} {u : Url} (plain : Plain cs)
    (hscheme : ',' ∉ scheme.toList) (h : readHierarchy scheme cs = .ok u) : Commaless u := by
  unfold readHierarchy at h
  dsimp only at h
  cases ha : readAuthority scheme (cs.takeWhile fun c => !isAuthorityEnd (isSpecial scheme) c) with
  | error e =>
    rw [ha] at h
    cases h
  | ok a =>
    rw [ha] at h
    cases h
    have hauthority := readAuthority_comma (plain.subset (List.takeWhile_sublist _).subset) ha
    have hrest := plain.subset
      (List.dropWhile_sublist fun c => !isAuthorityEnd (isSpecial scheme) c).subset
    obtain ⟨hpath, hquery, hfragment⟩ := comma_splitTail (isSpecial scheme) hrest.comma
    exact {
      scheme := hscheme
      authority := fun a ha => Option.some.inj ha ▸ hauthority
      path := comma_readPath _ hpath
      query := hquery
      fragment := hfragment }

theorem splitFileHost_subset (cs : List Char) :
    (splitFileHost cs).1 ⊆ cs ∧ (splitFileHost cs).2 ⊆ cs := by
  unfold splitFileHost
  dsimp only
  split
  · next a b more =>
    have hmore : more ⊆ a :: b :: more := fun c hc =>
      List.mem_cons_of_mem _ (List.mem_cons_of_mem _ hc)
    split
    · exact ⟨fun c hc => hmore ((List.takeWhile_sublist _).subset hc),
        fun c hc => hmore ((List.dropWhile_sublist _).subset hc)⟩
    · exact ⟨List.nil_subset _, List.Subset.refl _⟩
  · exact ⟨List.nil_subset _, List.Subset.refl _⟩

theorem readFile_commaless {u : Url} (plain : Plain cs) (h : readFile cs = .ok u) :
    Commaless u := by
  obtain ⟨hhost, hrest⟩ := splitFileHost_subset cs
  obtain ⟨hpath, hquery, hfragment⟩ := comma_splitTail true (plain.subset hrest).comma
  have hscheme : ',' ∉ "file".toList := by decide
  have hread {host : Host} (hname : ',' ∉ host.text) : Commaless {
      scheme := "file", authority := some { host },
      path := readPath true (splitTail true (splitFileHost cs).2).1,
      query := (splitTail true (splitFileHost cs).2).2.1,
      fragment := (splitTail true (splitFileHost cs).2).2.2 } := by
    refine ⟨hscheme, ?_, comma_readPath _ hpath, hquery, hfragment⟩
    intro a ha
    cases ha
    simpa [Authority.text] using hname
  have hnone : ',' ∉ (Host.name []).text := List.not_mem_nil
  unfold readFile at h
  dsimp only [bind, Except.bind, pure, Except.pure] at h
  split at h
  · cases h
    exact hread hnone
  · cases hparse : parseHost (splitFileHost cs).1 with
    | error e =>
      rw [hparse] at h
      cases h
    | ok host =>
      rw [hparse] at h
      cases h
      apply hread
      split
      · exact hnone
      · exact parseHost_comma (plain.subset hhost) hparse

theorem parseChars_commaless {u : Url} (plain : Plain cs) (h : parseChars cs = .ok u) :
    Commaless u := by
  unfold parseChars at h
  split at h
  · cases h
  · next scheme rest hscheme =>
    obtain ⟨hname, hrest⟩ := splitScheme_plain (plain.subset (clean_subset cs)) hscheme
    split at h
    · exact readFile_commaless hrest h
    split at h
    · exact readHierarchy_commaless (hrest.subset (List.dropWhile_sublist _).subset) hname h
    · obtain ⟨hpath, hquery, hfragment⟩ := comma_splitTail false hrest.comma
      split at h
      · exact readHierarchy_commaless (hrest.subset (by simp)) hname h
      · cases h
        exact ⟨hname, by simp, comma_readPath _ hpath, hquery, hfragment⟩
      · cases h
        exact ⟨hname, by simp, comma_percentEncode _ hpath, hquery, hfragment⟩

/-! ## Joining -/

theorem Commaless.setPath {u : Url} {path : List Char} (h : Commaless u) (hpath : ',' ∉ path) :
    Commaless (u.setPath path) := by
  have hclean : ',' ∉ path.filter fun c => !isTabOrBreak c :=
    fun hc => hpath (List.mem_filter.mp hc).1
  unfold Url.setPath
  dsimp only
  split
  · exact { h with path := comma_readPath _ hclean }
  · split
    · next rest hrest =>
      rw [hrest] at hclean
      refine { h with path := ?_ }
      have hencoded := comma_percentEncode isControl fun hc => hclean (List.mem_cons_of_mem _ hc)
      simpa [UrlPath.text] using hencoded
    · exact { h with path := comma_percentEncode _ hclean }

theorem mem_foldl_stepStack {stack segments : List (List Char)} {s : List Char}
    (h : s ∈ segments.foldl stepStack stack) : s ∈ stack ∨ s ∈ segments := by
  induction segments generalizing stack with
  | nil => exact .inl h
  | cons segment more ih =>
    rcases ih h with h | h
    · unfold stepStack at h
      split at h
      · exact .inl h
      split at h
      · exact .inl (List.dropLast_subset _ h)
      · rcases List.mem_append.mp h with h | h
        · exact .inl h
        · exact .inr (List.mem_singleton.mp h ▸ List.mem_cons_self)
    · exact .inr (List.mem_cons_of_mem _ h)

theorem comma_joinedPath {segments : List (List Char)} {relative : List Char}
    (hsegments : ∀ s ∈ segments, ',' ∉ s) (hrelative : ',' ∉ relative) :
    ',' ∉ joinedPath segments relative := by
  have hpath :
      ',' ∉ '/' :: joinWith '/' ((Text.splitAt '/' relative).foldl stepStack segments) := by
    intro hc
    rcases List.mem_cons.mp hc with hc | hc
    · exact absurd hc (by decide)
    · refine comma_joinWith (by decide) ?_ hc
      intro s hs hc
      rcases mem_foldl_stepStack hs with hs | hs
      · exact hsegments s hs hc
      · exact hrelative (mem_of_mem_splitAt hs hc)
  unfold joinedPath
  dsimp only
  split
  · simpa using hpath
  · exact hpath

theorem Commaless.namedSegments {u : Url} (h : Commaless u) : ∀ s ∈ u.namedSegments, ',' ∉ s := by
  intro s hs hc
  unfold Url.namedSegments at hs
  split at hs
  · next items hitems =>
    apply h.path
    rw [hitems]
    exact List.mem_flatMap.mpr ⟨s, (List.mem_filter.mp hs).1, List.mem_cons_of_mem _ hc⟩
  · cases hs

theorem joinText_eq (base relative : String) :
    joinText base relative = (parse base).map fun u =>
      if relative = "" then base else (u.joinPath relative.toList).text := by
  unfold joinText
  cases parse base with
  | error e => rfl
  | ok u =>
    change (if relative.isEmpty = true then _ else _) = Except.ok _
    simp only [String.isEmpty_iff]
    split <;> rfl

theorem joinText_comma {base relative text : String} (hbase : Plain base.toList)
    (hrelative : ',' ∉ relative.toList) (h : joinText base relative = .ok text) :
    ',' ∉ text.toList := by
  rw [joinText_eq] at h
  cases hu : parse base with
  | error e =>
    rw [hu] at h
    cases h
  | ok u =>
    rw [hu] at h
    cases h
    have hparts : Commaless u := parseChars_commaless hbase hu
    dsimp only
    split
    · exact hbase.comma
    · rw [Url.text, String.toList_ofList]
      exact (hparts.setPath (comma_joinedPath hparts.namedSegments hrelative)).chars

end ClusterDeploy.Url
