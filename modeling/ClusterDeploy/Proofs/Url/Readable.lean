import ClusterDeploy.Proofs.Url.Authority
/-!
# URLs of the web read back

A URL that was read is written in a form that is read as the same URL: every part is encoded as far
as it has to be, and no part holds a character that another part starts with. That stays so when the
path is replaced.
-/
namespace ClusterDeploy.Url

open Text

def IsWeb (scheme : String) : Prop := scheme = "http" ∨ scheme = "https"

instance (scheme : String) : Decidable (IsWeb scheme) := inferInstanceAs (Decidable (_ ∨ _))

theorem IsWeb.special {scheme : String} (h : IsWeb scheme) :
    isSpecial scheme = true ∧ (scheme == "file") = false := by
  rcases h with rfl | rfl <;> decide

/-- A URL whose text is read as it. -/
structure Readable (u : Url) : Prop where
  web : IsWeb u.scheme
  authority : ∃ a, u.authority = some a ∧ a.Readable u.scheme
  path : ∃ items, u.path = .segments items ∧ items ≠ [] ∧ ∀ s ∈ items, Settled s
  query : ∀ q, u.query = some q → Kept inSpecialQuerySet q
  fragment : ∀ f, u.fragment = some f → Kept inFragmentSet f

/-! ## Reading -/

theorem splitTail_kept (cs : List Char) :
    (∀ q, (splitTail true cs).2.1 = some q → Kept inSpecialQuerySet q) ∧
      ∀ f, (splitTail true cs).2.2 = some f → Kept inFragmentSet f := by
  have hquery := kept_percentEncode (show Kept inSpecialQuerySet escapeChars by decide)
  have hfragment := kept_percentEncode (show Kept inFragmentSet escapeChars by decide)
  unfold splitTail
  cases splitOnce '#' cs with
  | none =>
    dsimp only
    cases splitOnce '?' cs with
    | none => simp
    | some parts => simpa using hquery parts.2
  | some parts =>
    dsimp only
    cases splitOnce '?' parts.1 with
    | none => simpa using hfragment parts.2
    | some parts' => simpa using ⟨hquery parts'.2, hfragment parts.2⟩

theorem bind_eq_ok {x : Except ε α} {f : α → Except ε β} {b : β} (h : x >>= f = .ok b) :
    ∃ a, x = .ok a ∧ f a = .ok b := by
  cases x with
  | error e => cases h
  | ok a => exact ⟨a, rfl, h⟩

theorem readHierarchy_readable {scheme : String} {cs : List Char} {u : Url} (hweb : IsWeb scheme)
    (h : readHierarchy scheme cs = .ok u) : u.Readable := by
  obtain ⟨hspecial, -⟩ := hweb.special
  unfold readHierarchy at h
  simp only [hspecial] at h
  obtain ⟨hquery, hfragment⟩ := splitTail_kept (cs.dropWhile fun c => !isAuthorityEnd true c)
  obtain ⟨a, ha, h⟩ := bind_eq_ok h
  cases h
  exact {
    web := hweb
    authority := ⟨a, rfl, readAuthority_readable hspecial ha⟩
    path := readPath_settled _
    query := hquery
    fragment := hfragment }

theorem readHierarchy_scheme {scheme : String} {cs : List Char} {u : Url}
    (h : readHierarchy scheme cs = .ok u) : u.scheme = scheme := by
  obtain ⟨a, -, h⟩ := bind_eq_ok h
  cases h
  rfl

theorem readFile_scheme {cs : List Char} {u : Url} (h : readFile cs = .ok u) :
    u.scheme = "file" := by
  unfold readFile at h
  dsimp only at h
  split at h
  · cases h
    rfl
  · obtain ⟨host, -, h⟩ := bind_eq_ok h
    cases h
    rfl

theorem parse_readable {text : String} {u : Url} (h : parse text = .ok u) (hweb : IsWeb u.scheme) :
    u.Readable := by
  obtain ⟨hspecial, hfile⟩ := hweb.special
  rw [parse, parseChars] at h
  split at h
  · cases h
  next scheme rest _ =>
    split at h
    · rw [readFile_scheme h] at hfile
      cases hfile
    split at h
    · exact readHierarchy_readable (readHierarchy_scheme h ▸ hweb) h
    -- Without a host of its own no scheme is one of the web.
    next hplain =>
      have hscheme : u.scheme ≠ scheme := fun heq => hplain (heq ▸ hspecial)
      split at h
      · exact absurd (readHierarchy_scheme h) hscheme
      · cases h
        exact absurd rfl hscheme
      · cases h
        exact absurd rfl hscheme

theorem Readable.setPath {u : Url} (h : u.Readable) (path : List Char) :
    ∃ items, u.setPath path = { u with path := .segments items } ∧
      (u.setPath path).Readable := by
  obtain ⟨old, hold, -⟩ := h.path
  obtain ⟨items, hitems, hsettled⟩ := readPath_settled (path.filter fun c => !isTabOrBreak c)
  have hset : u.setPath path = { u with path := .segments items } := by
    simp only [Url.setPath, hold, h.web.special.1, hitems]
  refine ⟨items, hset, ?_⟩
  rw [hset]
  exact { h with path := ⟨items, rfl, hsettled⟩ }

/-! ## Reading back -/

def marked (mark : Char) : Option (List Char) → List Char
  | none => []
  | some part => mark :: part

theorem splitOnce_marked {mark : Char} {before : List Char} (h : mark ∉ before)
    (part : Option (List Char)) :
    splitOnce mark (before ++ marked mark part) = part.map fun part => (before, part) := by
  cases part with
  | none => rw [marked, List.append_nil, splitOnce_eq_none h, Option.map_none]
  | some part => rw [marked, splitOnce_append h, Option.map_some]

theorem visible_marked {mark : Char} (hmark : IsVisible mark) {part : Option (List Char)}
    (h : ∀ text, part = some text → ∀ c ∈ text, IsVisible c) :
    ∀ c ∈ marked mark part, IsVisible c := by
  cases part with
  | none => simp [marked]
  | some text => exact List.forall_mem_cons.mpr ⟨hmark, h text rfl⟩

theorem splitTail_text {path : List Char} {query fragment : Option (List Char)}
    (hquery : ∀ q, query = some q → Kept inSpecialQuerySet q)
    (hfragment : ∀ f, fragment = some f → Kept inFragmentSet f) (hmark : '?' ∉ path)
    (hsign : '#' ∉ path) :
    splitTail true (path ++ (marked '?' query ++ marked '#' fragment)) =
      (path, query, fragment) := by
  have hbefore : '#' ∉ path ++ marked '?' query := by
    rw [List.mem_append, not_or]
    refine ⟨hsign, ?_⟩
    cases query with
    | none => exact List.not_mem_nil
    | some q =>
      refine List.not_mem_cons_of_ne_of_not_mem (by decide) fun hc => ?_
      exact absurd (hquery q rfl _ hc) (by decide)
  rw [← List.append_assoc, splitTail, splitOnce_marked hbefore]
  cases fragment with
  | none =>
    have hend : path ++ marked '?' query ++ marked '#' none = path ++ marked '?' query :=
      List.append_nil _
    simp only [hend, Option.map_none, splitOnce_marked hmark]
    cases query with
    | none => simp [marked]
    | some q => simp [(hquery q rfl).percentEncode]
  | some f =>
    simp only [Option.map_some, splitOnce_marked hmark, (hfragment f rfl).percentEncode]
    cases query with
    | none => simp [marked]
    | some q => simp [(hquery q rfl).percentEncode]

theorem clean_visible {cs : List Char} (h : ∀ c ∈ cs, IsVisible c) : clean cs = cs := by
  have houter (cs : List Char) (h : ∀ c ∈ cs, IsVisible c) :
      cs.dropWhile (fun c => c.toNat ≤ 32) = cs := by
    cases cs with
    | nil => rfl
    | cons c rest =>
      have hc := (h c List.mem_cons_self).1
      exact List.dropWhile_cons_of_neg (by simpa using hc)
  have hinner : cs.filter (fun c => !isTabOrBreak c) = cs := by
    rw [List.filter_eq_self]
    intro c hc
    have hbreaks : ∀ c ∈ ['\t', '\n', '\r'], ¬ IsVisible c :=
      List.all_iff_forall_prop.mp (by decide)
    rw [Bool.not_eq_true', Bool.eq_false_iff]
    intro hbreak
    refine hbreaks c ?_ (h c hc)
    simpa [isTabOrBreak, or_assoc] using hbreak
  have hback := houter _ fun c hc => h c (List.mem_reverse.mp hc)
  rw [clean, houter cs h, hback, List.reverse_reverse, hinner]

theorem splitScheme_web {scheme : String} (hweb : IsWeb scheme) (rest : List Char) :
    splitScheme (scheme.toList ++ ':' :: rest) = some (scheme, rest) := by
  rcases hweb with rfl | rfl <;> rfl

/-- Any number of slashes stands before the host, two of them when it is written. -/
theorem dropSlashes {cs : List Char} (h : ∀ c ∈ cs.head?, c ∉ ['/', '\\']) :
    ('/' :: '/' :: cs).dropWhile (fun c => c == '/' || c == '\\') = cs := by
  cases cs with
  | nil => rfl
  | cons c rest =>
    have hc := h c rfl
    simp only [List.mem_cons, not_or] at hc
    simp [hc]

theorem chars_eq {u : Url} {a : Authority} (ha : u.authority = some a) :
    u.chars = u.scheme.toList ++ ':' :: '/' :: '/' ::
      (a.text ++ (u.path.text ++ (marked '?' u.query ++ marked '#' u.fragment))) := by
  have hguard : u.pathGuard = [] := by
    unfold pathGuard
    rw [ha]
  rw [Url.chars, ha, hguard]
  cases u.query <;> cases u.fragment <;> simp [marked]

theorem Readable.path_chars {u : Url} (h : u.Readable) :
    ∀ c ∈ u.path.text, IsVisible c ∧ c ≠ '?' ∧ c ≠ '#' := by
  obtain ⟨items, hitems, -, hsettled⟩ := h.path
  rw [hitems]
  intro c hc
  rcases mem_settled_text hsettled hc with rfl | ⟨hkept, -⟩
  · decide
  · have hmarks : ∀ c ∈ ['?', '#'], inPathSet c ≠ false :=
      List.all_iff_forall_prop.mp (by decide)
    exact ⟨isVisible_of_fragment (inFragmentSet_of_path hkept),
      fun heq => hmarks c (by simp [heq]) hkept, fun heq => hmarks c (by simp [heq]) hkept⟩

theorem readHierarchy_text {u : Url} {a : Authority} (h : u.Readable) (ha : u.authority = some a) :
    readHierarchy u.scheme
      (a.text ++ (u.path.text ++ (marked '?' u.query ++ marked '#' u.fragment))) = .ok u := by
  obtain ⟨hspecial, -⟩ := h.web.special
  obtain ⟨a', ha', hreadable⟩ := h.authority
  obtain rfl : a = a' := Option.some.inj (ha.symm.trans ha')
  obtain ⟨items, hitems, hne, hsettled⟩ := h.path
  have hauthority : ∀ c ∈ a.text, (!isAuthorityEnd true c) = true := by
    intro c hc
    have hmarks := (hreadable.chars c hc).2
    simp only [List.mem_cons, List.not_mem_nil, or_false, not_or] at hmarks
    simp [isAuthorityEnd, hmarks]
  have htail := splitTail_text h.query h.fragment (fun hc => (h.path_chars _ hc).2.1 rfl)
    (fun hc => (h.path_chars _ hc).2.2 rfl)
  rw [hitems, segments_text hne, List.cons_append] at htail ⊢
  -- The authority is what stands before the first slash of the path.
  have htake (rest : List Char) :
      (a.text ++ '/' :: rest).takeWhile (fun c => !isAuthorityEnd true c) = a.text :=
    (List.takeWhile_append_of_pos hauthority).trans (List.append_nil _)
  have hdrop (rest : List Char) :
      (a.text ++ '/' :: rest).dropWhile (fun c => !isAuthorityEnd true c) = '/' :: rest :=
    List.dropWhile_append_of_pos hauthority
  simp only [readHierarchy, hspecial, htake, hdrop, htail,
    readAuthority_text hreadable hspecial]
  rw [← segments_text hne, readPath_text hne hsettled, ← hitems]
  change Except.ok { u with authority := some a } = _
  rw [← ha]

theorem Readable.visible {u : Url} (h : u.Readable) : ∀ c ∈ u.chars, IsVisible c := by
  obtain ⟨a, ha, hreadable⟩ := h.authority
  have hscheme : ∀ c ∈ u.scheme.toList, IsVisible c := by
    rcases h.web with hweb | hweb <;> rw [hweb] <;>
      exact List.all_iff_forall_prop.mp (by decide)
  have hquery : ∀ c ∈ marked '?' u.query, IsVisible c :=
    visible_marked (by decide) fun q hq c hc => isVisible_of_query (h.query q hq c hc)
  have hfragment : ∀ c ∈ marked '#' u.fragment, IsVisible c :=
    visible_marked (by decide) fun f hf c hc => isVisible_of_fragment (h.fragment f hf c hc)
  have hcolon : IsVisible ':' := by decide
  have hslash : IsVisible '/' := by decide
  rw [chars_eq ha]
  simp only [List.forall_mem_append, List.forall_mem_cons]
  exact ⟨hscheme, hcolon, hslash, hslash, fun c hc => (hreadable.chars c hc).1,
    fun c hc => (h.path_chars c hc).1, hquery, hfragment⟩

/-- What is read is written in a form that is read as the same. -/
theorem Readable.parse {u : Url} (h : u.Readable) : Url.parse u.text = .ok u := by
  obtain ⟨a, ha, hreadable⟩ := h.authority
  obtain ⟨hspecial, hfile⟩ := h.web.special
  have hslashes : ∀ c ∈ (a.text ++ (u.path.text ++ (marked '?' u.query ++
      marked '#' u.fragment))).head?, c ∉ ['/', '\\'] := by
    intro c hc hmark
    rw [List.head?_append_of_ne_nil _ hreadable.ne_nil] at hc
    have hsubset : ['/', '\\'] ⊆ ['/', '?', '#', '\\'] := by decide
    exact (hreadable.chars c (List.mem_of_mem_head? hc)).2 (hsubset hmark)
  rw [Url.parse, Url.text, String.toList_ofList, parseChars, clean_visible h.visible, chars_eq ha,
    splitScheme_web h.web]
  simp only [hfile, hspecial, Bool.false_eq_true, if_false, if_true, dropSlashes hslashes]
  exact readHierarchy_text h ha

end ClusterDeploy.Url
