import ClusterDeploy.Proofs.Url.HostName
/-!
# Who and where, read back

The login, the host and the port of a URL stand between the slashes and the path. None of them holds
a character that another one of them or the path starts with, so they are told apart again.
-/
namespace ClusterDeploy.Url

open Text

/-- An authority whose text is read as it. -/
structure Authority.Readable (scheme : String) (a : Authority) : Prop where
  user : Kept inUserSet a.user
  password : Kept inUserSet a.password
  host : a.host.Readable
  port : ∀ n, a.port = some n → n ≤ 65535 ∧ defaultPort? scheme ≠ some n

/-! ## Reading -/

theorem readLogin_kept (login : List Char) :
    Kept inUserSet (readLogin login).1 ∧ Kept inUserSet (readLogin login).2 := by
  have hkept := kept_percentEncode (show Kept inUserSet escapeChars by decide)
  unfold readLogin
  split
  · exact ⟨hkept _, hkept _⟩
  · exact ⟨hkept _, by simp [Kept]⟩

theorem readPort_bounds {scheme : String} {digits : List Char} {n : Nat}
    (h : readPort scheme digits = .ok (some n)) : n ≤ 65535 ∧ defaultPort? scheme ≠ some n := by
  unfold readPort at h
  dsimp only at h
  split at h
  · cases h
  split at h
  · cases h
  next hbound =>
    split at h
    · cases h
    · next hdefault =>
      cases h
      simp only [Bool.or_eq_true, beq_iff_eq, not_or] at hdefault
      exact ⟨by omega, hdefault.2⟩

theorem readAuthority_readable {scheme : String} {cs : List Char} {a : Authority}
    (hspecial : isSpecial scheme = true) (h : readAuthority scheme cs = .ok a) :
    a.Readable scheme := by
  obtain ⟨hlogin, hhost, hport⟩ := readAuthority_parts h
  have hkept := readLogin_kept ((splitLogin cs).1.getD [])
  rw [← hlogin] at hkept
  rw [if_pos hspecial] at hhost
  exact {
    user := hkept.1
    password := hkept.2
    host := parseHost_readable hhost
    port := fun n hn => have ⟨_, hdigits⟩ := hport n hn; readPort_bounds hdigits }

/-! ## Reading back -/

theorem splitLogin_none {rest : List Char} (h : '@' ∉ rest) : splitLogin rest = (none, rest) := by
  have hafter : (rest.reverse.takeWhile (· != '@')).reverse = rest := afterLast_append h []
  simp only [splitLogin, hafter, if_true]

theorem splitLogin_append (login : List Char) {rest : List Char} (h : '@' ∉ rest) :
    splitLogin (login ++ '@' :: rest) = (some login, rest) := by
  have hafter : ((login ++ '@' :: rest).reverse.takeWhile (· != '@')).reverse = rest := by
    rw [List.append_cons, afterLast_append h]
    simp
  have hlength : (login ++ '@' :: rest).length = login.length + (rest.length + 1) := by simp
  have hlogin : login.length + (rest.length + 1) - rest.length - 1 = login.length := by omega
  have hne : rest.length ≠ login.length + (rest.length + 1) := by omega
  simp only [splitLogin, hafter, hlength, if_neg hne, hlogin, List.take_left]

def loginText (user password : List Char) : List Char :=
  if password.isEmpty then user else user ++ ':' :: password

theorem readLogin_loginText {user password : List Char} (huser : Kept inUserSet user)
    (hpassword : Kept inUserSet password) :
    readLogin (loginText user password) = (user, password) := by
  have hcolon : ':' ∉ user := fun hc => absurd (huser _ hc) (by decide)
  unfold loginText
  split
  · next hempty =>
    rw [readLogin, splitOnce_eq_none hcolon]
    simp only [huser.percentEncode, List.isEmpty_iff.mp hempty]
  · rw [readLogin, splitOnce_append hcolon]
    simp only [huser.percentEncode, hpassword.percentEncode]

def portText : Option Nat → List Char
  | none => []
  | some n => ':' :: Nat.toDigits 10 n

theorem readPort_toDigits {scheme : String} {n : Nat} (hbound : n ≤ 65535)
    (hdefault : defaultPort? scheme ≠ some n) :
    readPort scheme (Nat.toDigits 10 n) = .ok (some n) := by
  have hdigits : (Nat.toDigits 10 n).all isDigit = true :=
    List.all_eq_true.mpr fun c hc => isDigit_toDigits hc
  have hvalue : (Nat.toDigits 10 n).foldl (fun n d => n * 10 + (d.toNat - 48)) 0 = n := by
    have hread := Nat.ofDigitChars_ten_toDigits (n := n)
    rw [Nat.ofDigitChars_eq_foldl] at hread
    simp only [Nat.mul_comm 10] at hread
    exact hread
  have hsome : (Nat.toDigits 10 n).isEmpty = false := by simp
  simp only [readPort, hdigits, hvalue, hsome]
  simp [hdefault, hbound]

theorem Authority.text_eq (a : Authority) :
    a.text = (if a.user.isEmpty && a.password.isEmpty then []
      else loginText a.user a.password ++ ['@']) ++ (a.host.text ++ portText a.port) := by
  rw [Authority.text, List.append_assoc]
  congr 1
  · unfold loginText
    split
    · rfl
    split
    · rfl
    · simp
  · cases a.port <;> simp [portText]

theorem mem_portText {port : Option Nat} {c : Char} (hc : c ∈ portText port) :
    c ∈ ":0123456789".toList := by
  cases port with
  | none => cases hc
  | some n =>
    rcases List.mem_cons.mp hc with rfl | hc
    · decide
    · obtain ⟨d, hd, rfl⟩ := mem_toDigits (by decide) hc
      have hdigits : ∀ d < 10, d.digitChar ∈ ":0123456789".toList := by decide
      exact hdigits d hd

theorem splitPort_portText (port : Option Nat) :
    splitPort false (portText port) = ([], port.map (Nat.toDigits 10)) := by
  cases port <;> rfl

section Readable

variable {scheme : String} {a : Authority} (h : a.Readable scheme)
include h

theorem Authority.Readable.ne_nil : a.text ≠ [] := by
  rw [a.text_eq]
  simp [h.host.ne_nil]

/-- The characters of an authority are visible, and none of them starts the path or what follows. -/
theorem Authority.Readable.chars : ∀ c ∈ a.text, IsVisible c ∧ c ∉ ['/', '?', '#', '\\'] := by
  have hkept {part : List Char} (hpart : Kept inUserSet part) :
      ∀ c ∈ part, IsVisible c ∧ c ∉ ['/', '?', '#', '\\'] := by
    have hmarks : ∀ c ∈ ['/', '?', '#', '\\'], inUserSet c ≠ false :=
      List.all_iff_forall_prop.mp (by decide)
    exact fun c hc =>
      ⟨isVisible_of_fragment (inFragmentSet_of_path (inPathSet_of_user (hpart c hc))),
        fun hmark => hmarks c hmark (hpart c hc)⟩
  have hmark {c : Char} (hc : c ∈ ":@0123456789".toList) :
      IsVisible c ∧ c ∉ ['/', '?', '#', '\\'] := by
    have hmarks : ∀ c ∈ ":@0123456789".toList, IsVisible c ∧ c ∉ ['/', '?', '#', '\\'] :=
      List.all_iff_forall_prop.mp (by decide)
    exact hmarks c hc
  have hlogin : ∀ c ∈ loginText a.user a.password ++ ['@'],
      IsVisible c ∧ c ∉ ['/', '?', '#', '\\'] := by
    refine List.forall_mem_append.mpr ⟨?_, by simpa using hmark (c := '@') (by decide)⟩
    unfold loginText
    split
    · exact hkept h.user
    · exact List.forall_mem_append.mpr ⟨hkept h.user,
        List.forall_mem_cons.mpr ⟨hmark (by decide), hkept h.password⟩⟩
  rw [a.text_eq]
  refine List.forall_mem_append.mpr ⟨?_, List.forall_mem_append.mpr ⟨?_, ?_⟩⟩
  · split
    · simp
    · exact hlogin
  · intro c hc
    obtain ⟨hvisible, hmarks⟩ := h.host.chars c hc
    have hsubset : ['/', '?', '#', '\\'] ⊆ ['/', '?', '#', '@', '\\'] := by decide
    exact ⟨hvisible, fun hc => hmarks (hsubset hc)⟩
  · intro c hc
    refine hmark ?_
    have hsubset : ":0123456789".toList ⊆ ":@0123456789".toList := by decide
    exact hsubset (mem_portText hc)

/-- With the login split off, what is left is read as the host and the port. -/
theorem readAuthority_parted (hspecial : isSpecial scheme = true) {cs : List Char}
    {login : Option (List Char)} (hsplit : splitLogin cs = (login, a.host.text ++ portText a.port))
    (hlogin : readLogin (login.getD []) = (a.user, a.password)) :
    readAuthority scheme cs = .ok a := by
  have hsome : a.host.text.isEmpty = false := List.isEmpty_eq_false_iff.mpr h.host.ne_nil
  have hrest : (a.host.text ++ portText a.port).isEmpty = false := by simp [h.host.ne_nil]
  have hport := h.host.port (portText a.port)
  rw [splitPort_portText, List.append_nil] at hport
  unfold readAuthority
  simp only [hspecial, hsplit, hlogin, hport, hrest, hsome, h.host.same, Bool.and_false,
    Bool.false_and, Bool.false_eq_true, if_false, if_true]
  obtain ⟨user, password, host, port⟩ := a
  cases port with
  | none => rfl
  | some n =>
    obtain ⟨hbound, hdefault⟩ := h.port n rfl
    simp only [Option.map_some, readPort_toDigits hbound hdefault]
    rfl

theorem readAuthority_text (hspecial : isSpecial scheme = true) :
    readAuthority scheme a.text = .ok a := by
  have hat : '@' ∉ a.host.text ++ portText a.port := by
    rw [List.mem_append, not_or]
    refine ⟨fun hc => (h.host.chars _ hc).2 (by simp), fun hc => ?_⟩
    exact absurd (mem_portText hc) (by decide)
  rw [a.text_eq]
  split
  · next hnone =>
    obtain ⟨huser, hpassword⟩ := Bool.and_eq_true_iff.mp hnone
    refine readAuthority_parted h hspecial (splitLogin_none hat) ?_
    rw [List.isEmpty_iff.mp huser, List.isEmpty_iff.mp hpassword]
    rfl
  · rw [List.append_assoc]
    exact readAuthority_parted h hspecial (splitLogin_append _ hat)
      (readLogin_loginText h.user h.password)

end Readable

end ClusterDeploy.Url
