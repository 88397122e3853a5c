import ClusterDeploy.Proofs.Url.Readable
import ClusterDeploy.Url.Join
/-!
# A relative path stays on its host

Whatever a relative path spells, joining it replaces the path of the base and nothing else, and what
is written out is read as just that. Slashes, backslashes, logins, ports, queries and escapes of the
relative path are thus parts of a path, and its dots lead nowhere.
-/
namespace ClusterDeploy.Url

open Text

/-- The URL is the base but for its path, which starts at the root and has no dot segment. -/
structure Within (base u : Url) : Prop where
  scheme : u.scheme = base.scheme
  authority : ∃ a, base.authority = some a ∧ u.authority = some a
  query : u.query = base.query
  fragment : u.fragment = base.fragment
  path : ∃ rest, u.path.text = '/' :: rest ∧ ∀ s ∈ Text.splitAt '/' rest, ¬ IsDots s

/-- The path that is written out has the segments that the reading left over. -/
theorem Readable.rooted {u : Url} (h : u.Readable) :
    ∃ rest, u.path.text = '/' :: rest ∧ ∀ s ∈ Text.splitAt '/' rest, ¬ IsDots s := by
  obtain ⟨items, hitems, hne, hsettled⟩ := h.path
  refine ⟨joinWith '/' items, by rw [hitems, segments_text hne], ?_⟩
  rw [splitAt_joinWith (fun s hs => (hsettled s hs).slash) hne]
  exact fun s hs => (hsettled s hs).not_isDots

theorem Readable.within_setPath {u : Url} (h : u.Readable) (path : List Char) :
    Within u (u.setPath path) := by
  obtain ⟨items, hset, hreadable⟩ := h.setPath path
  have hrooted := hreadable.rooted
  obtain ⟨a, ha, -⟩ := h.authority
  rw [hset] at hrooted ⊢
  exact {
    scheme := rfl
    authority := ⟨a, ha, ha⟩
    query := rfl
    fragment := rfl
    path := hrooted }

/-- Joining fails when the base is no URL, leaves the base as it is when there is nothing to join,
and otherwise replaces the path of a URL of the web and nothing else. -/
theorem joinText_within (base relative : String) :
    match parse base with
    | .error fault => joinText base relative = .error fault
    | .ok u =>
      if relative = "" then joinText base relative = .ok base
      else IsWeb u.scheme → ∃ joined, joinText base relative = .ok joined.text ∧
        parse joined.text = .ok joined ∧ Within u joined := by
  rw [joinText_eq]
  cases hbase : parse base with
  | error fault => rfl
  | ok u =>
    by_cases hempty : relative = ""
    · simp only [if_pos hempty]
      rfl
    · simp only [if_neg hempty]
      intro hweb
      have hread := parse_readable hbase hweb
      obtain ⟨items, -, hjoined⟩ := hread.setPath (joinedPath u.namedSegments relative.toList)
      exact ⟨u.joinPath relative.toList, rfl, hjoined.parse, hread.within_setPath _⟩

def exampleBase : Url where
  scheme := "http"
  authority := some ⟨"user".toList, "pw".toList, .name "h".toList, some 8080⟩
  path := .segments ["a".toList, "b".toList]
  query := some "q".toList
  fragment := some "f".toList

theorem joinText_within_hostile :
    parse "http://user:pw@h:8080/a/b?q#f" = .ok exampleBase ∧
      ∃ joined, joinText "http://user:pw@h:8080/a/b?q#f" "../..//%2e%2E/\\@evil:80?x#y" =
          .ok joined.text ∧
        joined.text = "http://user:pw@h:8080//@evil:80%3Fx%23y?q#f" ∧
        Within exampleBase joined := by
  have hbase : parse "http://user:pw@h:8080/a/b?q#f" = .ok exampleBase := by decide +kernel
  have hwritten : joinText "http://user:pw@h:8080/a/b?q#f" "../..//%2e%2E/\\@evil:80?x#y" =
      .ok "http://user:pw@h:8080//@evil:80%3Fx%23y?q#f" := by decide +kernel
  have h := joinText_within "http://user:pw@h:8080/a/b?q#f" "../..//%2e%2E/\\@evil:80?x#y"
  rw [hbase] at h
  obtain ⟨joined, htext, -, hwithin⟩ := h (by decide)
  exact ⟨hbase, joined, htext, Except.ok.inj (htext.symm.trans hwritten), hwithin⟩

end ClusterDeploy.Url
