import ClusterDeploy.Proofs.Kubeconfig.Merge
/-!
# Merging by name

Each list of a kubeconfig is merged by name: the old names stay in their order, the new ones follow
in the order in which they first appear, and what was given last under a name is what it stands for
afterwards. Names may occur more than once on either side.
-/
namespace ClusterDeploy.Kubeconfig

variable {before incoming after : List (Named α)} {name : String}

theorem newNames_eq (known more : List String) :
    newNames known more = (more.filter (· ∉ known)).eraseDups := by
  induction more generalizing known with
  | nil => rfl
  | cons n more ih =>
    rw [newNames]
    by_cases hn : n ∈ known
    · rw [if_pos hn, ih, List.filter_cons_of_neg (by simpa using hn)]
    · rw [if_neg hn, ih, List.filter_cons_of_pos (by simpa using hn), List.eraseDups_cons,
        List.filter_filter]
      congr 2
      apply List.filter_congr
      intro m _
      by_cases hm : m = n <;> simp [hm]

theorem mem_names_upsertAll :
    name ∈ names (upsertAll before incoming) ↔ name ∈ names before ∨ name ∈ names incoming := by
  rw [(upsertAll_upserted before incoming).names, List.mem_append, mem_newNames]
  by_cases hold : name ∈ names before
  · exact iff_of_true (.inl hold) (.inl hold)
  · simp only [hold, false_or, not_false_eq_true, and_true]

theorem exists_last?_of_mem (h : name ∈ names incoming) :
    ∃ entry, last? name incoming = some entry := by
  obtain ⟨entry, hentry, rfl⟩ := List.mem_map.mp h
  exact Option.isSome_iff_exists.mp
    (List.find?_isSome.mpr ⟨entry, List.mem_reverse.mpr hentry, beq_self_eq_true _⟩)

/-- An incoming name stands for the entry that came in last under it. -/
theorem find?_upsertAll_of_mem (before : List (Named α)) (h : name ∈ names incoming) :
    ∃ entry, last? name incoming = some entry ∧
      find? name (upsertAll before incoming) = some entry := by
  obtain ⟨entry, hentry⟩ := exists_last?_of_mem h
  refine ⟨entry, hentry, ?_⟩
  rw [(upsertAll_upserted before incoming).stands, hentry]
  rfl

theorem names_upsertAll_nodup (distinct : (names before).Nodup) (incoming : List (Named α)) :
    (names (upsertAll before incoming)).Nodup := by
  rw [(upsertAll_upserted before incoming).names]
  refine distinct.append (newNames_nodup _ _) fun n hold hnew => ?_
  exact (mem_newNames.mp hnew).2 hold

structure Keyed (before incoming after : List (Named α)) : Prop where
  names : names after =
    names before ++ ((names incoming).filter (· ∉ names before)).eraseDups
  latest : ∀ name ∈ Kubeconfig.names incoming,
    ∃ entry, last? name incoming = some entry ∧ find? name after = some entry
  /-- Only the first entry of an incoming name is replaced, and nothing moves. -/
  untouched : ∀ (i : Nat) entry, before[i]? = some entry →
    ¬ (entry.name ∈ Kubeconfig.names incoming ∧ entry.name ∉ Kubeconfig.names (before.take i)) →
      after[i]? = some entry
  kept : ∀ name ∈ Kubeconfig.names before, name ∈ Kubeconfig.names after
  distinct : (Kubeconfig.names before).Nodup → (Kubeconfig.names after).Nodup

theorem upsertAll_keyed (before incoming : List (Named α)) :
    Keyed before incoming (upsertAll before incoming) := by
  have h := upsertAll_upserted before incoming
  constructor
  · rw [h.names, newNames_eq]
  · exact fun name => find?_upsertAll_of_mem before
  · intro i entry hentry hother
    exact h.kept i entry hentry fun hincoming => not_not.mp (not_and.mp hother hincoming)
  · exact fun name hname => mem_names_upsertAll.mpr (.inl hname)
  · exact fun distinct => names_upsertAll_nodup distinct incoming

/-- Clusters, users and contexts are merged by name. The version and the kind are set only where
they were absent, and everything else is that of the existing kubeconfig. -/
theorem merge_keyed (existing incoming : Kubeconfig) :
    let after := existing.merge incoming
    Keyed existing.clusters incoming.clusters after.clusters ∧
      Keyed existing.users incoming.users after.users ∧
      Keyed existing.contexts incoming.contexts after.contexts ∧
      after.apiVersion = some (existing.apiVersion.getD "v1") ∧
      after.kind = some (existing.kind.getD "Config") ∧
      after.currentContext = existing.currentContext ∧
      after.preferences = existing.preferences ∧ after.extensions = existing.extensions :=
  ⟨upsertAll_keyed _ _, upsertAll_keyed _ _, upsertAll_keyed _ _, rfl, rfl, rfl, rfl, rfl⟩

/-- With names twice on both sides, the first old entry gets what came in last. -/
example :
    upsertAll [⟨"a", some 1⟩, ⟨"b", some 2⟩, ⟨"a", some 3⟩]
        [⟨"c", some 4⟩, ⟨"a", some 5⟩, ⟨"c", some 6⟩, ⟨"a", some 7⟩] =
      [⟨"a", some 7⟩, ⟨"b", some 2⟩, ⟨"a", some 3⟩, ⟨"c", some 6⟩] :=
  rfl

end ClusterDeploy.Kubeconfig
