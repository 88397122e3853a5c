import ClusterDeploy.Proofs.Kubeconfig.Keyed
import Mathlib.Data.List.Perm.Basic
import Mathlib.Data.Option.Basic
/-!
# Merges in another order

What is appended by a merge depends on the new names and on what was given last under each of them.
So merging the same entries again adds nothing, and two lists that share no name can be merged in
either order: the old places and all look-ups come out the same, and the appended entries are the
same ones, with those of the first list in front.
-/
namespace ClusterDeploy.Kubeconfig

variable {before incoming after first second : List (Named α)}

def Apart (first second : List (Named α)) : Prop := (names first).Disjoint (names second)

instance (first second : List (Named α)) : Decidable (Apart first second) :=
  decidable_of_iff (∀ n ∈ names first, n ∉ names second) Iff.rfl

theorem Apart.symm (h : Apart first second) : Apart second first := fun _ hsecond hfirst =>
  h hfirst hsecond

theorem upsertAll_append (before first second : List (Named α)) :
    upsertAll before (first ++ second) = upsertAll (upsertAll before first) second :=
  List.foldl_append

theorem names_append (first second : List (Named α)) :
    names (first ++ second) = names first ++ names second := List.map_append

theorem newNames_append (known more later : List String) :
    newNames known (more ++ later) =
      newNames known more ++ newNames (known ++ newNames known more) later := by
  induction more generalizing known with
  | nil => rw [List.nil_append, newNames, List.nil_append, List.append_nil]
  | cons n more ih =>
    rw [List.cons_append, newNames, newNames]
    by_cases hn : n ∈ known
    · rw [if_pos hn, if_pos hn, ih]
    · rw [if_neg hn, if_neg hn, ih, List.cons_append]
      congr 2
      refine newNames_congr (fun m => ?_) later
      simp only [List.mem_append, List.mem_cons]
      tauto

/-- Names that do not occur among the later ones need not be known. -/
theorem newNames_forget {known extra more : List String} (h : extra.Disjoint more) :
    newNames (known ++ extra) more = newNames known more := by
  rw [newNames_eq, newNames_eq]
  congr 1
  apply List.filter_congr
  intro n hn
  have hextra : n ∉ extra := fun hmem => h hmem hn
  simp [hextra]

theorem last?_append (name : String) (first second : List (Named α)) :
    last? name (first ++ second) = (last? name second).or (last? name first) := by
  rw [last?, List.reverse_append, List.find?_append]
  rfl

theorem last?_eq_none (h : name ∉ names incoming) : last? name incoming = none := by
  refine List.find?_eq_none.mpr fun entry hentry => ?_
  have hmem : entry.name ∈ names incoming :=
    List.mem_map_of_mem (List.mem_reverse.mp hentry)
  simpa using fun hname : entry.name = name => h (hname ▸ hmem)

theorem Apart.last?_comm (h : Apart first second) (name : String) :
    last? name (first ++ second) = last? name (second ++ first) := by
  rw [last?_append, last?_append]
  by_cases hfirst : name ∈ names first
  · rw [last?_eq_none fun hsecond => h hfirst hsecond, Option.none_or, Option.or_none]
  · rw [last?_eq_none hfirst, Option.none_or, Option.or_none]

namespace Upserted

theorem length_le (h : Upserted before incoming after) : before.length ≤ after.length := by
  have hlength := congrArg List.length h.names
  simp only [Kubeconfig.names, List.length_map, List.length_append] at hlength
  omega

/-- Each entry past the old ones is the last one that came in under its name. -/
theorem appended (h : Upserted before incoming after) :
    (after.drop before.length).map some =
      (newNames (Kubeconfig.names before) (Kubeconfig.names incoming)).map
        fun name => last? name incoming := by
  have hnames : (after.drop before.length).map Named.name =
      newNames (Kubeconfig.names before) (Kubeconfig.names incoming) := by
    have hlength : (Kubeconfig.names before).length = before.length := List.length_map _
    rw [List.map_drop]
    change (Kubeconfig.names after).drop _ = _
    rw [h.names, ← hlength, List.drop_left]
  rw [← hnames, List.map_map]
  apply List.map_congr_left
  intro entry hentry
  obtain ⟨i, hi, rfl⟩ := List.mem_iff_getElem.mp hentry
  have hnew : (after.drop before.length)[i].name ∈
      newNames (Kubeconfig.names before) (Kubeconfig.names incoming) :=
    hnames ▸ List.mem_map_of_mem (List.getElem_mem hi)
  have hat : after[before.length + i]? = some (after.drop before.length)[i] := by
    rw [← List.getElem?_drop, List.getElem?_eq_getElem hi]
  have hfind := find?_of_first hat (h.first_of_new hat (Nat.le_add_right _ _))
  obtain ⟨hcame, -⟩ := mem_newNames.mp hnew
  obtain ⟨entry, hlast⟩ := exists_last?_of_mem hcame
  rw [h.stands, hlast, Option.some_or] at hfind
  rw [Function.comp_apply, hlast, hfind]

/-- An old place holds an old entry that was not touched, or what its name stands for. -/
theorem old_places {after' : List (Named α)} (h : Upserted before incoming after)
    {incoming' : List (Named α)} (h' : Upserted before incoming' after')
    (hstands : ∀ name, find? name after = find? name after') :
    after.take before.length = after'.take before.length := by
  apply List.ext_getElem?
  intro i
  by_cases hi : i < before.length
  case neg =>
    have hnone (entries : List (Named α)) : (entries.take before.length)[i]? = none :=
      List.getElem?_eq_none (by rw [List.length_take]; omega)
    rw [hnone, hnone]
  rw [List.getElem?_take_of_lt hi, List.getElem?_take_of_lt hi]
  have hbefore := List.getElem?_eq_getElem hi
  by_cases hfirst : before[i].name ∈ Kubeconfig.names (before.take i)
  · rw [h.kept i _ hbefore fun _ => hfirst, h'.kept i _ hbefore fun _ => hfirst]
  · have hafter : i < after.length := Nat.lt_of_lt_of_le hi h.length_le
    have hafter' : i < after'.length := Nat.lt_of_lt_of_le hi h'.length_le
    obtain ⟨hname, htake⟩ := h.names_old hi hafter
    obtain ⟨hname', htake'⟩ := h'.names_old hi hafter'
    have hat := List.getElem?_eq_getElem hafter
    have hat' := List.getElem?_eq_getElem hafter'
    have hfind := find?_of_first hat (by rwa [← hname, ← htake])
    have hfind' := find?_of_first hat' (by rwa [← hname', ← htake'])
    rw [← hname, hstands, hname', hfind'] at hfind
    rw [hat, hat', Option.some.inj hfind]

end Upserted

/-- Two lists that come from the same old one, by merging the same entries in another order. -/
structure Reordered (before one other : List (Named α)) : Prop where
  places : one.take before.length = other.take before.length
  stands : ∀ name, find? name one = find? name other
  appended : (one.drop before.length).Perm (other.drop before.length)

/-- With nothing in common, the entries of each list are appended as if they came alone. -/
theorem Apart.appended (h : Apart first second) (before : List (Named α)) :
    (upsertAll (upsertAll before first) second).drop before.length =
      (upsertAll before first).drop before.length ++
        (upsertAll before second).drop before.length := by
  apply List.map_injective_iff.mpr (Option.some_injective (Named α))
  have hfirst := upsertAll_upserted before first
  have hsecond := upsertAll_upserted before second
  have hboth := upsertAll_upserted before (first ++ second)
  have hnew : newNames (names before ++ newNames (names before) (names first)) (names second) =
      newNames (names before) (names second) :=
    newNames_forget fun n hn => h (mem_newNames.mp hn).1
  rw [List.map_append, hfirst.appended, hsecond.appended, ← upsertAll_append, hboth.appended,
    names_append, newNames_append, List.map_append, hnew]
  congr 1
  · apply List.map_congr_left
    intro n hn
    rw [last?_append, last?_eq_none (h (mem_newNames.mp hn).1), Option.none_or]
  · apply List.map_congr_left
    intro n hn
    obtain ⟨entry, hlast⟩ := exists_last?_of_mem (mem_newNames.mp hn).1
    rw [last?_append, hlast, Option.some_or]

theorem Apart.reordered (h : Apart first second) (before : List (Named α)) :
    Reordered before (upsertAll (upsertAll before first) second)
      (upsertAll (upsertAll before second) first) := by
  have hone := upsertAll_upserted before (first ++ second)
  have hother := upsertAll_upserted before (second ++ first)
  rw [upsertAll_append] at hone hother
  have hstands (name : String) : find? name (upsertAll (upsertAll before first) second) =
      find? name (upsertAll (upsertAll before second) first) := by
    rw [hone.stands, hother.stands, h.last?_comm]
  refine ⟨hone.old_places hother hstands, hstands, ?_⟩
  rw [h.appended, h.symm.appended]
  exact List.perm_append_comm

/-- Merging a kubeconfig once more changes nothing at all. Two that have no name of a cluster, user
or context in common can be merged in either order: only the order of the appended entries tells
which came first. -/
theorem merge_algebra (existing : Kubeconfig) :
    (∀ incoming, (existing.merge incoming).merge incoming = existing.merge incoming) ∧
      ∀ one other : Kubeconfig, Apart one.clusters other.clusters →
        Apart one.users other.users → Apart one.contexts other.contexts →
        let here := (existing.merge one).merge other
        let there := (existing.merge other).merge one
        Reordered existing.clusters here.clusters there.clusters ∧
          Reordered existing.users here.users there.users ∧
          Reordered existing.contexts here.contexts there.contexts ∧
          here = { there with
            clusters := here.clusters, users := here.users, contexts := here.contexts } := by
  refine ⟨merge_again existing, fun one other clusters users contexts => ?_⟩
  exact ⟨clusters.reordered _, users.reordered _, contexts.reordered _, rfl⟩

def ofServers (servers : List (String × String)) : Kubeconfig :=
  { clusters := servers.map fun s => ⟨s.1, some { server := some s.2 }⟩ }

/-- Names twice in the old list, and an old and a new name on either side. -/
theorem merge_algebra_crossing :
    let old := ofServers [("a", "1"), ("b", "2"), ("a", "3")]
    let one := ofServers [("c", "4"), ("a", "5"), ("c", "6")]
    let other := ofServers [("d", "7"), ("b", "8")]
    let here := (old.merge one).merge other
    let there := (old.merge other).merge one
    (Apart one.clusters other.clusters ∧ Apart one.users other.users ∧
        Apart one.contexts other.contexts) ∧
      Reordered old.clusters here.clusters there.clusters ∧
      names here.clusters = ["a", "b", "a", "c", "d"] ∧
      names there.clusters = ["a", "b", "a", "d", "c"] := by
  have hclusters : Apart (ofServers [("c", "4"), ("a", "5"), ("c", "6")]).clusters
      (ofServers [("d", "7"), ("b", "8")]).clusters := by decide
  have hnone {α : Type} : Apart ([] : List (Named α)) [] := fun _ hmem => by cases hmem
  refine ⟨⟨hclusters, hnone, hnone⟩, ?_, by decide, by decide⟩
  exact ((merge_algebra _).2 _ _ hclusters hnone hnone).1

end ClusterDeploy.Kubeconfig
