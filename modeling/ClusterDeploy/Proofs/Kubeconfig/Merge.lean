import ClusterDeploy.Kubeconfig.Basic
import Mathlib.Data.List.Nodup
/-!
# What merging a kubeconfig comes to

A merge is settled by three facts about each of its lists: the names it ends with, the entry that
each name stands for, and the entries that no incoming name concerns.
-/
namespace ClusterDeploy.Kubeconfig

variable {before incoming after : List (Named α)} {entry : Named α} {name : String}

def names (entries : List (Named α)) : List String := entries.map Named.name

/-- The names that are not known yet, each where it first appears. -/
def newNames (known : List String) : List String → List String
  | [] => []
  | n :: more => if n ∈ known then newNames known more else n :: newNames (n :: known) more

def last? (name : String) (entries : List (Named α)) : Option (Named α) :=
  entries.reverse.find? fun e => e.name == name

/-- The entries of one list are put into another one by name. -/
structure Upserted (before incoming after : List (Named α)) : Prop where
  names : names after = names before ++ newNames (names before) (names incoming)
  stands : ∀ name, find? name after = (last? name incoming).or (find? name before)
  kept : ∀ i e, before[i]? = some e →
    (e.name ∈ Kubeconfig.names incoming → e.name ∈ Kubeconfig.names (before.take i)) →
    after[i]? = some e

theorem newNames_congr {known known' : List String} (h : ∀ n, n ∈ known ↔ n ∈ known')
    (more : List String) : newNames known more = newNames known' more := by
  induction more generalizing known known' with
  | nil => rfl
  | cons n more ih =>
    rw [newNames, newNames]
    by_cases hn : n ∈ known
    · rw [if_pos hn, if_pos ((h n).mp hn), ih h]
    · rw [if_neg hn, if_neg (mt (h n).mpr hn)]
      exact congrArg _ (ih (by simp [h]))

theorem newNames_known {known more : List String} (h : ∀ n ∈ more, n ∈ known) :
    newNames known more = [] := by
  induction more with
  | nil => rfl
  | cons n more ih =>
    rw [newNames, if_pos (h n List.mem_cons_self), ih fun m hm => h m (List.mem_cons_of_mem _ hm)]

theorem mem_newNames {known more : List String} {n : String} :
    n ∈ newNames known more ↔ n ∈ more ∧ n ∉ known := by
  induction more generalizing known with
  | nil => simp [newNames]
  | cons m more ih =>
    rw [newNames]
    by_cases hm : m ∈ known
    · rw [if_pos hm, ih, List.mem_cons]
      constructor
      · exact fun ⟨h, hk⟩ => ⟨.inr h, hk⟩
      · rintro ⟨rfl | h, hk⟩
        · exact absurd hm hk
        · exact ⟨h, hk⟩
    · rw [if_neg hm, List.mem_cons, ih, List.mem_cons, List.mem_cons]
      by_cases hn : n = m <;> simp_all

theorem newNames_nodup (known more : List String) : (newNames known more).Nodup := by
  induction more generalizing known with
  | nil => exact .nil
  | cons n more ih =>
    rw [newNames]
    split
    · exact ih known
    · refine List.nodup_cons.mpr ⟨fun h => ?_, ih (n :: known)⟩
      exact (mem_newNames.mp h).2 List.mem_cons_self

/-! ## One entry -/

theorem names_upsert (entry : Named α) (entries : List (Named α)) :
    names (upsert entry entries) =
      names entries ++ if entry.name ∈ names entries then [] else [entry.name] := by
  induction entries with
  | nil => rfl
  | cons e more ih =>
    rw [upsert]
    by_cases he : e.name = entry.name
    · simp [he, names]
    · simp only [names] at ih
      simp [he, names, ih, Ne.symm he]

theorem find?_upsert (entry : Named α) (entries : List (Named α)) (name : String) :
    find? name (upsert entry entries) =
      if entry.name = name then some entry else find? name entries := by
  induction entries with
  | nil => by_cases h : entry.name = name <;> simp [upsert, find?, h]
  | cons e more ih =>
    unfold find? at ih ⊢
    rw [upsert]
    by_cases he : e.name = entry.name
    · by_cases h : entry.name = name <;> simp [he, h]
    · by_cases h : e.name = name
      · subst h
        simp [he, Ne.symm he]
      · simp [he, h, ih]

theorem getElem?_upsert {entries : List (Named α)} {e : Named α} {i : Nat}
    (h : entries[i]? = some e)
    (later : e.name = entry.name → e.name ∈ names (entries.take i)) :
    (upsert entry entries)[i]? = some e := by
  induction entries generalizing i with
  | nil => simp at h
  | cons first more ih =>
    rw [upsert]
    cases i with
    | zero =>
      obtain rfl : first = e := by simpa using h
      have hne : first.name ≠ entry.name := fun heq => by simpa [names] using later heq
      simp [hne]
    | succ i =>
      have h : more[i]? = some e := by simpa using h
      by_cases hfirst : first.name = entry.name
      · simpa [hfirst] using h
      · rw [if_neg hfirst, List.getElem?_cons_succ]
        refine ih h fun heq => ?_
        have hmem := later heq
        rw [List.take_succ_cons, names, List.map_cons, List.mem_cons] at hmem
        exact hmem.resolve_left fun hname => hfirst (hname ▸ heq)

/-! ## All entries -/

theorem upsertAll_cons (before : List (Named α)) (entry : Named α) (incoming : List (Named α)) :
    upsertAll before (entry :: incoming) = upsertAll (upsert entry before) incoming := rfl

theorem take_names (entry : Named α) {entries : List (Named α)} {i : Nat} (h : i ≤ entries.length) :
    names ((upsert entry entries).take i) = names (entries.take i) := by
  have hi : i ≤ (names entries).length := by simpa [names] using h
  have := names_upsert entry entries
  unfold names at this hi ⊢
  rw [List.map_take, this, List.take_append_of_le_length hi, List.map_take]

theorem upsertAll_upserted (before incoming : List (Named α)) :
    Upserted before incoming (upsertAll before incoming) := by
  induction incoming generalizing before with
  | nil =>
    constructor
    · simp [upsertAll, names, newNames]
    · simp [upsertAll, last?]
    · exact fun i e h _ => h
  | cons entry incoming ih =>
    have h := ih (upsert entry before)
    rw [upsertAll_cons]
    constructor
    · rw [h.names, names_upsert, List.append_assoc]
      congr 1
      show _ = newNames (names before) (entry.name :: names incoming)
      rw [newNames]
      by_cases hknown : entry.name ∈ names before
      · simp [hknown]
      · simp only [hknown, if_false, List.singleton_append, List.cons.injEq, true_and]
        exact newNames_congr (by simp [or_comm]) _
    · intro name
      rw [h.stands, find?_upsert]
      simp only [last?, List.reverse_cons, List.find?_append, List.find?_singleton, Option.or_assoc]
      congr 1
      by_cases hname : entry.name = name <;> simp [hname]
    · intro i e he later
      have hi : i ≤ before.length := Nat.le_of_lt (List.getElem?_eq_some_iff.mp he).1
      apply h.kept i e
      · refine getElem?_upsert he fun heq => later ?_
        simp [names, heq]
      · intro hmem
        rw [take_names entry hi]
        exact later (List.mem_cons_of_mem _ hmem)

theorem find?_of_first {entries : List (Named α)} {e : Named α} {i : Nat}
    (h : entries[i]? = some e) (first : e.name ∉ names (entries.take i)) :
    find? e.name entries = some e := by
  obtain ⟨hi, he⟩ := List.getElem?_eq_some_iff.mp h
  refine List.find?_eq_some_iff_getElem.mpr ⟨by simp, i, hi, he, fun j hj => ?_⟩
  have hmem : entries[j].name ∈ names (entries.take i) := by
    refine List.mem_map.mpr ⟨entries[j], ?_, rfl⟩
    exact List.mem_take_iff_getElem.mpr ⟨j, by omega, rfl⟩
  simpa using fun hname : entries[j].name = e.name => first (by rwa [← hname])

namespace Upserted

theorem first_of_new (h : Upserted before incoming after) {e : Named α} {i : Nat}
    (he : after[i]? = some e) (hi : before.length ≤ i) :
    e.name ∉ Kubeconfig.names (after.take i) := by
  obtain ⟨k, rfl⟩ := Nat.exists_eq_add_of_le hi
  have hlength : (Kubeconfig.names before).length = before.length := List.length_map _
  have hname :
      (newNames (Kubeconfig.names before) (Kubeconfig.names incoming))[k]? = some e.name := by
    have hget : (Kubeconfig.names after)[before.length + k]? = some e.name := by
      simp [Kubeconfig.names, he]
    rwa [h.names, ← hlength, List.getElem?_append_right (Nat.le_add_right _ _),
      Nat.add_sub_cancel_left] at hget
  obtain ⟨hk, hname⟩ := List.getElem?_eq_some_iff.mp hname
  have hnew := (mem_newNames.mp (hname ▸ List.getElem_mem hk)).2
  rw [Kubeconfig.names, List.map_take]
  change e.name ∉ (Kubeconfig.names after).take _
  rw [h.names, ← hlength, List.take_length_add_append, List.mem_append, not_or]
  refine ⟨hnew, fun hmem => ?_⟩
  obtain ⟨j, hj, hsame⟩ := List.mem_take_iff_getElem.mp hmem
  have := (List.Nodup.getElem_inj_iff (newNames_nodup _ _)).mp (hsame.trans hname.symm)
  omega

theorem names_old (h : Upserted before incoming after) {i : Nat} (hi : i < before.length)
    (hi' : i < after.length) :
    before[i].name = after[i].name ∧
      Kubeconfig.names (before.take i) = Kubeconfig.names (after.take i) := by
  have hlength : (Kubeconfig.names before).length = before.length := List.length_map _
  have hprefix :
      (Kubeconfig.names after).take (i + 1) = (Kubeconfig.names before).take (i + 1) := by
    rw [h.names, List.take_append_of_le_length (by omega)]
  constructor
  · have := congrArg (fun l => l[i]?) hprefix
    simpa [Kubeconfig.names, hi, hi'] using this.symm
  · have := congrArg (List.take i) hprefix
    simpa [Kubeconfig.names, List.take_take, List.map_take] using this.symm

/-- The three facts settle the list. -/
theorem unique {after' : List (Named α)} (h : Upserted before incoming after)
    (h' : Upserted before incoming after') : after = after' := by
  have hnames : Kubeconfig.names after = Kubeconfig.names after' := h.names.trans h'.names.symm
  have hlength : after.length = after'.length := by
    simpa [Kubeconfig.names] using congrArg List.length hnames
  refine List.ext_getElem hlength fun i hi hi' => ?_
  have he := List.getElem?_eq_getElem hi
  have he' := List.getElem?_eq_getElem hi'
  have hname : after[i].name = after'[i].name := by
    have := congrArg (fun l => l[i]?) hnames
    simpa [Kubeconfig.names, he, he'] using this
  have htake : Kubeconfig.names (after.take i) = Kubeconfig.names (after'.take i) := by
    have := congrArg (List.take i) hnames
    simpa [Kubeconfig.names, List.map_take] using this
  by_cases hfirst : after[i].name ∈ Kubeconfig.names (after.take i)
  · -- Not the first of its name, so it is an old entry that nothing has touched.
    have hold : i < before.length :=
      Nat.lt_of_not_le fun hge => h.first_of_new he hge hfirst
    have hbefore := List.getElem?_eq_getElem hold
    have hown := h.names_old hold hi
    have hfirst : before[i].name ∈ Kubeconfig.names (before.take i) := by
      rwa [hown.1, hown.2]
    have hkept := h.kept i _ hbefore fun _ => hfirst
    have hkept' := h'.kept i _ hbefore fun _ => hfirst
    rw [he] at hkept
    rw [he'] at hkept'
    exact (Option.some.inj hkept).trans (Option.some.inj hkept').symm
  · have hfind := find?_of_first he hfirst
    have hfind' := find?_of_first he' (by rwa [← hname, ← htake])
    rw [h.stands, ← h'.stands, hname, hfind'] at hfind
    exact (Option.some.inj hfind).symm

/-- Putting the same entries in once more changes nothing. -/
theorem again (h : Upserted before incoming after) : Upserted after incoming after := by
  constructor
  · rw [newNames_known, List.append_nil]
    intro n hn
    rw [h.names, List.mem_append]
    by_cases hold : n ∈ Kubeconfig.names before
    · exact .inl hold
    · exact .inr (mem_newNames.mpr ⟨hn, hold⟩)
  · intro name
    rw [h.stands]
    cases last? name incoming <;> simp
  · exact fun i e he _ => he

end Upserted

theorem upsertAll_again (before incoming : List (Named α)) :
    upsertAll (upsertAll before incoming) incoming = upsertAll before incoming :=
  (upsertAll_upserted (upsertAll before incoming) incoming).unique
    (upsertAll_upserted before incoming).again

theorem merge_again (existing incoming : Kubeconfig) :
    (existing.merge incoming).merge incoming = existing.merge incoming := by
  simp [merge, upsertAll_again]

end ClusterDeploy.Kubeconfig
