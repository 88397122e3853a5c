import ClusterDeploy.Endpoint.Basic
import Mathlib.Data.List.Forall2
/-!
# The endpoints of an ingress, entry by entry

Entries of the load balancer and rules go together by position. An entry without a host is passed
over and those after it keep their rules; the first host that makes no URL fails all of them.
-/
namespace ClusterDeploy.Endpoint

/-! ## One after the other -/

theorem mapM_ok_iff {f : β → Except ε γ} {inputs : List β} {outputs : List γ} :
    inputs.mapM f = .ok outputs ↔ List.Forall₂ (fun b c => f b = .ok c) inputs outputs := by
  induction inputs generalizing outputs with
  | nil =>
    rw [List.forall₂_nil_left_iff, List.mapM_nil]
    exact ⟨fun h => by cases h; rfl, fun h => by rw [h]; rfl⟩
  | cons b more ih =>
    rw [List.mapM_cons, List.forall₂_cons_left_iff]
    constructor
    · intro h
      cases hb : f b with
      | error e => rw [hb] at h; cases h
      | ok c =>
        cases hm : more.mapM f with
        | error e => rw [hb, hm] at h; cases h
        | ok rest =>
          rw [hb, hm] at h
          cases h
          exact ⟨c, rest, rfl, ih.mp hm, rfl⟩
    · rintro ⟨c, rest, hb, hm, rfl⟩
      rw [hb, ih.mpr hm]
      rfl

theorem mapM_error_iff {f : β → Except ε γ} {inputs : List β} {e : ε} :
    inputs.mapM f = .error e ↔ ∃ earlier b later, inputs = earlier ++ b :: later ∧
      (∀ b' ∈ earlier, ∃ c, f b' = .ok c) ∧ f b = .error e := by
  constructor
  · intro h
    induction inputs with
    | nil => cases h
    | cons b more ih =>
      rw [List.mapM_cons] at h
      cases hb : f b with
      | error e' =>
        rw [hb] at h
        cases h
        exact ⟨[], b, more, rfl, by simp, hb⟩
      | ok c =>
        cases hm : more.mapM f with
        | ok rest => rw [hb, hm] at h; cases h
        | error e' =>
          rw [hb, hm] at h
          cases h
          obtain ⟨earlier, b', later, rfl, hearlier, hb'⟩ := ih hm
          refine ⟨b :: earlier, b', later, rfl, ?_, hb'⟩
          exact List.forall_mem_cons.mpr ⟨⟨c, hb⟩, hearlier⟩
  · rintro ⟨earlier, b, later, rfl, hearlier, hb⟩
    induction earlier with
    | nil =>
      rw [List.nil_append, List.mapM_cons, hb]
      rfl
    | cons first earlier ih =>
      obtain ⟨⟨c, hc⟩, hearlier⟩ := List.forall_mem_cons.mp hearlier
      rw [List.cons_append, List.mapM_cons, hc, ih hearlier]
      rfl

theorem exists_mem_zip {related : β → γ → Prop} {inputs : List β} {outputs : List γ}
    (h : List.Forall₂ related inputs outputs) {b : β} (hb : b ∈ inputs) :
    ∃ c, (b, c) ∈ inputs.zip outputs ∧ related b c := by
  obtain ⟨k, hk, rfl⟩ := List.getElem_of_mem hb
  have hk' : k < outputs.length := h.length_eq ▸ hk
  refine ⟨outputs[k], ?_, h.get hk hk'⟩
  exact List.mem_iff_getElem.mpr ⟨k, by rw [List.length_zip]; omega, List.getElem_zip⟩

/-! ## Hosts by position -/

def ruleHost (i : Ingress) (position : Nat) : Option String := i.ruleHosts[position]?.join

def entryIp (i : Ingress) (position : Nat) : String := i.entryIps[position]?.getD ""

def hostAt (i : Ingress) (position : Nat) : String :=
  (ruleHost i position).getD (hostOf (entryIp i position))

def baseAt (i : Ingress) (position : Nat) : String := s!"{scheme i}://{hostAt i position}"

def served (i : Ingress) : List Nat :=
  (List.range i.entryIps.length).filter fun position => !(hostAt i position).isEmpty

variable {i : Ingress} {relativePath : String} {position : Nat}

theorem mem_served :
    position ∈ served i ↔ position < i.entryIps.length ∧ hostAt i position ≠ "" := by
  rw [served, List.mem_filter, List.mem_range, Bool.not_eq_true', Bool.eq_false_iff, Ne,
    String.isEmpty_iff]

theorem served_sorted (i : Ingress) : (served i).Pairwise (· < ·) :=
  List.Pairwise.filter _ List.pairwise_lt_range

theorem getElem?_ingressHosts (ruleHosts : List (Option String)) (entryIps : List String)
    (position : Nat) :
    (ingressHosts ruleHosts entryIps)[position]? =
      entryIps[position]?.map fun ip => ruleHosts[position]?.join.getD (hostOf ip) := by
  induction entryIps generalizing ruleHosts position with
  | nil => cases ruleHosts <;> rfl
  | cons ip ips ih =>
    cases ruleHosts with
    | nil =>
      cases position with
      | zero => rfl
      | succ position => simpa [ingressHosts] using ih [] position
    | cons host hosts =>
      cases position with
      | zero => rfl
      | succ position => simpa [ingressHosts] using ih hosts position

theorem ingressHosts_eq (i : Ingress) :
    ingressHosts i.ruleHosts i.entryIps = (List.range i.entryIps.length).map (hostAt i) := by
  apply List.ext_getElem?
  intro position
  rw [getElem?_ingressHosts, List.getElem?_map]
  by_cases h : position < i.entryIps.length
  · simp [h, hostAt, ruleHost, entryIp]
  · simp [h]

theorem ofIngress_eq (i : Ingress) (relativePath : String) :
    ofIngress i relativePath =
      (served i).mapM fun position => ofHost (scheme i) relativePath (hostAt i position) := by
  rw [ofIngress, ingressHosts_eq, List.filter_map, List.mapM_map]
  rfl

/-! ## One entry -/

structure Serves (i : Ingress) (relativePath : String) (position : Nat) (e : Endpoint) : Prop where
  url : Url.joinText (baseAt i position) relativePath = .ok e.url
  source : e.source = .ingress
  type : e.type = Service.loadBalancer

theorem ofHost_ok_iff {e : Endpoint} :
    ofHost (scheme i) relativePath (hostAt i position) = .ok e ↔
      Serves i relativePath position e := by
  simp only [ofHost]
  constructor
  · intro h
    split at h
    · next url hurl =>
      cases h
      exact ⟨hurl, rfl, rfl⟩
    · cases h
  · rintro ⟨hurl, hsource, htype⟩
    obtain ⟨url, source, type⟩ := e
    subst hsource htype
    change Url.joinText s!"{scheme i}://{hostAt i position}" relativePath = .ok url at hurl
    rw [hurl]

theorem ofHost_error_iff {failure : Error} :
    ofHost (scheme i) relativePath (hostAt i position) = .error failure ↔
      ∃ fault, Url.joinText (baseAt i position) relativePath = .error fault ∧
        failure = .endpointUrl (baseAt i position) fault := by
  simp only [ofHost]
  constructor
  · intro h
    split at h
    · cases h
    · next fault hfault =>
      cases h
      exact ⟨fault, hfault, rfl⟩
  · rintro ⟨fault, hfault, rfl⟩
    change Url.joinText s!"{scheme i}://{hostAt i position}" relativePath = .error fault at hfault
    rw [hfault]
    rfl

/-! ## All entries -/

theorem ofIngress_ok_iff {endpoints : List Endpoint} :
    ofIngress i relativePath = .ok endpoints ↔
      List.Forall₂ (Serves i relativePath) (served i) endpoints := by
  rw [ofIngress_eq, mapM_ok_iff]
  simp only [ofHost_ok_iff]

theorem serves_of_mem {endpoints : List Endpoint} (h : ofIngress i relativePath = .ok endpoints)
    {e : Endpoint} (he : e ∈ endpoints) :
    ∃ position ∈ served i, Serves i relativePath position e := by
  obtain ⟨position, hzip, hserves⟩ := exists_mem_zip (ofIngress_ok_iff.mp h).flip he
  exact ⟨position, (List.of_mem_zip hzip).2, hserves⟩

theorem mem_earlier_iff {earlier later : List Nat} {first : Nat}
    (sorted : (earlier ++ first :: later).Pairwise (· < ·)) :
    position ∈ earlier ↔ position ∈ earlier ++ first :: later ∧ position < first := by
  obtain ⟨-, hlater, hearlier⟩ := List.pairwise_append.mp sorted
  constructor
  · intro h
    exact ⟨List.mem_append_left _ h, hearlier position h first List.mem_cons_self⟩
  · rintro ⟨h, hlt⟩
    rcases List.mem_append.mp h with h | h
    · exact h
    rcases List.mem_cons.mp h with rfl | h
    · exact absurd hlt (Nat.lt_irrefl _)
    · exact absurd ((List.pairwise_cons.mp hlater).1 position h) (Nat.lt_asymm hlt)

/-- Only entries before the one that fails have been looked at. -/
theorem ofIngress_error_iff {failure : Error} :
    ofIngress i relativePath = .error failure ↔
      ∃ first ∈ served i, ∃ fault, Url.joinText (baseAt i first) relativePath = .error fault ∧
        failure = .endpointUrl (baseAt i first) fault ∧
        ∀ earlier ∈ served i, earlier < first →
          ∃ url, Url.joinText (baseAt i earlier) relativePath = .ok url := by
  rw [ofIngress_eq, mapM_error_iff]
  simp only [ofHost_error_iff, ofHost_ok_iff]
  constructor
  · rintro ⟨before, first, after, hserved, hbefore, fault, hfault, rfl⟩
    have hsorted := served_sorted i
    rw [hserved] at hsorted ⊢
    refine ⟨first, List.mem_append_right _ List.mem_cons_self, fault, hfault, rfl, ?_⟩
    intro earlier hearlier hlt
    obtain ⟨e, he⟩ := hbefore earlier ((mem_earlier_iff hsorted).mpr ⟨hearlier, hlt⟩)
    exact ⟨e.url, he.url⟩
  · rintro ⟨first, hfirst, fault, hfault, rfl, hearlier⟩
    obtain ⟨before, after, hserved⟩ := List.append_of_mem hfirst
    have hsorted := served_sorted i
    rw [hserved] at hsorted hearlier
    refine ⟨before, first, after, hserved, ?_, fault, hfault, rfl⟩
    intro earlier hmem
    obtain ⟨hmem, hlt⟩ := (mem_earlier_iff hsorted).mp hmem
    obtain ⟨url, hurl⟩ := hearlier earlier hmem hlt
    exact ⟨⟨url, .ingress, Service.loadBalancer⟩, hurl, rfl, rfl⟩

/-- Whatever rules there are beyond the entries, nothing reads them. -/
theorem ingressHosts_take (ruleHosts : List (Option String)) (entryIps : List String) :
    ingressHosts (ruleHosts.take entryIps.length) entryIps = ingressHosts ruleHosts entryIps := by
  apply List.ext_getElem?
  intro position
  rw [getElem?_ingressHosts, getElem?_ingressHosts]
  by_cases h : position < entryIps.length
  · rw [List.getElem?_take_of_lt h]
  · simp [h]

theorem scheme_eq_iff (i : Ingress) :
    (scheme i = "https" ↔ 0 < i.tlsCount) ∧ (scheme i = "http" ↔ i.tlsCount = 0) := by
  unfold scheme
  by_cases h : i.tlsCount = 0
  · simp [h]
  · simp [h, Nat.pos_of_ne_zero h]

/-- There are endpoints exactly when the host of every entry that has one makes a URL, and then one
for each of those entries, in their order. Otherwise the first base that makes none is the
failure. -/
theorem ofIngress_by_position (i : Ingress) (relativePath : String) :
    ((∃ endpoints, ofIngress i relativePath = .ok endpoints) ↔
      ∀ position ∈ served i, ∃ url, Url.joinText (baseAt i position) relativePath = .ok url) ∧
    (∀ endpoints, ofIngress i relativePath = .ok endpoints ↔
      List.Forall₂ (Serves i relativePath) (served i) endpoints) ∧
    (∀ failure, ofIngress i relativePath = .error failure ↔
      ∃ first ∈ served i, ∃ fault, Url.joinText (baseAt i first) relativePath = .error fault ∧
        failure = .endpointUrl (baseAt i first) fault ∧
        ∀ earlier ∈ served i, earlier < first →
          ∃ url, Url.joinText (baseAt i earlier) relativePath = .ok url) ∧
    (scheme i = "https" ↔ 0 < i.tlsCount) ∧ (scheme i = "http" ↔ i.tlsCount = 0) ∧
    ofIngress { i with ruleHosts := i.ruleHosts.take i.entryIps.length } relativePath =
      ofIngress i relativePath := by
  refine ⟨⟨?_, ?_⟩, fun _ => ofIngress_ok_iff, fun _ => ofIngress_error_iff,
    (scheme_eq_iff i).1, (scheme_eq_iff i).2, ?_⟩
  · rintro ⟨endpoints, h⟩ position hposition
    obtain ⟨e, -, he⟩ := exists_mem_zip (ofIngress_ok_iff.mp h) hposition
    exact ⟨e.url, he.url⟩
  · intro accepted
    cases h : ofIngress i relativePath with
    | ok endpoints => exact ⟨endpoints, rfl⟩
    | error failure =>
      obtain ⟨first, hfirst, fault, hfault, -, -⟩ := ofIngress_error_iff.mp h
      obtain ⟨url, hurl⟩ := accepted first hfirst
      rw [hfault] at hurl
      cases hurl
  · rw [ofIngress, ofIngress, ingressHosts_take]
    rfl

/-! ## Ready ingresses -/

/-- The host that the rule at a position names, if it names one, and else the address of the
entry. -/
def namedHost (i : Ingress) (position : Nat) : String :=
  ((ruleHost i position).filter (· ≠ "")).getD (hostOf (entryIp i position))

theorem hostOf_eq_empty_iff {address : String} : hostOf address = "" ↔ address = "" := by
  unfold hostOf
  split
  · next h =>
    refine iff_of_false ?_ ?_
    · intro hempty
      have hparts : "[" ++ address ++ "]" = "" := hempty
      simp at hparts
    · rintro rfl
      exact absurd h (by decide)
  · exact Iff.rfl

theorem hostAt_eq_empty_iff :
    hostAt i position = "" ↔
      ruleHost i position = some "" ∨ ruleHost i position = none ∧ entryIp i position = "" := by
  unfold hostAt
  cases ruleHost i position with
  | none => simp [hostOf_eq_empty_iff]
  | some host => simp

/-- The two hosts of an entry differ only where a rule has an empty one. -/
theorem namedHost_eq (h : ruleHost i position ≠ some "") :
    namedHost i position = hostAt i position := by
  unfold namedHost hostAt
  cases hrule : ruleHost i position with
  | none => rfl
  | some host =>
    have hhost : host ≠ "" := fun hempty => h (hempty ▸ hrule)
    rw [Option.filter_some, if_pos (by simpa using hhost)]

theorem lt_of_entryIp (h : entryIp i position ≠ "") : position < i.entryIps.length := by
  by_contra hlt
  exact h (by simp [entryIp, hlt])

theorem exists_address (ready : i.isReady = true) : ∃ position, entryIp i position ≠ "" := by
  obtain ⟨ip, hip, hfilled⟩ := List.any_eq_true.mp ready
  obtain ⟨position, hposition, rfl⟩ := List.getElem_of_mem hip
  exact ⟨position, by simpa [entryIp, hposition] using hfilled⟩

section Built

variable {endpoints : List Endpoint}

theorem reached_iff (h : ofIngress i relativePath = .ok endpoints)
    (address : entryIp i position ≠ "") :
    (∃ e, (position, e) ∈ (served i).zip endpoints ∧
      Url.joinText s!"{scheme i}://{namedHost i position}" relativePath = .ok e.url) ↔
        ruleHost i position ≠ some "" := by
  constructor
  · rintro ⟨e, he, -⟩ hrule
    have hserved := (mem_served.mp (List.of_mem_zip he).1).2
    exact hserved (hostAt_eq_empty_iff.mpr (.inl hrule))
  · intro hrule
    have hhost : hostAt i position ≠ "" := by
      rw [Ne, hostAt_eq_empty_iff, not_or]
      exact ⟨hrule, fun hnone => address hnone.2⟩
    obtain ⟨e, he, hserves⟩ := exists_mem_zip (ofIngress_ok_iff.mp h)
      (mem_served.mpr ⟨lt_of_entryIp address, hhost⟩)
    refine ⟨e, he, ?_⟩
    rw [namedHost_eq hrule]
    exact hserves.url

theorem ofIngress_eq_nil_iff (h : ofIngress i relativePath = .ok endpoints) :
    endpoints = [] ↔ ∀ position < i.entryIps.length,
      ruleHost i position = some "" ∨ ruleHost i position = none ∧ entryIp i position = "" := by
  rw [← List.length_eq_zero_iff, ← (ofIngress_ok_iff.mp h).length_eq, List.length_eq_zero_iff,
    List.eq_nil_iff_forall_not_mem]
  simp only [mem_served, not_and, not_not, hostAt_eq_empty_iff]

/-- An entry with an address has its endpoint exactly when the rule at its position has no empty
host. So no endpoint is left exactly when every entry has such a rule, or neither a host nor an
address, and a ready ingress is reached when no such rule stands at any of its addresses. -/
theorem ready_reachable_iff (h : ofIngress i relativePath = .ok endpoints) :
    (∀ position, entryIp i position ≠ "" →
      ((∃ e, (position, e) ∈ (served i).zip endpoints ∧
        Url.joinText s!"{scheme i}://{namedHost i position}" relativePath = .ok e.url) ↔
          ruleHost i position ≠ some "")) ∧
    (endpoints = [] ↔ ∀ position < i.entryIps.length,
      ruleHost i position = some "" ∨ ruleHost i position = none ∧ entryIp i position = "") ∧
    (i.isReady = true →
      (∀ position, entryIp i position ≠ "" → ruleHost i position ≠ some "") → endpoints ≠ []) := by
  refine ⟨fun _ => reached_iff h, ofIngress_eq_nil_iff h, fun ready hnamed hempty => ?_⟩
  obtain ⟨position, address⟩ := exists_address ready
  obtain ⟨e, he, -⟩ := (reached_iff h address).mpr (hnamed position address)
  rw [hempty, List.zip_nil_right] at he
  cases he

end Built

def halfNamed : Ingress := ⟨"web", 0, [some "", none], ["1.2.3.4", "5.6.7.8"]⟩

def halfNamedEndpoint : Endpoint := ⟨"http://5.6.7.8/x", .ingress, Service.loadBalancer⟩

theorem ready_reachable_half :
    ofIngress halfNamed "x" = .ok [halfNamedEndpoint] ∧ halfNamed.isReady = true ∧
      ruleHost halfNamed 0 = some "" ∧
      (∃ e, (1, e) ∈ (served halfNamed).zip [halfNamedEndpoint] ∧
        Url.joinText "http://5.6.7.8" "x" = .ok e.url) ∧
      ¬ ∃ e, (0, e) ∈ (served halfNamed).zip [halfNamedEndpoint] ∧
        Url.joinText "http://1.2.3.4" "x" = .ok e.url := by
  have hbuilt : ofIngress halfNamed "x" = .ok [halfNamedEndpoint] := by decide +kernel
  obtain ⟨hentries, -, -⟩ := ready_reachable_iff hbuilt
  refine ⟨hbuilt, by decide, by decide, ?_, fun h => ?_⟩
  · exact (hentries 1 (by decide)).mpr (by decide)
  · exact (hentries 0 (by decide)).mp h (by decide)

/-- The address of the only entry is lost to a rule whose host is empty. -/
theorem ready_unreachable :
    let i : Ingress := ⟨"todo-api-ingress", 0, [some ""], ["1.2.3.4"]⟩
    i.isReady = true ∧ entryIp i 0 = "1.2.3.4" ∧ namedHost i 0 = "1.2.3.4" ∧
      Url.joinText "http://1.2.3.4" "x" = .ok "http://1.2.3.4/x" ∧ ofIngress i "x" = .ok [] := by
  decide +kernel

end ClusterDeploy.Endpoint
