import ClusterDeploy.Proofs.Endpoint.Union
/-!
# The endpoints of a service, and whether there are any

A load balancer has one endpoint for each of its addresses and is ready as soon as it has one. Any
other service is ready at once, with as many endpoints as its addresses and ports make pairs. So a
load balancer that has been waited for is reached.
-/
namespace ClusterDeploy.Endpoint

open Attempt

/-- In a filtered list an element stands behind those before it that are kept. -/
theorem getElem?_filter {p : β → Bool} {l : List β} {position : Nat} {b : β}
    (h : l[position]? = some b) (kept : p b = true) :
    (l.filter p)[(l.take position).countP p]? = some b := by
  obtain ⟨hlt, rfl⟩ := List.getElem?_eq_some_iff.mp h
  have hsplit : l.filter p =
      (l.take position).filter p ++ l[position] :: (l.drop (position + 1)).filter p := by
    rw [← List.filter_cons_of_pos kept, ← List.drop_eq_getElem_cons hlt, ← List.filter_append,
      List.take_append_drop]
  rw [hsplit, List.countP_eq_length_filter, List.getElem?_append_right (Nat.le_refl _),
    Nat.sub_self]
  rfl

/-! ## By type -/

variable {s : Service}

theorem ofService_of_loadBalancer (h : s.type = Service.loadBalancer) :
    ofService s = (s.entryIps.filter fun ip => !ip.isEmpty).map fun ip =>
      ⟨s!"http://{hostOf ip}", .service, Service.loadBalancer⟩ :=
  if_pos h

theorem ofService_of_clusterIp (h : s.type = Service.clusterIp) :
    ofService s = (s.clusterIps.zip s.ports).map fun pair =>
      ⟨s!"http://{hostOf pair.1}:{pair.2}", .service, Service.clusterIp⟩ := by
  have hother : s.type ≠ Service.loadBalancer := by
    rw [h]
    decide
  exact (if_neg hother).trans (if_pos h)

theorem isReady_of_other (h : s.type ≠ Service.loadBalancer) : s.isReady = true := by
  simp [Service.isReady, h]

/-- One endpoint for each entry with an address, at the place that the entries with an address
before it leave. -/
structure Balanced (s : Service) : Prop where
  count : (ofService s).length = s.entryIps.countP fun ip => !ip.isEmpty
  place : ∀ (position : Nat) ip, s.entryIps[position]? = some ip → ip ≠ "" →
    (ofService s)[(s.entryIps.take position).countP fun ip => !ip.isEmpty]? =
      some ⟨s!"http://{hostOf ip}", .service, Service.loadBalancer⟩
  ready : s.isReady = true ↔ ofService s ≠ []

theorem balanced_of_type (h : s.type = Service.loadBalancer) : Balanced s := by
  constructor
  · rw [ofService_of_loadBalancer h, List.length_map, List.countP_eq_length_filter]
  · intro position ip hip hfilled
    have hkept : (!ip.isEmpty) = true := by
      rw [Bool.not_eq_true', Bool.eq_false_iff, Ne, String.isEmpty_iff]
      exact hfilled
    rw [ofService_of_loadBalancer h, List.getElem?_map, getElem?_filter hip hkept]
    rfl
  · rw [ofService_of_loadBalancer h, Ne, List.map_eq_nil_iff, List.filter_eq_nil_iff]
    simp [Service.isReady, h]

/-- One endpoint for each pair of an address and a port at the same position. -/
structure Paired (s : Service) : Prop where
  count : (ofService s).length = min s.clusterIps.length s.ports.length
  place : ∀ (position : Nat) ip port,
    s.clusterIps[position]? = some ip → s.ports[position]? = some port →
    (ofService s)[position]? = some ⟨s!"http://{hostOf ip}:{port}", .service, Service.clusterIp⟩

theorem paired_of_type (h : s.type = Service.clusterIp) : Paired s := by
  constructor
  · rw [ofService_of_clusterIp h, List.length_map, List.length_zip]
  · intro position ip port hip hport
    have hpair : (s.clusterIps.zip s.ports)[position]? = some (ip, port) :=
      List.getElem?_zip_eq_some.mpr ⟨hip, hport⟩
    rw [ofService_of_clusterIp h, List.getElem?_map, hpair]
    rfl

/-! ## Services that have been waited for -/

section Awaited

variable {σ : Type} {world : Surroundings σ} {start : Scene σ} {poll : PollOptions}
  {serviceFilter : String}

theorem awaitService_result
    (h : (((Watch.service serviceFilter).wait poll).runIn world start).result = .ok s) :
    ((awaitService serviceFilter poll).runIn world start).result = .ok (ofService s) := by
  rw [awaitService, result_bind_ok h, result_bind_ok (warnAll_run _ _ _).1]
  rfl

/-- The endpoints of the service are not lost to what is found of the ingress. -/
theorem ofService_prefix {ingressFilter relativePath : String} {endpoints : List Endpoint}
    (h : (((Watch.service serviceFilter).wait poll).runIn world start).result = .ok s)
    (hresolved : ((resolve serviceFilter ingressFilter relativePath poll).runIn world
      start).result = .ok endpoints) : ofService s <+: endpoints := by
  have hfirst : ((wrap .serviceEndpoints (unlessNotFound
      (awaitService serviceFilter poll))).runIn world start).result = .ok (some (ofService s)) := by
    rw [runIn_tolerate, awaitService_result h]
    rfl
  rw [resolve, result_bind_ok hfirst, runIn_bind_pure] at hresolved
  obtain ⟨fromIngress, -, rfl⟩ := ok_of_map hresolved
  exact List.prefix_append _ _

theorem reached_of_awaited
    (h : (((Watch.service serviceFilter).wait poll).runIn world start).result = .ok s)
    (htype : s.type = Service.loadBalancer) : ofService s ≠ [] :=
  (balanced_of_type htype).ready.mp (Watch.wait_ready h).2

end Awaited

/-- What a service offers by its type, and that this agrees with its being ready. So a load balancer
that a wait has found contributes an endpoint to whatever is resolved. -/
theorem service_ready_agrees (s : Service) :
    (s.type = Service.loadBalancer → Balanced s) ∧
    (s.type = Service.clusterIp → s.isReady = true ∧ Paired s) ∧
    (s.type ≠ Service.loadBalancer → s.type ≠ Service.clusterIp →
      s.isReady = true ∧ ofService s = []) ∧
    ∀ {σ : Type} (world : Surroundings σ) (start : Scene σ) (poll : PollOptions)
      (serviceFilter : String),
      (((Watch.service serviceFilter).wait poll).runIn world start).result = .ok s →
      s.type = Service.loadBalancer →
        ofService s ≠ [] ∧
        ((awaitService serviceFilter poll).runIn world start).result = .ok (ofService s) ∧
        ∀ ingressFilter relativePath endpoints,
          ((resolve serviceFilter ingressFilter relativePath poll).runIn world start).result =
            .ok endpoints → ofService s <+: endpoints := by
  refine ⟨balanced_of_type, fun h => ⟨isReady_of_other ?_, paired_of_type h⟩, ?_, ?_⟩
  · rw [h]
    decide
  · intro hbalancer hcluster
    exact ⟨isReady_of_other hbalancer, (if_neg hbalancer).trans (if_neg hcluster)⟩
  · intro σ world start poll serviceFilter h htype
    exact ⟨reached_of_awaited h htype, awaitService_result h, fun _ _ _ => ofService_prefix h⟩

def balancer (ips : List String) : Json :=
  .obj [("metadata", .obj [("name", .str "todo-api")]),
    ("spec", .obj [("type", .str "LoadBalancer")]),
    ("status", .obj [("loadBalancer",
      .obj [("ingress", .arr (ips.map fun ip => .obj [("ip", .str ip)]))])])]

/-- Only the second listing has an address, in the second entry. -/
def balancedScene : Scene (Session ProgressChannel Script) :=
  Script.scene ⟨[("svc", [{ items := [balancer [""]] }, { items := [balancer ["", "fd00::5"]] }])]⟩

theorem service_ready_agrees_balanced :
    let s : Service := ⟨"todo-api", Service.loadBalancer, [], [], ["", "fd00::5"]⟩
    let reached : Endpoint := ⟨"http://[fd00::5]", .service, Service.loadBalancer⟩
    (((Watch.service "api").wait (.every 5 10)).runIn Script.surroundings balancedScene).result =
        .ok s ∧
      ofService s = [reached] ∧ ofService s ≠ [] ∧
      ((awaitService "api" (.every 5 10)).runIn Script.surroundings balancedScene).result =
        .ok (ofService s) ∧
      ((resolve "api" "api" "v1" (.every 5 10)).runIn Script.surroundings balancedScene).result =
        .ok [reached] ∧
      ofService s <+: [reached] := by
  intro s reached
  have hfound : (((Watch.service "api").wait (.every 5 10)).runIn Script.surroundings
      balancedScene).result = .ok s := by decide +kernel
  have hresolved : ((resolve "api" "api" "v1" (.every 5 10)).runIn Script.surroundings
      balancedScene).result = .ok [reached] := by rfl
  obtain ⟨hne, hresult, hprefix⟩ :=
    (service_ready_agrees s).2.2.2 Script.surroundings balancedScene (.every 5 10) "api" hfound rfl
  exact ⟨hfound, by decide, hne, hresult, hresolved, hprefix _ _ _ hresolved⟩

end ClusterDeploy.Endpoint
