import ClusterDeploy.Proofs.Endpoint.Union
import ClusterDeploy.Proofs.Url.Literal
/-!
# The address read back from the line of an endpoint

A line is cut at its first comma. The comma that ends the address is the first one unless the
address has one of its own. Building the address adds none: one can only come from the addresses and
hosts that the cluster reports, or from the relative path, where it stays.
-/
namespace ClusterDeploy.Endpoint

open Url

/-! ## Cutting a line -/

theorem text_toList (e : Endpoint) : ∃ rest, e.text.toList = e.url.toList ++ ',' :: rest := by
  have htext : e.text = e.url ++ ", (" ++ e.source.label ++ ", Type: " ++ e.type ++ ")" := rfl
  have hcomma : ", (".toList = [',', ' ', '('] := rfl
  rw [htext]
  simp only [String.toList_append, List.append_assoc, hcomma]
  exact ⟨_, rfl⟩

theorem urlOf_text (e : Endpoint) : (urlOf e.text).toList = e.url.toList.takeWhile (· != ',') := by
  obtain ⟨rest, hrest⟩ := text_toList e
  rw [urlOf, String.toList_ofList, hrest, List.takeWhile_append]
  split
  · next hall =>
    have hurl := (List.takeWhile_sublist (· != ',')).eq_of_length hall
    rw [hurl]
    simp
  · rfl

theorem urlOf_text_iff (e : Endpoint) : urlOf e.text = e.url ↔ ',' ∉ e.url.toList := by
  rw [← String.toList_inj, urlOf_text, List.takeWhile_eq_self_iff]
  constructor
  · intro h hc
    exact absurd (h _ hc) (by decide)
  · intro h c hc
    rw [bne_iff_ne]
    rintro rfl
    exact h hc

/-! ## Services -/

def addresses (s : Service) : List String :=
  if s.type = Service.loadBalancer then s.entryIps.filter fun ip => !ip.isEmpty
  else if s.type = Service.clusterIp then (s.clusterIps.zip s.ports).map Prod.fst
  else []

theorem comma_hostOf (address : String) : ',' ∈ (hostOf address).toList ↔ ',' ∈ address.toList := by
  unfold hostOf
  split
  · have hbrackets : toString "[" ++ toString address ++ toString "]" = "[" ++ address ++ "]" := rfl
    rw [hbrackets]
    simp
  · rfl

theorem ofService_comma (s : Service) :
    (∀ e ∈ ofService s, ',' ∉ e.url.toList) ↔ ∀ address ∈ addresses s, ',' ∉ address.toList := by
  have hscheme : ',' ∉ "http://".toList := by decide
  unfold ofService addresses
  split
  · rw [List.forall_mem_map]
    apply forall₂_congr
    intro ip _
    have hurl : s!"http://{hostOf ip}" = "http://" ++ hostOf ip := rfl
    rw [hurl, String.toList_append, List.mem_append, comma_hostOf]
    exact not_congr (or_iff_right hscheme)
  split
  · rw [List.forall_mem_map, List.forall_mem_map]
    apply forall₂_congr
    rintro ⟨ip, port⟩ _
    have hcolon : ',' ∉ ":".toList := by decide
    have hport : ',' ∉ (toString port).toList := comma_integer port
    change ',' ∉ ("http://" ++ hostOf ip ++ ":" ++ toString port).toList ↔ _
    simp only [String.toList_append, List.mem_append, comma_hostOf, hscheme, hcolon, hport,
      false_or, or_false]
  · simp

/-! ## Ingresses -/

theorem plain_base {i : Ingress} {host : String} (h : Plain host.toList) :
    Plain (s!"{scheme i}://{host}").toList := by
  have hscheme : Plain (scheme i).toList := by
    unfold scheme
    split <;> decide
  have hslashes : Plain "://".toList := by decide
  have hbase : s!"{scheme i}://{host}" = scheme i ++ "://" ++ host := rfl
  rw [hbase, String.toList_append, String.toList_append]
  intro c hc
  rcases List.mem_append.mp hc with hc | hc
  · rcases List.mem_append.mp hc with hc | hc
    · exact hscheme c hc
    · exact hslashes c hc
  · exact h c hc

theorem joinText_of_ofIngress {i : Ingress} {relativePath : String} {endpoints : List Endpoint}
    (h : ofIngress i relativePath = .ok endpoints) {e : Endpoint} (he : e ∈ endpoints) :
    ∃ host ∈ ingressHosts i.ruleHosts i.entryIps,
      joinText s!"{scheme i}://{host}" relativePath = .ok e.url := by
  obtain ⟨position, hposition, hserves⟩ := serves_of_mem h he
  refine ⟨hostAt i position, ?_, hserves.url⟩
  rw [ingressHosts_eq]
  exact List.mem_map_of_mem (List.mem_range.mpr (mem_served.mp hposition).1)

/-- What is read back is the part before the first comma. For a service it is the whole exactly when
the cluster addresses have no comma. For an ingress with plain hosts it is the whole when the
relative path has none. A comma of a literal relative path cuts every address, whatever the
hosts. -/
theorem address_read_back (s : Service) {i : Ingress} {relativePath : String}
    {endpoints : List Endpoint} (h : ofIngress i relativePath = .ok endpoints) :
    (∀ e ∈ ofService s ++ endpoints,
      (urlOf e.text).toList = e.url.toList.takeWhile (· != ',') ∧
        (urlOf e.text = e.url ↔ ',' ∉ e.url.toList)) ∧
    ((∀ e ∈ ofService s, urlOf e.text = e.url) ↔ ∀ address ∈ addresses s, ',' ∉ address.toList) ∧
    ((∀ host ∈ ingressHosts i.ruleHosts i.entryIps, Plain host.toList) →
      ',' ∉ relativePath.toList → ∀ e ∈ endpoints, urlOf e.text = e.url) ∧
    (Literal relativePath.toList → ',' ∈ relativePath.toList →
      ∀ e ∈ endpoints, urlOf e.text ≠ e.url) := by
  refine ⟨fun e _ => ⟨urlOf_text e, urlOf_text_iff e⟩, ?_, ?_, ?_⟩
  · simp only [urlOf_text_iff]
    exact ofService_comma s
  · intro plain hrelative e he
    obtain ⟨host, hhost, hjoin⟩ := joinText_of_ofIngress h he
    rw [urlOf_text_iff]
    exact joinText_comma (plain_base (plain host hhost)) hrelative hjoin
  · intro literal hrelative e he
    obtain ⟨host, -, hjoin⟩ := joinText_of_ofIngress h he
    rw [Ne, urlOf_text_iff, not_not]
    exact mem_joinText_literal literal hrelative (by decide) (by decide) hjoin

def exampleIngress : Ingress := ⟨"todo-api-ingress", 0, [some "example.com"], ["1.2.3.4"]⟩

def exampleService : Service :=
  ⟨"todo-api", Service.clusterIp, ["10.0.0.5", "fd00::5"], [8080, 9090], []⟩

def exampleEndpoint (path : String) : Endpoint :=
  ⟨"http://example.com" ++ path, .ingress, Service.loadBalancer⟩

theorem address_read_back_at_example :
    ofIngress exampleIngress "v1/api" = .ok [exampleEndpoint "/v1/api"] ∧
      ofIngress exampleIngress "/a,b" = .ok [exampleEndpoint "/a,b"] ∧
      (∀ e ∈ ofService exampleService, urlOf e.text = e.url) ∧
      urlOf (exampleEndpoint "/v1/api").text = (exampleEndpoint "/v1/api").url ∧
      urlOf (exampleEndpoint "/a,b").text ≠ (exampleEndpoint "/a,b").url := by
  have hwhole : ofIngress exampleIngress "v1/api" = .ok [exampleEndpoint "/v1/api"] := by
    decide +kernel
  have hcut : ofIngress exampleIngress "/a,b" = .ok [exampleEndpoint "/a,b"] := by decide +kernel
  have hplain : ∀ host ∈ ingressHosts exampleIngress.ruleHosts exampleIngress.entryIps,
      Plain host.toList := by decide
  have haddresses : ∀ address ∈ addresses exampleService, ',' ∉ address.toList := by decide
  obtain ⟨-, hservice, hread, -⟩ := address_read_back exampleService hwhole
  obtain ⟨-, -, -, hlost⟩ := address_read_back exampleService hcut
  refine ⟨hwhole, hcut, hservice.mpr haddresses, ?_, ?_⟩
  · exact hread hplain (by decide) _ List.mem_cons_self
  · exact hlost (by decide) (by decide) _ List.mem_cons_self

/-- The cut address is another URL, so a reader of it cannot tell. -/
theorem address_cut_at_comma :
    ofIngress exampleIngress "/a,b" = .ok [exampleEndpoint "/a,b"] ∧
      (exampleEndpoint "/a,b").url = "http://example.com/a,b" ∧
      urlOf (exampleEndpoint "/a,b").text = "http://example.com/a" ∧
      urlOf (exampleEndpoint "/a,b").text ≠ (exampleEndpoint "/a,b").url := by
  decide +kernel

end ClusterDeploy.Endpoint
