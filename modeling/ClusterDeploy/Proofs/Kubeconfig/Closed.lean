import ClusterDeploy.Proofs.Kubeconfig.Keyed
/-!
# Kubeconfigs without dangling contexts

A kubeconfig is closed when the clusters and users that its contexts name are there. Merging only
ever adds names, so a merge of two closed kubeconfigs is closed, whatever names they share.
-/
namespace ClusterDeploy.Kubeconfig

structure Context.ResolvesIn (body : Context) (config : Kubeconfig) : Prop where
  cluster : body.cluster ∈ names config.clusters
  user : ∀ user ∈ body.user, user ∈ names config.users

instance (body : Context) (config : Kubeconfig) : Decidable (body.ResolvesIn config) :=
  decidable_of_iff (body.cluster ∈ names config.clusters ∧
      ∀ user ∈ body.user, user ∈ names config.users)
    ⟨fun h => ⟨h.1, h.2⟩, fun h => ⟨h.cluster, h.user⟩⟩

/-- No context dangles. One without a body does not name anything. -/
def Closed (config : Kubeconfig) : Prop :=
  ∀ context ∈ config.contexts, ∀ body ∈ context.body, body.ResolvesIn config

instance (config : Kubeconfig) : Decidable config.Closed :=
  inferInstanceAs (Decidable (∀ context ∈ config.contexts, ∀ body ∈ context.body,
    body.ResolvesIn config))

variable {before incoming after : List (Named α)} {entry : Named α} {name : String}
  {existing login config : Kubeconfig} {cluster inNamespace : String}

/-! ## What merging adds -/

theorem mem_upsert {e : Named α} (h : e ∈ upsert entry before) : e = entry ∨ e ∈ before := by
  induction before with
  | nil => exact .inl (List.mem_singleton.mp h)
  | cons first more ih =>
    rw [upsert] at h
    by_cases hname : first.name = entry.name
    · rw [if_pos hname] at h
      exact (List.mem_cons.mp h).imp id (List.mem_cons_of_mem _)
    · rw [if_neg hname] at h
      rcases List.mem_cons.mp h with rfl | h
      · exact .inr List.mem_cons_self
      · exact (ih h).imp id (List.mem_cons_of_mem _)

theorem mem_upsertAll {e : Named α} (h : e ∈ upsertAll before incoming) :
    e ∈ before ∨ e ∈ incoming := by
  induction incoming generalizing before with
  | nil => exact .inl h
  | cons entry incoming ih =>
    rcases ih h with hbefore | hlater
    · rcases mem_upsert hbefore with rfl | hold
      · exact .inr List.mem_cons_self
      · exact .inl hold
    · exact .inr (List.mem_cons_of_mem _ hlater)

theorem Context.ResolvesIn.merge_left {body : Context} (h : body.ResolvesIn existing)
    (incoming : Kubeconfig) : body.ResolvesIn (existing.merge incoming) where
  cluster := mem_names_upsertAll.mpr (.inl h.cluster)
  user user huser := mem_names_upsertAll.mpr (.inl (h.user user huser))

theorem Context.ResolvesIn.merge_right {body : Context} (h : body.ResolvesIn login)
    (existing : Kubeconfig) : body.ResolvesIn (existing.merge login) where
  cluster := mem_names_upsertAll.mpr (.inr h.cluster)
  user user huser := mem_names_upsertAll.mpr (.inr (h.user user huser))

theorem Closed.merge (h : existing.Closed) (hlogin : login.Closed) :
    (existing.merge login).Closed := by
  intro context hcontext body hbody
  rcases mem_upsertAll hcontext with hold | hnew
  · exact (h context hold body hbody).merge_left login
  · exact (hlogin context hnew body hbody).merge_right existing

theorem Closed.switch (h : config.Closed) (current : Option String) :
    { config with currentContext := current }.Closed := by
  intro context hcontext body hbody
  obtain ⟨hcluster, huser⟩ := h context hcontext body hbody
  exact ⟨hcluster, huser⟩

/-! ## Logins -/

/-- The first context of a login has a body, and what that names is part of the login. -/
def Usable (login : Kubeconfig) : Prop :=
  ∃ first body more, login.contexts = first :: more ∧ first.body = some body ∧
    body.ResolvesIn login

def withLogin (config : Kubeconfig) (cluster inNamespace : String) (login : Kubeconfig) :
    Kubeconfig :=
  config.merge ((login.loginFor cluster inNamespace).getD {})

/-- The context of the cluster is that of the login, and what it names are the entries that the
login gave last under these names. -/
def Resolves (config : Kubeconfig) (cluster inNamespace : String) (login : Kubeconfig) : Prop :=
  ∃ first body more, login.contexts = first :: more ∧ first.body = some body ∧
    find? cluster config.contexts =
      some ⟨cluster, some { body with inNamespace := some inNamespace }⟩ ∧
    (∃ entry, last? body.cluster login.clusters = some entry ∧
      find? body.cluster config.clusters = some entry) ∧
    ∀ user ∈ body.user, ∃ entry, last? user login.users = some entry ∧
      find? user config.users = some entry

theorem Usable.loginFor (h : login.Usable) (cluster inNamespace : String) :
    ∃ first body more, login.contexts = first :: more ∧ first.body = some body ∧
      body.ResolvesIn login ∧
      login.loginFor cluster inNamespace =
        some { login with
          contexts := [⟨cluster, some { body with inNamespace := some inNamespace }⟩]
          currentContext := some cluster } := by
  obtain ⟨first, body, more, hcontexts, hbody, hresolves⟩ := h
  refine ⟨first, body, more, hcontexts, hbody, hresolves, ?_⟩
  rw [Kubeconfig.loginFor, hcontexts]
  dsimp only
  rw [hbody]
  rfl

/-- The contexts of the login besides the first one do not matter, for they are not stored. -/
theorem Closed.withLogin (h : config.Closed) (usable : login.Usable)
    (cluster inNamespace : String) : (config.withLogin cluster inNamespace login).Closed := by
  obtain ⟨first, body, more, _, _, hresolves, hstored⟩ := usable.loginFor cluster inNamespace
  rw [Kubeconfig.withLogin, hstored, Option.getD_some]
  apply h.merge
  intro context hcontext body' hbody'
  obtain rfl := List.mem_singleton.mp hcontext
  obtain rfl := Option.some.inj hbody'
  exact ⟨hresolves.cluster, hresolves.user⟩

theorem resolves_withLogin (usable : login.Usable) (cluster inNamespace : String)
    (config : Kubeconfig) :
    (config.withLogin cluster inNamespace login).Resolves cluster inNamespace login := by
  obtain ⟨first, body, more, hcontexts, hbody, hresolves, hstored⟩ :=
    usable.loginFor cluster inNamespace
  refine ⟨first, body, more, hcontexts, hbody, ?_⟩
  rw [withLogin, hstored, Option.getD_some]
  refine ⟨?_, find?_upsertAll_of_mem _ hresolves.cluster, ?_⟩
  · exact (find?_upsert _ _ _).trans (if_pos rfl)
  · exact fun user huser => find?_upsertAll_of_mem _ (hresolves.user user huser)

end ClusterDeploy.Kubeconfig
