-- SUMMARY: The instance on the network: the primary on the host network exactly when clustered, the sidecars in its network namespace, --network=host for mustjoin alone, and one host name across every container argument.
import CephadmSmb.Properties.Composer

/-!
# The instance on the network

Which containers of one instance reach the network, and under what name. When
clustered the primary container runs on the host network, every sidecar joins the
primary's network namespace, and of the init containers `mustjoin`, the one that joins
the domain, is given `--network=host`; no other container argument asks for the host
network (`network_follows_cluster`). The only host name a container argument sets
(`--hostname=`) is the stored virtual hostname, which `smbd` and `mustjoin` both get
whenever it is not empty, so a domain member joins under the name it serves under
(`hostname_consistent`).

Both rest on one fact per role about `container_args()`
(`Container.network_host_mem_containerArgs`, `Container.mem_containerArgs_hostname`).
-/

namespace CephadmSmb

-- ---------------------------------------------------------------------------
-- Container arguments, role by role
-- ---------------------------------------------------------------------------

theorem mem_containerDnsArgs_hostname (cfg : Config) (h : String) :
    "--hostname=" ++ h ∈ containerDnsArgs cfg ↔ cfg.vhostname ≠ "" ∧ h = cfg.vhostname := by
  simp (disch := decide) [containerDnsArgs, Py.append_ne_append]

/-- Only `smbd` and `mustjoin` are given a host name, the configured one. -/
theorem Container.mem_containerArgs_hostname (r : Container) (h : String) :
    "--hostname=" ++ h ∈ r.containerArgs ↔
      (r.role = .mustJoin ∨ r.role = .smbd) ∧ r.cfg.vhostname ≠ "" ∧ h = r.cfg.vhostname := by
  obtain ⟨role, cfg, image⟩ := r
  cases role <;> simp (disch := decide) [Container.containerArgs, mem_containerDnsArgs_hostname,
    Py.append_ne_append, Py.append_ne_of_not_startsWith, String.append_assoc]

/-- Only a clustered `mustjoin` asks for the host network. -/
theorem Container.network_host_mem_containerArgs (r : Container) :
    "--network=host" ∈ r.containerArgs ↔ r.role = .mustJoin ∧ r.cfg.clustered := by
  obtain ⟨role, cfg, image⟩ := r
  cases role <;> simp (disch := decide) [Container.containerArgs, containerDnsArgs,
    Py.ne_append_of_not_startsWith, Py.append_ne_of_not_startsWith, String.append_assoc]

theorem Role.name_eq_mustjoin (role : Role) : role.name = "mustjoin" ↔ role = .mustJoin := by
  cases role <;> decide

/-- No sidecar role is `mustjoin`. -/
theorem specLayout_supplemental_ne_mustJoin {c : Config} {r : Container}
    (hr : r ∈ (specLayout c).supplemental) : r.role ≠ .mustJoin := by
  simp only [specLayout, List.mem_append, List.mem_ite_nil_right, List.mem_cons,
    List.mem_singleton, List.not_mem_nil, or_false] at hr
  rcases hr with ((rfl | ⟨-, rfl⟩) | ⟨-, rfl⟩) | ⟨-, rfl | rfl⟩ <;> exact nofun

theorem specLayout_cfg_of_init {c : Config} {r : Container}
    (hr : r ∈ (specLayout c).initContainers) : r.cfg = c :=
  specLayout_cfg r (by simp [ContainerLayout.containers, hr])

theorem specLayout_cfg_of_supplemental {c : Config} {r : Container}
    (hr : r ∈ (specLayout c).supplemental) : r.cfg = c :=
  specLayout_cfg r (by simp [ContainerLayout.containers, hr])

-- ---------------------------------------------------------------------------
-- Host networking
-- ---------------------------------------------------------------------------

/-- On a validated instance: the primary container runs on the host network exactly
    when clustered, and asks for nothing more; every sidecar joins the primary's
    network namespace and asks for nothing more; and an init container is given
    `--network=host` exactly when it is a clustered `mustjoin`. -/
theorem network_follows_cluster {self : SMB} {s : SMBState} {c : Config} (hs : Settled c s)
    (ctx : CephadmContext) :
    ∃ p xs ys, (self.container ctx s).result = .ok p ∧
      (self.initContainers ctx s).result = .ok xs ∧
      (self.sidecarContainers ctx s).result = .ok ys ∧
      p.hostNetwork = c.clustered ∧ "--network=host" ∉ p.containerArgs ∧
      (∀ y ∈ ys, y.sharedWith = self.identity.containerName ∧
        Namespace.network ∈ y.sharedNamespaces ∧ "--network=host" ∉ y.containerArgs) ∧
      ∀ x ∈ xs, "--network=host" ∈ x.containerArgs ↔
        c.clustered ∧ x.identity.subcomponent = "mustjoin" := by
  refine ⟨_, _, _, congrArg Outcome.result (SMB.container_of_settled hs ctx),
    congrArg Outcome.result (SMB.initContainers_of_settled hs ctx),
    congrArg Outcome.result (SMB.sidecarContainers_of_settled hs ctx), rfl, ?_, ?_, ?_⟩
  · -- the primary is `smbd`
    rw [Container.network_host_mem_containerArgs]
    exact fun h => nomatch h.1
  · simp only [List.mem_map]
    rintro y ⟨r, hr, rfl⟩
    refine ⟨rfl, by simp, ?_⟩
    rw [Container.network_host_mem_containerArgs]
    exact fun h => specLayout_supplemental_ne_mustJoin hr h.1
  · simp only [List.mem_map]
    rintro x ⟨r, hr, rfl⟩
    show "--network=host" ∈ r.containerArgs ↔ c.clustered ∧ r.role.name = "mustjoin"
    rw [Container.network_host_mem_containerArgs, Role.name_eq_mustjoin, specLayout_cfg_of_init hr,
      and_comm]

theorem network_follows_cluster_sample :
    Settled sampleConfig { instanceCfg := some sampleConfig } ∧
      ∃ p xs ys, (sampleSMB.container sampleContext { instanceCfg := some sampleConfig }).result =
          .ok p ∧
        (sampleSMB.initContainers sampleContext { instanceCfg := some sampleConfig }).result =
          .ok xs ∧
        (sampleSMB.sidecarContainers sampleContext { instanceCfg := some sampleConfig }).result =
          .ok ys ∧
        p.hostNetwork = true ∧
        ∀ x ∈ xs, "--network=host" ∈ x.containerArgs ↔ x.identity.subcomponent = "mustjoin" :=
  have hs : Settled sampleConfig { instanceCfg := some sampleConfig } := ⟨rfl, .inl rfl⟩
  ⟨hs, by
    obtain ⟨p, xs, ys, hp, hx, hy, hnet, -, -, hinit⟩ :=
      @network_follows_cluster sampleSMB _ _ hs sampleContext
    exact ⟨p, xs, ys, hp, hx, hy, hnet, fun x hx' => (hinit x hx').trans ⟨And.right, And.intro rfl⟩⟩⟩

-- ---------------------------------------------------------------------------
-- Host name
-- ---------------------------------------------------------------------------

/-- On a validated instance the only host name any container argument of the primary,
    the init containers or the sidecars sets is the stored virtual hostname; and when
    that is not empty, the primary and `mustjoin` both set it. -/
theorem hostname_consistent {self : SMB} {s : SMBState} {c : Config} (hs : Settled c s)
    (ctx : CephadmContext) :
    ∃ p xs ys, (self.container ctx s).result = .ok p ∧
      (self.initContainers ctx s).result = .ok xs ∧
      (self.sidecarContainers ctx s).result = .ok ys ∧
      (∀ h, "--hostname=" ++ h ∈ p.containerArgs ∨
          (∃ x ∈ xs, "--hostname=" ++ h ∈ x.containerArgs) ∨
          (∃ y ∈ ys, "--hostname=" ++ h ∈ y.containerArgs) →
        h = c.vhostname) ∧
      (c.vhostname ≠ "" → "--hostname=" ++ c.vhostname ∈ p.containerArgs ∧
        ∀ x ∈ xs, x.identity.subcomponent = "mustjoin" →
          "--hostname=" ++ c.vhostname ∈ x.containerArgs) := by
  refine ⟨_, _, _, congrArg Outcome.result (SMB.container_of_settled hs ctx),
    congrArg Outcome.result (SMB.initContainers_of_settled hs ctx),
    congrArg Outcome.result (SMB.sidecarContainers_of_settled hs ctx), ?_, ?_⟩
  · simp only [List.mem_map]
    rintro h (hp | ⟨_, ⟨r, hr, rfl⟩, hx⟩ | ⟨_, ⟨r, hr, rfl⟩, hy⟩)
    · exact ((Container.mem_containerArgs_hostname _ h).1 hp).2.2
    · exact specLayout_cfg_of_init hr ▸ ((Container.mem_containerArgs_hostname r h).1 hx).2.2
    · exact specLayout_cfg_of_supplemental hr ▸ ((Container.mem_containerArgs_hostname r h).1 hy).2.2
  · intro hv
    refine ⟨(Container.mem_containerArgs_hostname (specLayout c).primary _).2 ⟨.inr rfl, hv, rfl⟩, ?_⟩
    simp only [List.mem_map]
    rintro x ⟨r, hr, rfl⟩ hm
    have hc := specLayout_cfg_of_init hr
    exact (Container.mem_containerArgs_hostname r _).2
      ⟨.inl ((Role.name_eq_mustjoin _).1 hm), hc ▸ hv, hc ▸ rfl⟩

theorem hostname_consistent_sample :
    Settled sampleConfig { instanceCfg := some sampleConfig } ∧
      ∃ p, (sampleSMB.container sampleContext { instanceCfg := some sampleConfig }).result =
          .ok p ∧ "--hostname=tank-node1.example.com" ∈ p.containerArgs :=
  have hs : Settled sampleConfig { instanceCfg := some sampleConfig } := ⟨rfl, .inl rfl⟩
  ⟨hs, by
    obtain ⟨p, _, _, hp, -, -, -, hv⟩ := @hostname_consistent sampleSMB _ _ hs sampleContext
    exact ⟨p, hp, (hv (by decide)).1⟩⟩

end CephadmSmb
