-- SUMMARY: The layout of spec §4.4 and the proof that SMB._layout builds it: bucket order, distinct role names, and the CTDB sidecar behind every role that waits for CTDB.
import CephadmSmb.Daemon.Layout

/-!
# The layout refines spec §4.4

`specLayout` states the layout in the spec's words, bucket by bucket. `_layout`
builds exactly that layout from whatever `Config` `_cfg` yields. Two consequences
hold of every such layout: the role names are pairwise distinct, so the
sub-identities `DaemonSubIdentity.from_parent` derives from them are too; and a role
that waits for CTDB (`--wait-for=ctdb` or `--setup=smb_ctdb`) runs only beside the
`ctdbd` sidecar. The second rests on a fact about the role catalog alone: only
`ctdbd` and clustered configs produce those flags.
-/

namespace CephadmSmb

/-- Whether spec §4.4 step 3 adds the metrics sidecar. -/
def Config.metricsEnabled (c : Config) : Prop :=
  Py.strip c.metricsImage ≠ "" ∧ c.metricsPort > 0

instance (c : Config) : Decidable c.metricsEnabled :=
  inferInstanceAs (Decidable (_ ∧ _))

/-- Spec §4.4: the layout of a config, each bucket in insertion order. -/
def specLayout (c : Config) : ContainerLayout where
  initContainers :=
    [⟨.configInit, c, ""⟩] ++ (if c.domainMember then [⟨.mustJoin, c, ""⟩] else []) ++
      (if c.clustered then [⟨.ctdbMigrateInit, c, ""⟩, ⟨.ctdbMustHaveNodeInit, c, ""⟩] else [])
  primary := ⟨.smbd, c, ""⟩
  supplemental :=
    [⟨.configWatch, c, ""⟩] ++ (if c.domainMember then [⟨.winbind, c, ""⟩] else []) ++
      (if c.metricsEnabled then [⟨.smbMetrics, c, Py.strip c.metricsImage⟩] else []) ++
      (if c.clustered then [⟨.ctdbDaemon, c, ""⟩, ⟨.ctdbNodeMonitor, c, ""⟩] else [])

namespace SMB

variable {self : SMB} {s s' : SMBState} {c : Config} {es : List Effect}

/-- When `_cfg` yields `c` and nothing is cached, `_layout` caches and returns the
    spec's layout of `c`. -/
theorem layout_of_cfg (hc : self.cfg s = ⟨.ok c, s', es⟩) (hl : s.cachedLayout = none) :
    self.layout s = ⟨.ok (specLayout c), { s' with cachedLayout := some (specLayout c) }, es⟩ := by
  unfold layout
  rw [SMBM.get_bind_apply, hl]
  simp only [SMBM.pure_bind_apply, SMBM.bind_apply, hc]
  -- split on the three guards before the binds are pushed through them
  by_cases hm : Py.strip c.metricsImage ≠ "" ∧ c.metricsPort > 0
  · cases hd : c.domainMember <;> cases hk : c.clustered <;>
      simp only [specLayout, hd, hk, if_pos hm, if_pos (show c.metricsEnabled from hm),
        SMBM.ite_apply, SMBM.pure_bind_apply, SMBM.modify_bind_apply, SMBM.pure_apply, ↓reduceIte,
        Bool.false_eq_true, List.append_nil, List.nil_append]
  · cases hd : c.domainMember <;> cases hk : c.clustered <;>
      simp only [specLayout, hd, hk, if_neg hm, if_neg (show ¬ c.metricsEnabled from hm),
        SMBM.ite_apply, SMBM.pure_bind_apply, SMBM.modify_bind_apply, SMBM.pure_apply, ↓reduceIte,
        Bool.false_eq_true, List.append_nil, List.nil_append]

end SMB

-- ---------------------------------------------------------------------------
-- Role names
-- ---------------------------------------------------------------------------

/-- Every role, in the order the spec's buckets list them. -/
def allRoles : List Role :=
  [.configInit, .mustJoin, .ctdbMigrateInit, .ctdbMustHaveNodeInit, .smbd, .configWatch,
    .winbind, .smbMetrics, .ctdbDaemon, .ctdbNodeMonitor]

theorem allRoles_names_nodup : (allRoles.map Role.name).Nodup := by decide

theorem specLayout_roles_sublist (c : Config) :
    List.Sublist ((specLayout c).containers.map (·.role)) allRoles := by
  simp only [specLayout, ContainerLayout.containers]
  split_ifs <;> simp only [List.map_append, List.map_cons, List.map_nil, List.nil_append,
    List.cons_append, List.append_nil] <;> decide

theorem specLayout_names_nodup (c : Config) :
    ((specLayout c).containers.map Container.name).Nodup := by
  have h := ((specLayout_roles_sublist c).map Role.name).nodup allRoles_names_nodup
  simpa [List.map_map] using h

-- ---------------------------------------------------------------------------
-- Waiting for CTDB
-- ---------------------------------------------------------------------------

/-- An argument by which a role waits for, or sets up, CTDB. -/
def CtdbFlag (a : String) : Prop := a = "--wait-for=ctdb" ∨ a = "--setup=smb_ctdb"

theorem not_ctdbFlag_sambaArgs (cfg : Config) : ∀ a ∈ sambaArgs cfg, ¬ CtdbFlag a := by
  simp only [sambaArgs, CtdbFlag]
  split_ifs <;> simp (disch := decide) [Py.ne_append_of_not_startsWith, Py.append_ne_of_not_startsWith]

/-- Of the role-specific arguments, only `ctdbd`'s, and the others' under a clustered
    config, hold a CTDB flag. -/
theorem Role.clustered_of_ctdbFlag {role : Role} {cfg : Config} (hr : role ≠ .ctdbDaemon)
    {a : String} (ha : a ∈ role.args cfg) (hf : CtdbFlag a) : cfg.clustered := by
  by_contra hk
  rcases hf with rfl | rfl <;> cases role <;>
    simp (disch := decide) [Role.args, hk, Py.ne_append_of_not_startsWith, Py.append_ne_of_not_startsWith]
      at ha hr

theorem Container.clustered_of_ctdbFlag {r : Container} (hr : r.role ≠ .ctdbDaemon)
    {a : String} (ha : a ∈ r.args) (hf : CtdbFlag a) : r.cfg.clustered := by
  unfold Container.args at ha
  split_ifs at ha
  · rcases List.mem_append.mp ha with h | h
    · exact absurd hf (not_ctdbFlag_sambaArgs _ a h)
    · exact Role.clustered_of_ctdbFlag hr h hf
  · exact Role.clustered_of_ctdbFlag hr ha hf

theorem specLayout_cfg {c : Config} : ∀ r ∈ (specLayout c).containers, r.cfg = c := by
  intro r hr
  simp only [specLayout, ContainerLayout.containers, List.mem_append, List.mem_ite_nil_right,
    List.mem_cons, List.mem_singleton, List.not_mem_nil, or_false] at hr
  aesop

-- ---------------------------------------------------------------------------
-- The layout law
-- ---------------------------------------------------------------------------

/-- `_layout` builds the layout of spec §4.4 from the `Config` that `_cfg` yields, every
    role holding that `Config`; its role names, and so the sub-identities derived from
    them, are pairwise distinct; and a role other than `ctdbd` that waits for CTDB runs
    only beside the `ctdbd` sidecar. -/
theorem layout_refines_spec {self : SMB} {s s' : SMBState} {c : Config} {es : List Effect}
    (hc : self.cfg s = ⟨.ok c, s', es⟩) (hl : s.cachedLayout = none) :
    self.layout s = ⟨.ok (specLayout c), { s' with cachedLayout := some (specLayout c) }, es⟩ ∧
    (∀ r ∈ (specLayout c).containers, r.cfg = c) ∧
    ((specLayout c).containers.map Container.name).Nodup ∧
    ((specLayout c).containers.map fun r =>
      DaemonSubIdentity.fromParent self.identity r.name).Nodup ∧
    ∀ r ∈ (specLayout c).containers, r.role ≠ .ctdbDaemon → (∃ a ∈ r.args, CtdbFlag a) →
      ∃ d ∈ (specLayout c).supplemental, d.role = .ctdbDaemon := by
  refine ⟨SMB.layout_of_cfg hc hl, specLayout_cfg, specLayout_names_nodup c, ?_, ?_⟩
  · have hinj : Function.Injective (DaemonSubIdentity.fromParent self.identity) :=
      fun _ _ h => (DaemonSubIdentity.mk.inj h).2
    simpa [List.map_map, Function.comp_def] using (specLayout_names_nodup c).map hinj
  · rintro r hr hd ⟨a, ha, hf⟩
    have hk : c.clustered := specLayout_cfg r hr ▸ Container.clustered_of_ctdbFlag hd ha hf
    exact ⟨⟨.ctdbDaemon, c, ""⟩, by simp [specLayout, hk], rfl⟩

/-- A host for evaluating the model: one network `public` with device `eth0`. -/
def sampleHost : Host where
  fqdn := "node1.example.com"
  listNetworks _ := ⟨[("public", ["eth0"])], by decide⟩
  setOrder := SetOrder.insertion

/-- The identity of the daemon `smb.tank`. -/
def sampleIdentity : DaemonIdentity := ⟨"smb", "smb.tank", "ceph-fsid-smb-tank"⟩

/-- The raw record of a clustered domain member `tank` with one public address. -/
def sampleRaw : RawConfig :=
  { clusterId := some "tank"
    configUri := some "rados://.smb/tank/config.json"
    features := some ["domain", "clustered"]
    clusterLockUri := some "rados://pool/obj"
    clusterPublicAddrs := some [⟨some "10.0.0.5/24", some ["public", "backup"]⟩] }

/-- The instance `SMB.__init__` makes of `sampleRaw` on node 0 of generation 1. -/
def sampleSMB : SMB :=
  { identity := sampleIdentity, rawConfigs := sampleRaw, rankInfo := (0, 1), smbPort := 445,
    metricsPort := 9922, defaultImage := "quay.io/samba.org/samba-server:latest",
    host := sampleHost }

/-- The config `sampleSMB.validate` stores: a clustered domain member on node 0 of
    generation 1. -/
def sampleConfig : Config :=
  { identity := sampleIdentity, instanceId := "tank",
    sourceConfig := "rados://.smb/tank/config.json", domainMember := true, clustered := true,
    smbPort := 445, cephConfigEntity := "", vhostname := "tank-node1.example.com", rank := 0,
    rankGeneration := 1, clusterLockUri := "rados://pool/obj",
    clusterPublicAddrs := [⟨"10.0.0.5/24", ["public", "backup"]⟩] }

theorem layout_refines_spec_sample :
    sampleSMB.cfg { instanceCfg := some sampleConfig } =
        ⟨.ok sampleConfig, { instanceCfg := some sampleConfig }, []⟩ ∧
      ({ instanceCfg := some sampleConfig } : SMBState).cachedLayout = none ∧
      (sampleSMB.layout { instanceCfg := some sampleConfig }).result = .ok (specLayout sampleConfig) :=
  ⟨SMB.cfg_of_some rfl, rfl, by rw [(layout_refines_spec (SMB.cfg_of_some rfl) rfl).1]⟩

end CephadmSmb
