-- SUMMARY: The environment of the Samba roles: the items envs() sets for every config, the rank variables, and the roles that read the node number from it.
import CephadmSmb.Properties.Composer

/-!
# The Samba environment

`SambaContainerCommon.envs()` sets three identity variables, the sambacc Ceph id when
an entity is configured, and, when the rank is not negative, `RANK`,
`RANK_GENERATION` and `NODE_NUMBER`. All three rank variables carry `str(rank)`: the
rank generation is stored under no key. `sambaEnvs_items` states the items in
insertion order; `Container.mem_envsList_rankKey` reads the rank variables off
`envs_list()` for every role.

A container engine reads each `NAME=value` entry of `envs_list()` up to its first `=`
(`readAssignment`). No name `envs()` sets contains `=`, so every entry reads back to
its item, values with `=` in them (`SAMBACC_CEPH_ID=name=...`) included
(`Container.envsList_reads_back`); on a validated instance every container the
framework is given carries the Samba environment of the config, but the metrics
sidecar, which carries none (`envs_read_back`).

Four roles read the node number back from the environment (`--skip-if=env:...` and
`--take-node-number-from-env`). Validation ties neither the rank to the `clustered`
feature nor the feature to a rank, so an instance deployed without rank info runs
those roles with no `NODE_NUMBER` at all.
-/

namespace CephadmSmb

-- ---------------------------------------------------------------------------
-- The items of envs()
-- ---------------------------------------------------------------------------

/-- The items of `envs()`, in insertion order. -/
theorem sambaEnvs_items (cfg : Config) : (sambaEnvs cfg).items =
    [("SAMBA_CONTAINER_ID", cfg.instanceId), ("SAMBACC_CONFIG", Py.jsonDumps cfg.configUris),
      ("SAMBACC_CTDB", "ctdb-is-experimental")] ++
    (if cfg.cephConfigEntity ≠ "" then [("SAMBACC_CEPH_ID", "name=" ++ cfg.cephConfigEntity)]
      else []) ++
    (if cfg.rank ≥ 0 then
      [("RANK", toString cfg.rank), ("RANK_GENERATION", toString cfg.rank),
        ("NODE_NUMBER", toString cfg.rank)] else []) := by
  unfold sambaEnvs
  split_ifs <;> simp [PyDict.items_insert, PyDict.empty, PyDict.get?_def, List.lookup_cons]

/-- The keys `envs()` derives from the rank. -/
def rankKeys : List String := ["RANK", "RANK_GENERATION", "NODE_NUMBER"]

/-- A rank variable is in `envs_list()` exactly for a Samba role of a config with a
    rank that is not negative, and then it carries `str(rank)`. -/
theorem Container.mem_envsList_rankKey (r : Container) (k : String) (hk : k ∈ rankKeys)
    (v : String) :
    k ++ "=" ++ v ∈ r.envsList ↔ r.role.isSamba ∧ 0 ≤ r.cfg.rank ∧ v = toString r.cfg.rank := by
  unfold Container.envsList Container.envs
  split_ifs with hs
  · simp only [rankKeys, List.mem_cons, List.mem_singleton, List.not_mem_nil, or_false] at hk
    rw [sambaEnvs_items]
    by_cases he : r.cfg.cephConfigEntity = "" <;> by_cases hr : 0 ≤ r.cfg.rank <;>
      rcases hk with rfl | rfl | rfl <;>
      simp (disch := decide) [hs, he, hr, Py.append_ne_append, Py.ne_append_of_not_startsWith, eq_comm]
  · simp [hs]

-- ---------------------------------------------------------------------------
-- Rank generation
-- ---------------------------------------------------------------------------

/-- On node 0 of generation 1 every Samba role of the layout is told generation 0. -/
theorem rank_generation_env_reports_rank :
    (sampleSMB.cfg SMBState.init).result = .ok sampleConfig ∧
    sampleConfig.rank = 0 ∧ sampleConfig.rankGeneration = 1 ∧
    ∀ r ∈ (specLayout sampleConfig).containers, r.role.isSamba →
      "RANK_GENERATION=0" ∈ r.envsList ∧ "RANK_GENERATION=1" ∉ r.envsList := by
  refine ⟨rfl, rfl, rfl, fun r hr hs => ?_⟩
  have hk : "RANK_GENERATION" ∈ rankKeys := by decide
  have h0 := r.mem_envsList_rankKey _ hk "0"
  have h1 := r.mem_envsList_rankKey _ hk "1"
  rw [specLayout_cfg r hr] at h0 h1
  exact ⟨h0.2 ⟨hs, by decide, rfl⟩, fun h => absurd (h1.1 h).2.2 (by decide)⟩

-- ---------------------------------------------------------------------------
-- Reading the node number
-- ---------------------------------------------------------------------------

/-- A role whose arguments read `NODE_NUMBER` back from its environment. -/
def ReadsNodeNumber (r : Container) : Prop :=
  "--skip-if=env:NODE_NUMBER!=0" ∈ r.args ∨ "--take-node-number-from-env" ∈ r.args

instance (r : Container) : Decidable (ReadsNodeNumber r) :=
  inferInstanceAs (Decidable (_ ∨ _))

/-- Only Samba roles read the node number: the metrics sidecar is given a port alone. -/
theorem ReadsNodeNumber.isSamba {r : Container} (h : ReadsNodeNumber r) : r.role.isSamba := by
  obtain ⟨role, cfg, image⟩ := r
  cases role <;> try rfl
  simp (disch := decide) [ReadsNodeNumber, Container.args, Role.args, Role.isSamba,
    Py.ne_append_of_not_startsWith] at h

/-- For an instance `SMB.__init__` made, whose first `validate` succeeds: the stored
    config has the rank of the rank info, `-1` when there is none, whatever the
    features; and every role of the layout that reads the node number finds
    `NODE_NUMBER=str(rank)` when the rank is not negative, and no `NODE_NUMBER` at all
    otherwise. -/
theorem node_number_env_iff_rank {ident : DaemonIdentity} {raw : RawConfig}
    {rankInfo : Option (Int × Int)} {image : String} {host : Host} {self : SMB}
    {l : ContainerLayout} (hself : SMB.create ident raw rankInfo image host = .ok self)
    (hv : (self.validate SMBState.init).result = .ok ())
    (hl : (self.layout (self.validate SMBState.init).state).result = .ok l) :
    ∃ c, (self.validate SMBState.init).state.instanceCfg = some c ∧
      c.rank = (rankInfo.getD (-1, -1)).1 ∧
      c.clustered = decide ("clustered" ∈ raw.features.getD []) ∧
      ∀ r ∈ l.containers, ReadsNodeNumber r →
        ∀ v, "NODE_NUMBER=" ++ v ∈ r.envsList ↔ 0 ≤ c.rank ∧ v = toString c.rank := by
  unfold SMB.create at hself
  split_ifs at hself
  cases hself
  obtain ⟨vh, mp, pa, -, -, hc, hcl⟩ := SMB.validate_ok_of_none rfl hv
  rw [SMB.layout_of_cfg (SMB.cfg_of_some hc) hcl] at hl
  cases hl
  refine ⟨_, hc, rfl, rfl, fun r hr hread v => ?_⟩
  refine (r.mem_envsList_rankKey "NODE_NUMBER" (by decide) v).trans ?_
  rw [specLayout_cfg r hr]
  simp [hread.isSamba]

theorem node_number_env_iff_rank_sample :
    SMB.create sampleIdentity sampleRaw (some (0, 1)) sampleSMB.defaultImage sampleHost =
        .ok sampleSMB ∧
      (sampleSMB.validate SMBState.init).result = .ok () ∧
      (sampleSMB.layout (sampleSMB.validate SMBState.init).state).result =
        .ok (specLayout sampleConfig) ∧
      ∃ c, (sampleSMB.validate SMBState.init).state.instanceCfg = some c ∧
        c.rank = ((some (0, 1) : Option (Int × Int)).getD (-1, -1)).1 ∧
        c.clustered = decide ("clustered" ∈ sampleRaw.features.getD []) ∧
        ∀ r ∈ (specLayout sampleConfig).containers, ReadsNodeNumber r →
          ∀ v, "NODE_NUMBER=" ++ v ∈ r.envsList ↔ 0 ≤ c.rank ∧ v = toString c.rank :=
  have hself : SMB.create sampleIdentity sampleRaw (some (0, 1)) sampleSMB.defaultImage
      sampleHost = .ok sampleSMB := rfl
  have hv : (sampleSMB.validate SMBState.init).result = .ok () := rfl
  have hl : (sampleSMB.layout (sampleSMB.validate SMBState.init).state).result =
      .ok (specLayout sampleConfig) := rfl
  ⟨hself, hv, hl, node_number_env_iff_rank hself hv hl⟩

/-- A clustered record deployed without rank info. -/
def unrankedRaw : RawConfig :=
  { clusterId := some "tank"
    configUri := some "rados://.smb/tank/config.json"
    features := some ["clustered"] }

/-- The config `validate` stores for `unrankedRaw` on `sampleHost`. -/
def unrankedConfig : Config :=
  { identity := sampleIdentity, instanceId := "tank",
    sourceConfig := "rados://.smb/tank/config.json", domainMember := false, clustered := true,
    smbPort := 445,
    cephConfigEntity := "", vhostname := "tank-node1.example.com" }

/-- Validation accepts a clustered record without rank info; the config it stores has
    rank `-1`, and the layout's `ctdb-must-have-node` role, which takes its node number
    from the environment, finds no `NODE_NUMBER` there. -/
theorem clustered_without_rank_reads_no_node_number :
    ∃ self, SMB.create sampleIdentity unrankedRaw none sampleSMB.defaultImage sampleHost =
        .ok self ∧
      (self.validate SMBState.init).result = .ok () ∧
      (self.validate SMBState.init).state.instanceCfg = some unrankedConfig ∧
      unrankedConfig.clustered ∧ unrankedConfig.rank < 0 ∧
      (self.layout (self.validate SMBState.init).state).result = .ok (specLayout unrankedConfig) ∧
      ∃ r ∈ (specLayout unrankedConfig).containers, ReadsNodeNumber r ∧
        ∀ v, "NODE_NUMBER=" ++ v ∉ r.envsList := by
  refine ⟨_, rfl, rfl, rfl, rfl, by decide, rfl, ⟨.ctdbMustHaveNodeInit, unrankedConfig, ""⟩,
    by decide, by decide, fun v h => ?_⟩
  have := ((Container.mem_envsList_rankKey _ "NODE_NUMBER" (by decide) v).1 h).2.1
  exact absurd this (by decide)

-- ---------------------------------------------------------------------------
-- Reading envs_list back
-- ---------------------------------------------------------------------------

/-- How a container engine reads one `NAME=value` entry of `envs_list()`: the name runs
    up to the first `=`, the value is everything after it. -/
def readAssignment (s : String) : Option (String × String) :=
  match s.data.dropWhile (· != '=') with
  | '=' :: v => some (⟨s.data.takeWhile (· != '=')⟩, ⟨v⟩)
  | _ => none

/-- A name without `=` reads back from its entry, whatever the value holds. -/
theorem readAssignment_assign {k : String} (hk : '=' ∉ k.data) (v : String) :
    readAssignment (k ++ "=" ++ v) = some (k, v) := by
  have hk' : ∀ c ∈ k.data, (c != '=') = true := fun c hc => bne_iff_ne.2 fun h => hk (h ▸ hc)
  have hd : (k ++ "=" ++ v).data = k.data ++ '=' :: v.data := by
    rw [String.data_append, String.data_append, List.append_assoc]
    rfl
  rw [readAssignment, hd, List.dropWhile_append_of_pos hk', List.dropWhile_cons_of_neg (by decide),
    List.takeWhile_append_of_pos hk', List.takeWhile_cons_of_neg (by decide), List.append_nil]
  rfl

/-- The names `envs()` sets, in order. -/
theorem sambaEnvs_keys (cfg : Config) : (sambaEnvs cfg).items.map Prod.fst =
    ["SAMBA_CONTAINER_ID", "SAMBACC_CONFIG", "SAMBACC_CTDB"] ++
      (if cfg.cephConfigEntity ≠ "" then ["SAMBACC_CEPH_ID"] else []) ++
      (if cfg.rank ≥ 0 then ["RANK", "RANK_GENERATION", "NODE_NUMBER"] else []) := by
  rw [sambaEnvs_items]
  split_ifs <;> rfl

/-- No name `envs()` sets contains `=`. -/
theorem sambaEnvs_key_not_mem (cfg : Config) : ∀ kv ∈ (sambaEnvs cfg).items, '=' ∉ kv.1.data := by
  have hall : ∀ k ∈ (sambaEnvs cfg).items.map Prod.fst, '=' ∉ k.data := by
    rw [sambaEnvs_keys]
    split_ifs <;> decide
  exact fun kv hkv => hall _ (List.mem_map_of_mem Prod.fst hkv)

/-- Read entry by entry, `envs_list()` gives back the items of `envs()`, in order. -/
theorem Container.envsList_reads_back (r : Container) :
    r.envsList.map readAssignment = r.envs.items.map some := by
  unfold Container.envsList Container.envs
  split_ifs
  · rw [List.map_map]
    exact List.map_congr_left fun ⟨k, v⟩ h => readAssignment_assign (sambaEnvs_key_not_mem _ _ h) v
  · rfl

/-- The items of `envs()`: the Samba environment, but for the metrics exporter. -/
theorem Container.envs_items (r : Container) :
    r.envs.items = if r.role.name = "smbmetrics" then [] else (sambaEnvs r.cfg).items := by
  obtain ⟨role, cfg, image⟩ := r
  cases role <;> rfl

/-- On a validated instance, read entry by entry as an engine reads `NAME=value`, the
    environment of the primary container and of every init container is the Samba
    environment of the config, the items of `envs()` in order; so is that of every
    sidecar but the metrics exporter, which is given none. -/
theorem envs_read_back {self : SMB} {s : SMBState} {c : Config} (hs : Settled c s)
    (ctx : CephadmContext) :
    ∃ p xs ys, (self.container ctx s).result = .ok p ∧
      (self.initContainers ctx s).result = .ok xs ∧
      (self.sidecarContainers ctx s).result = .ok ys ∧
      p.envs.map readAssignment = (sambaEnvs c).items.map some ∧
      (∀ x ∈ xs, x.envs.map readAssignment = (sambaEnvs c).items.map some) ∧
      ∀ y ∈ ys, y.envs.map readAssignment =
        if y.identity.subcomponent = "smbmetrics" then [] else (sambaEnvs c).items.map some := by
  refine ⟨_, _, _, congrArg Outcome.result (SMB.container_of_settled hs ctx),
    congrArg Outcome.result (SMB.initContainers_of_settled hs ctx),
    congrArg Outcome.result (SMB.sidecarContainers_of_settled hs ctx),
    (specLayout c).primary.envsList_reads_back, ?_, ?_⟩
  · simp only [List.mem_map]
    rintro x ⟨r, hr, rfl⟩
    show r.envsList.map readAssignment = _
    have hc := specLayout_cfg (c := c) r (by simp [ContainerLayout.containers, hr])
    simp only [specLayout, List.mem_append, List.mem_ite_nil_right, List.mem_cons,
      List.mem_singleton, List.not_mem_nil, or_false] at hr
    rw [Container.envsList_reads_back, Container.envs_items, hc]
    rcases hr with (rfl | ⟨-, rfl⟩) | ⟨-, rfl | rfl⟩ <;> rfl
  · simp only [List.mem_map]
    rintro y ⟨r, hr, rfl⟩
    show r.envsList.map readAssignment = if r.role.name = "smbmetrics" then _ else _
    rw [Container.envsList_reads_back, Container.envs_items,
      specLayout_cfg (c := c) r (by simp [ContainerLayout.containers, hr])]
    split_ifs <;> rfl

theorem envs_read_back_sample :
    Settled sampleConfig { instanceCfg := some sampleConfig } ∧
      ∃ p, (sampleSMB.container sampleContext { instanceCfg := some sampleConfig }).result = .ok p ∧
        p.envs.map readAssignment = (sambaEnvs sampleConfig).items.map some :=
  have hs : Settled sampleConfig { instanceCfg := some sampleConfig } := ⟨rfl, .inl rfl⟩
  ⟨hs, by
    obtain ⟨p, _, _, hp, -, -, he, -, -⟩ := @envs_read_back sampleSMB _ _ hs sampleContext
    exact ⟨p, hp, he⟩⟩

end CephadmSmb
