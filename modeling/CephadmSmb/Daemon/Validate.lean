-- SUMMARY: SMB.validate and SMB._cfg: reading the raw config record once into a Config, with every check and error of the code, and the network fetch it triggers.
import CephadmSmb.Daemon.Instance

/-!
# Validation

`SMB.validate` turns the raw config record into the instance's `Config` the first
time it succeeds and does nothing on later calls; `SMB._cfg` validates and returns
the stored `Config`. Everything the code checks is checked here in the code's order:
`int()` of the metrics port, the instance id, the source URI, the feature tags, then
the `KeyError`s of `ClusterPublicIP.convert`. The host is asked for its name only when
no virtual hostname is given, and for its networks only when some cluster public IP
is configured.
-/

namespace CephadmSmb

namespace SMB

variable (self : SMB)

/-- `socket.getfqdn()`. -/
def getfqdn : SMBM String := fun s => ⟨.ok self.host.fqdn, s, [.getfqdn]⟩

/-- `_NetworkMapper.load()`: `self._networks = list_networks(self._ctx)`. -/
def load : SMBM Unit := fun s =>
  ⟨.ok (), { s with networkMapper := ⟨self.host.listNetworks s.fetches⟩, fetches := s.fetches + 1 },
    [.listNetworks]⟩

/-- The `Config(...)` that ends `validate`, each field read from the raw record with
    the default `validate` gives it. -/
def newConfig (vhostname : String) (metricsPort : Int) (publicAddrs : List ClusterPublicIP) :
    Config :=
  let configs := self.rawConfigs
  let instanceFeatures := configs.features.getD []
  { identity := self.identity
    instanceId := configs.clusterId.getD ""
    sourceConfig := configs.configUri.getD ""
    joinSources := configs.joinSources.getD []
    userSources := configs.userSources.getD []
    customDns := configs.customDns.getD []
    domainMember := decide (Features.domain.value ∈ instanceFeatures)
    clustered := decide (Features.clustered.value ∈ instanceFeatures)
    smbPort := self.smbPort
    cephConfigEntity := configs.configAuthEntity.getD ""
    vhostname := vhostname
    metricsImage := configs.metricsImage.getD ""
    metricsPort := metricsPort
    rank := self.rankInfo.1
    rankGeneration := self.rankInfo.2
    clusterMetaUri := configs.clusterMetaUri.getD ""
    clusterLockUri := configs.clusterLockUri.getD ""
    clusterPublicAddrs := publicAddrs }

/-- The message of the feature check: the invalid tags, as the set iterates them. -/
def invalidFeatures (instanceFeatures : List String) : List String :=
  self.host.setOrder.arrange (instanceFeatures.filter fun f => !Features.valid f)

/-- The reads and checks that open `validate`, before it asks the host: the metrics
    port as `int()` reads it, or the first error raised. -/
def validateRaw : Except PyExc Int := do
  let configs := self.rawConfigs
  let instanceId := configs.clusterId.getD ""
  let sourceConfig := configs.configUri.getD ""
  let metricsPort ← (configs.metricsPort.getD (.str "0")).toInt
  if instanceId = "" then throw (.error "invalid instance (cluster) id") else
  if sourceConfig = "" then throw (.error "invalid configuration source uri") else
  let invalidFeatures := self.invalidFeatures (configs.features.getD [])
  if !invalidFeatures.isEmpty then
    throw (.error ("invalid instance features: " ++ ", ".intercalate invalidFeatures))
  else pure metricsPort

/-- The virtual hostname `validate` settles on: the configured one, or
    `f'{instance_id}-{socket.getfqdn()}'` when it is empty. -/
def virtualHostname : SMBM String := do
  let vhostname := self.rawConfigs.virtualHostname.getD ""
  if vhostname = "" then
    let hname ← self.getfqdn
    pure (self.rawConfigs.clusterId.getD "" ++ "-" ++ hname)
  else pure vhostname

/-- `SMB.validate()`. -/
def validate : SMBM Unit := do
  if (← SMBM.get).instanceCfg.isSome then return
  let metricsPort ← SMBM.lift self.validateRaw
  let vhostname ← self.virtualHostname
  let publicAddrs ←
    SMBM.lift ((self.rawConfigs.clusterPublicAddrs.getD []).mapM ClusterPublicIP.convert)
  if !publicAddrs.isEmpty then self.load
  SMBM.modify fun s =>
    { s with instanceCfg := some (self.newConfig vhostname metricsPort publicAddrs),
             files := self.rawConfigs.files.getD PyDict.empty }

/-- `SMB._cfg`: validate, then `assert self._instance_cfg`. -/
def cfg : SMBM Config := do
  self.validate
  match (← SMBM.get).instanceCfg with
  | some c => pure c
  | none => SMBM.raise .assertionError

/-- `SMB.instance_id`. -/
def instanceId : SMBM String := do
  pure (← self.cfg).instanceId

/-- `SMB.source_config`. -/
def sourceConfig : SMBM String := do
  pure (← self.cfg).sourceConfig

/-- The name `virtualHostname` settles on. -/
def vhostnameValue : String :=
  if self.rawConfigs.virtualHostname.getD "" = "" then
    self.rawConfigs.clusterId.getD "" ++ "-" ++ self.host.fqdn
  else self.rawConfigs.virtualHostname.getD ""

/-- The host operations of `virtualHostname`: one `getfqdn` when no name is configured. -/
def vhostnameEffects : List Effect :=
  if self.rawConfigs.virtualHostname.getD "" = "" then [.getfqdn] else []

variable {self} {s : SMBState} {c : Config}

theorem validate_of_some (h : s.instanceCfg = some c) : self.validate s = ⟨.ok (), s, []⟩ := by
  simp [validate, h]

theorem cfg_of_some (h : s.instanceCfg = some c) : self.cfg s = ⟨.ok c, s, []⟩ := by
  simp [cfg, validate_of_some h, h]

theorem validate_bind_of_some {α : Type} (h : s.instanceCfg = some c) (f : Unit → SMBM α) :
    (self.validate >>= f) s = f () s :=
  SMBM.bind_apply_of_ok (validate_of_some h)

theorem cfg_bind_of_some {α : Type} (h : s.instanceCfg = some c) (f : Config → SMBM α) :
    (self.cfg >>= f) s = f c s :=
  SMBM.bind_apply_of_ok (cfg_of_some h)

theorem eq_getfqdn_of_mem_vhostnameEffects {e : Effect} (h : e ∈ self.vhostnameEffects) :
    e = .getfqdn := by
  unfold vhostnameEffects at h
  split at h <;> simp_all

theorem virtualHostname_apply :
    self.virtualHostname s = ⟨.ok self.vhostnameValue, s, self.vhostnameEffects⟩ := by
  unfold virtualHostname vhostnameValue vhostnameEffects
  split <;> simp [getfqdn, *]

theorem validate_of_validateRaw_error {e : PyExc} (hs : s.instanceCfg = none)
    (he : self.validateRaw = .error e) : self.validate s = ⟨.error e, s, []⟩ := by
  simp [validate, hs, he]

theorem validate_of_convert_error {mp : Int} {e : PyExc} (hs : s.instanceCfg = none)
    (hr : self.validateRaw = .ok mp)
    (hp : (self.rawConfigs.clusterPublicAddrs.getD []).mapM ClusterPublicIP.convert = .error e) :
    self.validate s = ⟨.error e, s, self.vhostnameEffects⟩ := by
  simp only [List.mapM] at hp
  simp [validate, hs, hr, virtualHostname_apply, hp]

theorem validate_of_ok {mp : Int} {pa : List ClusterPublicIP} (hs : s.instanceCfg = none)
    (hr : self.validateRaw = .ok mp)
    (hp : (self.rawConfigs.clusterPublicAddrs.getD []).mapM ClusterPublicIP.convert = .ok pa) :
    self.validate s =
      ⟨.ok (),
        { s with
          instanceCfg := some (self.newConfig self.vhostnameValue mp pa)
          files := self.rawConfigs.files.getD PyDict.empty
          networkMapper := if pa = [] then s.networkMapper else ⟨self.host.listNetworks s.fetches⟩
          fetches := if pa = [] then s.fetches else s.fetches + 1 },
        self.vhostnameEffects ++ if pa = [] then [] else [.listNetworks]⟩ := by
  simp only [List.mapM] at hp
  by_cases hpa : pa = [] <;> simp [validate, hs, hr, virtualHostname_apply, hp, hpa, load]

/-- Everything one call of `validate` can do: nothing once a `Config` is stored;
    otherwise raise without assigning anything and without fetching networks, or store
    the new `Config` and files, fetching the networks exactly when some public address
    is configured. -/
theorem validate_cases :
    (∃ c, s.instanceCfg = some c ∧ self.validate s = ⟨.ok (), s, []⟩) ∨
    (s.instanceCfg = none ∧ ∃ e es, self.validate s = ⟨.error e, s, es⟩ ∧ ∀ x ∈ es, x = .getfqdn) ∨
    (s.instanceCfg = none ∧ ∃ vh mp pa, self.validateRaw = .ok mp ∧
      (self.rawConfigs.clusterPublicAddrs.getD []).mapM ClusterPublicIP.convert = .ok pa ∧
      self.validate s =
        ⟨.ok (),
          { s with
            instanceCfg := some (self.newConfig vh mp pa)
            files := self.rawConfigs.files.getD PyDict.empty
            networkMapper := if pa = [] then s.networkMapper else ⟨self.host.listNetworks s.fetches⟩
            fetches := if pa = [] then s.fetches else s.fetches + 1 },
          self.vhostnameEffects ++ if pa = [] then [] else [.listNetworks]⟩) := by
  have hvh : ∀ x ∈ self.vhostnameEffects, x = .getfqdn := fun _ => eq_getfqdn_of_mem_vhostnameEffects
  cases hs : s.instanceCfg with
  | some c => exact .inl ⟨c, rfl, validate_of_some hs⟩
  | none =>
    right
    cases hr : self.validateRaw with
    | error e => exact .inl ⟨rfl, e, [], validate_of_validateRaw_error hs hr, by simp⟩
    | ok mp =>
      cases hp : (self.rawConfigs.clusterPublicAddrs.getD []).mapM ClusterPublicIP.convert with
      | error e => exact .inl ⟨rfl, e, _, validate_of_convert_error hs hr hp, hvh⟩
      | ok pa => exact .inr ⟨rfl, _, mp, pa, rfl, rfl, validate_of_ok hs hr hp⟩

/-- `_cfg` returns the config a successful `validate` stored, with its state and host
    operations. -/
theorem cfg_of_validate (hv : (self.validate s).result = .ok ())
    (hc : (self.validate s).state.instanceCfg = some c) :
    self.cfg s = ⟨.ok c, (self.validate s).state, (self.validate s).effects⟩ := by
  rcases hvs : self.validate s with ⟨r, s', es⟩
  rw [hvs] at hv hc
  dsimp only at hv hc
  subst hv
  simp [cfg, hvs, hc]

/-- A first `validate` that succeeds stores the `newConfig` of what it read and leaves
    the layout cache alone. -/
theorem validate_ok_of_none (hs : s.instanceCfg = none) (hv : (self.validate s).result = .ok ()) :
    ∃ vh mp pa, self.validateRaw = .ok mp ∧
      (self.rawConfigs.clusterPublicAddrs.getD []).mapM ClusterPublicIP.convert = .ok pa ∧
      (self.validate s).state.instanceCfg = some (self.newConfig vh mp pa) ∧
      (self.validate s).state.cachedLayout = s.cachedLayout := by
  rcases @validate_cases self s with ⟨c, h, -⟩ | ⟨-, e, es, h, -⟩ | ⟨-, vh, mp, pa, hr, hp, h⟩
  · simp [hs] at h
  · simp [h] at hv
  · exact ⟨vh, mp, pa, hr, hp, by rw [h], by rw [h]⟩

end SMB

end CephadmSmb
