-- SUMMARY: The public_addresses of ctdb.json: for_sambacc resolves each cluster public IP to the devices of its destination networks, in order, and the stub config carries exactly that list.
import CephadmSmb.Daemon.DataDir
import CephadmSmb.Properties.Layout

/-!
# Public addresses

`_NetworkMapper.for_sambacc` turns each configured public IP into a record of its
address and the devices of its destination networks: for each destination in
order, the devices the inventory lists for it, repetitions kept, nothing for a
network the host lacks. `specPublicAddress` says this with `filterMap`;
`forSambacc_eq_map` proves that the code's nested loops compute it.
`_write_ctdb_stub_config` puts that list, computed with the inventory the mapper holds
when the file is written, under `ctdb.public_addresses`.
-/

namespace CephadmSmb

/-- The value of a key of a JSON object, `none` for anything else. -/
def JsonValue.get? : JsonValue → String → Option JsonValue
  | .dict items, k => items.lookup k
  | _, _ => none

/-- The record spec §4.7 describes for an address over an inventory: the devices of
    the destinations present in the inventory, concatenated in order. -/
def specPublicAddress (N : PyDict (List String)) (a : ClusterPublicIP) : JsonValue :=
  .dict [("address", .str a.address),
    ("interfaces", .list ((a.destinations.filterMap N.get?).flatten.map .str))]

private theorem flatMap_getD_eq_flatten_filterMap (f : String → Option (List String))
    (ds : List String) : ds.flatMap (fun d => (f d).getD []) = (ds.filterMap f).flatten := by
  induction ds with
  | nil => rfl
  | cons d ds ih => cases h : f d <;> simp [List.filterMap_cons, h, ih]

theorem forSambacc_eq_map (m : NetworkMapper) (cfg : Config) :
    m.forSambacc cfg = cfg.clusterPublicAddrs.map (specPublicAddress m.networks) := by
  unfold NetworkMapper.forSambacc
  split_ifs with h
  · simp [List.isEmpty_iff.mp h]
  · simp [List.map_map, Function.comp_def, publicAddressRecord, specPublicAddress,
      NetworkMapper.convert, NetworkMapper.devicesOf_eq, flatMap_getD_eq_flatten_filterMap]

example : (NetworkMapper.mk ⟨[("public", ["eth0", "eth1"]), ("backup", ["eth2"])], by decide⟩).forSambacc
    { sampleConfig with
      clusterPublicAddrs := [⟨"10.0.0.5/24", ["backup", "lab", "public", "backup"]⟩] } =
    [.dict [("address", .str "10.0.0.5/24"),
      ("interfaces", .list [.str "eth2", .str "eth0", .str "eth1", .str "eth2"])]] := rfl

theorem ctdbStubConfig_public_addresses (c : Config) (m : NetworkMapper) :
    ((ctdbStubConfig c m).get? "ctdb").bind (·.get? "public_addresses") =
      some (.list (m.forSambacc c)) := by
  unfold ctdbStubConfig
  split_ifs <;> rfl

theorem SMB.writeCtdbStubConfig_of_cfg {self : SMB} {s s' : SMBState} {c : Config}
    {es : List Effect} (hc : self.cfg s = ⟨.ok c, s', es⟩) (path : String) :
    self.writeCtdbStubConfig path s =
      ⟨.ok (), s', es ++ [.writeJson path (ctdbStubConfig c s'.networkMapper)]⟩ := by
  simp [SMB.writeCtdbStubConfig, hc]

/-- `for_sambacc` on any inventory and any config lists, per configured address, its
    address and the devices of its destinations present in the inventory, in order;
    and `_write_ctdb_stub_config`, after `_cfg` yields `c`, writes `ctdb.json` with
    that list for `c` and the mapper's inventory at that moment as
    `ctdb.public_addresses`. -/
theorem forSambacc_public_addresses {self : SMB} {s s' : SMBState} {c : Config}
    {es : List Effect} (hc : self.cfg s = ⟨.ok c, s', es⟩) (path : String)
    (N : PyDict (List String)) (cfg : Config) :
    (NetworkMapper.mk N).forSambacc cfg = cfg.clusterPublicAddrs.map (specPublicAddress N) ∧
    self.writeCtdbStubConfig path s =
      ⟨.ok (), s', es ++ [.writeJson path (ctdbStubConfig c s'.networkMapper)]⟩ ∧
    ((ctdbStubConfig c s'.networkMapper).get? "ctdb").bind (·.get? "public_addresses") =
      some (.list (c.clusterPublicAddrs.map (specPublicAddress s'.networkMapper.networks))) :=
  ⟨forSambacc_eq_map _ cfg, SMB.writeCtdbStubConfig_of_cfg hc path,
    by rw [ctdbStubConfig_public_addresses, forSambacc_eq_map]⟩

theorem forSambacc_public_addresses_sample :
    sampleSMB.cfg SMBState.init =
        ⟨.ok sampleConfig, (sampleSMB.validate SMBState.init).state,
          (sampleSMB.validate SMBState.init).effects⟩ ∧
      (NetworkMapper.mk (sampleHost.listNetworks 0)).forSambacc sampleConfig =
        sampleConfig.clusterPublicAddrs.map (specPublicAddress (sampleHost.listNetworks 0)) ∧
      sampleSMB.writeCtdbStubConfig "/var/lib/ceph/fsid/smb.tank/etc-samba-container/ctdb.json"
          SMBState.init =
        ⟨.ok (), (sampleSMB.validate SMBState.init).state,
          (sampleSMB.validate SMBState.init).effects ++
            [.writeJson "/var/lib/ceph/fsid/smb.tank/etc-samba-container/ctdb.json"
              (ctdbStubConfig sampleConfig (sampleSMB.validate SMBState.init).state.networkMapper)]⟩ ∧
      ((ctdbStubConfig sampleConfig (sampleSMB.validate SMBState.init).state.networkMapper).get?
          "ctdb").bind (·.get? "public_addresses") =
        some (.list (sampleConfig.clusterPublicAddrs.map
          (specPublicAddress (sampleSMB.validate SMBState.init).state.networkMapper.networks))) :=
  have hc : sampleSMB.cfg SMBState.init =
      ⟨.ok sampleConfig, (sampleSMB.validate SMBState.init).state,
        (sampleSMB.validate SMBState.init).effects⟩ := SMB.cfg_of_validate rfl rfl
  ⟨hc, forSambacc_public_addresses hc "/var/lib/ceph/fsid/smb.tank/etc-samba-container/ctdb.json"
    (sampleHost.listNetworks 0) sampleConfig⟩

end CephadmSmb
