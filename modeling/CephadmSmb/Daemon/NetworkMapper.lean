-- SUMMARY: _NetworkMapper: resolving the destination networks of cluster public IPs to local devices, and the public_addresses records for sambacc.
import CephadmSmb.Daemon.Config

/-!
# Network mapper

`_NetworkMapper` holds the host's network inventory (network name to device names)
that `load()` fetches, and rewrites each `ClusterPublicIP` from destination networks
to the devices of those networks. `load()` itself asks the host and is modelled with
the instance's other effects in `CephadmSmb.Daemon.Instance`.

`list_networks` returns, per network, a dict from device name to addresses; `_convert`
iterates that dict, that is its keys in order. The inventory here keeps just those
keys, as a list per network.
-/

namespace CephadmSmb

/-- `_NetworkMapper`: the `_networks` dict, from network name to its device names. -/
structure NetworkMapper where
  networks : PyDict (List String)
  deriving DecidableEq

/-- The loop of `_NetworkMapper._convert` over the destinations: a destination that is
    not a network of this host is skipped (with a warning), otherwise each of its
    devices is appended to `devs`. -/
def NetworkMapper.devicesOf (m : NetworkMapper) (destinations : List String) : List String :=
  destinations.foldl
    (fun devs net =>
      match m.networks.get? net with
      | none => devs
      | some ds => ds.foldl (fun devs dev => devs ++ [dev]) devs)
    []

/-- `_NetworkMapper._convert(addr)`. -/
def NetworkMapper.convert (m : NetworkMapper) (addr : ClusterPublicIP) : ClusterPublicIP :=
  ⟨addr.address, m.devicesOf addr.destinations⟩

/-- The dict `for_sambacc` makes of one converted address. -/
def publicAddressRecord (a : ClusterPublicIP) : JsonValue :=
  .dict [("address", .str a.address), ("interfaces", .list (a.destinations.map .str))]

/-- `_NetworkMapper.for_sambacc(cfg)`. -/
def NetworkMapper.forSambacc (m : NetworkMapper) (cfg : Config) : List JsonValue :=
  if cfg.clusterPublicAddrs.isEmpty then []
  else (cfg.clusterPublicAddrs.map m.convert).map publicAddressRecord

-- ---------------------------------------------------------------------------
-- The device loop
-- ---------------------------------------------------------------------------

private theorem foldl_append_singleton (ds acc : List String) :
    ds.foldl (fun devs dev => devs ++ [dev]) acc = acc ++ ds := by
  induction ds generalizing acc with
  | nil => simp
  | cons d ds ih => simp [ih]

private theorem devicesOf_foldl (m : NetworkMapper) (destinations acc : List String) :
    destinations.foldl
        (fun devs net =>
          match m.networks.get? net with
          | none => devs
          | some ds => ds.foldl (fun devs dev => devs ++ [dev]) devs) acc =
      acc ++ destinations.flatMap fun net => (m.networks.get? net).getD [] := by
  induction destinations generalizing acc with
  | nil => simp
  | cons net rest ih =>
    rw [List.foldl_cons, ih]
    cases h : m.networks.get? net <;> simp [h, foldl_append_singleton]

/-- The devices of an address are those of each destination in order, repetitions
    kept; a destination that is not in the inventory contributes nothing. -/
theorem NetworkMapper.devicesOf_eq (m : NetworkMapper) (destinations : List String) :
    m.devicesOf destinations = destinations.flatMap fun net => (m.networks.get? net).getD [] := by
  simp [devicesOf, devicesOf_foldl]

end CephadmSmb
