-- SUMMARY: The SMB daemon form's data model: features, cluster public IPs, daemon identities, the raw config record and the validated Config.
import CephadmSmb.Python.Text

/-!
# Config

The value types of `smb.py`. `Config` is the frozen dataclass every container role
reads; `RawConfig` is the record `context_getters.fetch_configs` hands to the form,
one optional field per key that `SMB.validate` reads, each at the type the key
carries (a missing key is `none`). Two keys are read with more care by the code and
keep more of their raw shape here: `metrics_port` goes through `int()`, so it may be
an integer or a string, and each entry of `cluster_public_addrs` is a dict whose
`address` and `destinations` keys may be missing (`KeyError` in
`ClusterPublicIP.convert`).

`DaemonIdentity` lives in `cephadmlib/daemon_identity.py`, outside this module's
source; it is taken as the three attributes `smb.py` reads from it.
-/

namespace CephadmSmb

/-- `Features`: the recognised feature tags. -/
inductive Features
  | domain
  | clustered
  deriving DecidableEq, Repr

/-- The enum member's `value`. -/
def Features.value : Features → String
  | .domain => "domain"
  | .clustered => "clustered"

/-- `Features.valid(value)`: whether `Features(value)` names a member. -/
def Features.valid (value : String) : Bool :=
  value = Features.domain.value || value = Features.clustered.value

/-- `ClusterPublicIP`: a floating address and the networks it may be placed on. After
    `_NetworkMapper._convert` the second field holds device names instead. -/
structure ClusterPublicIP where
  address : String
  destinations : List String
  deriving DecidableEq, Repr

/-- One raw `cluster_public_addrs` entry: a dict whose two keys may be missing. -/
structure RawClusterPublicIP where
  address : Option String
  destinations : Option (List String)
  deriving DecidableEq, Repr

/-- `ClusterPublicIP.convert(item)`: `item['address']`, `item['destinations']`. -/
def ClusterPublicIP.convert (item : RawClusterPublicIP) : Except PyExc ClusterPublicIP :=
  match item.address, item.destinations with
  | none, _ => .error (.keyError "address")
  | some _, none => .error (.keyError "destinations")
  | some address, some destinations => .ok ⟨address, destinations⟩

/-- The attributes of `DaemonIdentity` that `smb.py` reads. -/
structure DaemonIdentity where
  daemonType : String
  daemonName : String
  containerName : String
  deriving DecidableEq, Repr

/-- Modelled from the spec: `DaemonSubIdentity.from_parent(parent, subcomponent)`, the
    identity of one role's container, derived from the parent identity and the role
    name (spec §6: "a derived sub-identity string `{parent}-{role}`"). -/
structure DaemonSubIdentity where
  parent : DaemonIdentity
  subcomponent : String
  deriving DecidableEq, Repr

/-- `DaemonSubIdentity.from_parent`. -/
def DaemonSubIdentity.fromParent (parent : DaemonIdentity) (subcomponent : String) :
    DaemonSubIdentity :=
  ⟨parent, subcomponent⟩

/-- `Config`: the validated, frozen parameters of one SMB instance. -/
structure Config where
  identity : DaemonIdentity
  instanceId : String
  sourceConfig : String
  domainMember : Bool
  clustered : Bool
  sambaDebugLevel : Int := 0
  ctdbLogLevel : String := ""
  debugDelay : Int := 0
  joinSources : List String := []
  userSources : List String := []
  customDns : List String := []
  smbPort : Int := 0
  cephConfigEntity : String := "client.admin"
  vhostname : String := ""
  metricsImage : String := ""
  metricsPort : Int := 0
  rank : Int := -1
  rankGeneration : Int := -1
  clusterMetaUri : String := ""
  clusterLockUri : String := ""
  clusterPublicAddrs : List ClusterPublicIP := []
  deriving DecidableEq, Repr

/-- `Config.config_uris()`: the sources handed to sambacc. -/
def Config.configUris (cfg : Config) : List String :=
  [cfg.sourceConfig] ++ cfg.userSources ++
    (if cfg.clustered then ["/etc/samba/container/ctdb.json"] else [])

/-- A raw `metrics_port` value: `int()` accepts an integer or a string. -/
inductive RawInt
  | int (n : Int)
  | str (s : String)
  deriving DecidableEq, Repr

/-- `int(v)`. -/
def RawInt.toInt : RawInt → Except PyExc Int
  | .int n => .ok n
  | .str s => Py.intOfStr s

/-- The raw config record of one instance: the keys `SMB.validate` reads. -/
structure RawConfig where
  clusterId : Option String := none
  configUri : Option String := none
  joinSources : Option (List String) := none
  userSources : Option (List String) := none
  customDns : Option (List String) := none
  features : Option (List String) := none
  files : Option (PyDict String) := none
  configAuthEntity : Option String := none
  virtualHostname : Option String := none
  metricsImage : Option String := none
  metricsPort : Option RawInt := none
  clusterMetaUri : Option String := none
  clusterLockUri : Option String := none
  clusterPublicAddrs : Option (List RawClusterPublicIP) := none
  deriving DecidableEq

end CephadmSmb
