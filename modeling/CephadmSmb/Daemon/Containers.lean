-- SUMMARY: The container role classes of smb.py: names, environments, process arguments, container arguments and images, and the layout that groups them.
import CephadmSmb.Daemon.Config

/-!
# Container roles

`smb.py` describes each container by a small class: `ContainerCommon` and its
subclasses `SambaContainerCommon` (shared environment and debug arguments),
`SambaNetworkedInitContainer` (DNS and host-network container arguments) and the ten
concrete roles. A role object holds the `Config` and an image. Here the concrete class
is the `Role` tag of a `Container`, and each method is one function that dispatches on
it; a branch that does not mention a role falls back to the method of the nearest
base class, as Python's method resolution does.
-/

namespace CephadmSmb

/-- The concrete container classes `SMB._layout` instantiates. -/
inductive Role
  /-- `ConfigInitContainer` -/
  | configInit
  /-- `MustJoinContainer` (a `SambaNetworkedInitContainer`) -/
  | mustJoin
  /-- `CTDBMigrateInitContainer` -/
  | ctdbMigrateInit
  /-- `CTDBMustHaveNodeInitContainer` -/
  | ctdbMustHaveNodeInit
  /-- `SMBDContainer` -/
  | smbd
  /-- `WinbindContainer` -/
  | winbind
  /-- `ConfigWatchContainer` -/
  | configWatch
  /-- `CTDBDaemonContainer` -/
  | ctdbDaemon
  /-- `CTDBNodeMonitorContainer` -/
  | ctdbNodeMonitor
  /-- `SMBMetricsContainer`, the only role that is not a `SambaContainerCommon` -/
  | smbMetrics
  deriving DecidableEq, Repr

/-- Whether the class derives from `SambaContainerCommon`. -/
def Role.isSamba : Role → Bool
  | .smbMetrics => false
  | _ => true

/-- `name()` of each class. -/
def Role.name : Role → String
  | .configInit => "config"
  | .mustJoin => "mustjoin"
  | .ctdbMigrateInit => "ctdbMigrate"
  | .ctdbMustHaveNodeInit => "ctdbMustHaveNode"
  | .smbd => "smbd"
  | .winbind => "winbindd"
  | .configWatch => "configwatch"
  | .ctdbDaemon => "ctdbd"
  | .ctdbNodeMonitor => "ctdbNodes"
  | .smbMetrics => "smbmetrics"

/-- An instance of one of the classes: `ContainerCommon(cfg, image)`. -/
structure Container where
  role : Role
  cfg : Config
  image : String := ""
  deriving DecidableEq, Repr

/-- `_container_dns_args(cfg)`. -/
def containerDnsArgs (cfg : Config) : List String :=
  cfg.customDns.map ("--dns=" ++ ·) ++
    (if cfg.vhostname ≠ "" then ["--hostname=" ++ cfg.vhostname] else [])

-- ---------------------------------------------------------------------------
-- Environment
-- ---------------------------------------------------------------------------

/-- `SambaContainerCommon.envs()`. The code stores `str(rank)` under
    `RANK_GENERATION`, and `rank_generation` under no key. -/
def sambaEnvs (cfg : Config) : PyDict String :=
  let environ := (PyDict.empty.insert "SAMBA_CONTAINER_ID" cfg.instanceId).insert
    "SAMBACC_CONFIG" (Py.jsonDumps cfg.configUris)
  let environ := environ.insert "SAMBACC_CTDB" "ctdb-is-experimental"
  let environ := if cfg.cephConfigEntity ≠ "" then
      environ.insert "SAMBACC_CEPH_ID" ("name=" ++ cfg.cephConfigEntity)
    else environ
  if cfg.rank ≥ 0 then
    let environ := environ.insert "RANK" (toString cfg.rank)
    let environ := environ.insert "RANK_GENERATION" (toString cfg.rank)
    environ.insert "NODE_NUMBER" ((environ.get? "RANK").getD "")
  else environ

/-- `envs()`: the shared Samba environment, empty for the metrics container. -/
def Container.envs (c : Container) : PyDict String :=
  if c.role.isSamba then sambaEnvs c.cfg else PyDict.empty

/-- `envs_list()`: `KEY=value` per item of `envs()`; `ContainerCommon` returns `[]`. -/
def Container.envsList (c : Container) : List String :=
  if c.role.isSamba then c.envs.items.map fun (k, v) => k ++ "=" ++ v else []

-- ---------------------------------------------------------------------------
-- Process arguments
-- ---------------------------------------------------------------------------

/-- `SambaContainerCommon.args()`: the debug arguments every Samba role starts with. -/
def sambaArgs (cfg : Config) : List String :=
  (if cfg.sambaDebugLevel ≠ 0 then ["--samba-debug-level=" ++ toString cfg.sambaDebugLevel]
    else []) ++
  (if cfg.debugDelay ≠ 0 then ["--debug-delay=" ++ toString cfg.debugDelay] else [])

/-- The arguments each class appends after `super().args()`. -/
def Role.args (cfg : Config) : Role → List String
  | .configInit => ["init"]
  | .mustJoin =>
    (if cfg.clustered then ["--skip-if=env:NODE_NUMBER!=0"] else []) ++ ["must-join"] ++
      cfg.joinSources.map ("-j" ++ ·)
  | .ctdbMigrateInit =>
    ["--skip-if=env:NODE_NUMBER!=0", "ctdb-migrate", "--dest-dir=/var/lib/ctdb/persistent",
      "--archive=/var/lib/samba/.migrated"]
  | .ctdbMustHaveNodeInit =>
    ["ctdb-must-have-node", "--hostname=" ++ cfg.identity.daemonName,
      "--take-node-number-from-env"]
  | .smbd =>
    ["run"] ++
      (if cfg.clustered then
        ["--setup=" ++ (if cfg.domainMember then "nsswitch" else "users"), "--setup=smb_ctdb",
          "--wait-for=ctdb"]
      else []) ++ ["smbd"]
  | .winbind =>
    ["run"] ++ (if cfg.clustered then ["--setup=smb_ctdb", "--wait-for=ctdb"] else []) ++
      ["winbindd"]
  | .configWatch => ["update-config", "--watch"]
  | .ctdbDaemon => ["run", "ctdbd", "--setup=smb_ctdb", "--setup=ctdb_config", "--setup=ctdb_etc"]
  | .ctdbNodeMonitor =>
    ["--debug", "ctdb-monitor-nodes", "--hostname=" ++ cfg.identity.daemonName,
      "--take-node-number-from-env", "--reload=all"]
  | .smbMetrics =>
    if cfg.metricsPort > 0 then ["--port=" ++ toString cfg.metricsPort] else []

/-- `args()`: the Samba roles extend `SambaContainerCommon.args()`; `SMBMetricsContainer`
    overrides `ContainerCommon.args()` alone. -/
def Container.args (c : Container) : List String :=
  if c.role.isSamba then sambaArgs c.cfg ++ c.role.args c.cfg else c.role.args c.cfg

-- ---------------------------------------------------------------------------
-- Container arguments and image
-- ---------------------------------------------------------------------------

/-- `container_args()`. -/
def Container.containerArgs (c : Container) : List String :=
  match c.role with
  | .mustJoin =>
    containerDnsArgs c.cfg ++ (if c.cfg.clustered then ["--network=host"] else [])
  | .smbd =>
    (if c.cfg.smbPort ≠ 0 then
      ["--publish=" ++ toString c.cfg.smbPort ++ ":" ++ toString c.cfg.smbPort] else []) ++
    (if c.cfg.metricsPort ≠ 0 then
      ["--publish=" ++ toString c.cfg.metricsPort ++ ":" ++ toString c.cfg.metricsPort]
      else []) ++
    containerDnsArgs c.cfg
  | .ctdbDaemon => ["--cap-add=NET_ADMIN", "--cap-add=NET_RAW"]
  | _ => []

/-- `container_image()`. -/
def Container.containerImage (c : Container) : String := c.image

/-- `name()`. -/
def Container.name (c : Container) : String := c.role.name

-- ---------------------------------------------------------------------------
-- Layout
-- ---------------------------------------------------------------------------

/-- `ContainerLayout`: the init containers, the primary and the sidecars. -/
structure ContainerLayout where
  initContainers : List Container
  primary : Container
  supplemental : List Container
  deriving DecidableEq, Repr

/-- Every container of a layout, init containers first, then the primary. -/
def ContainerLayout.containers (l : ContainerLayout) : List Container :=
  l.initContainers ++ [l.primary] ++ l.supplemental

end CephadmSmb
