-- SUMMARY: The SMB form's framework-facing methods: volume mounts, init and sidecar container specs, the primary container and its customization hooks, and the endpoint hook.
import CephadmSmb.Daemon.Layout
import CephadmSmb.Python.Path

/-!
# Composer

What the orchestration framework calls on an `SMB` instance: `init_containers`,
`sidecar_containers`, `container`, and the `customize_*` hooks. Each turns a role of
the layout into the framework's container record; those records, the context and the
endpoint type belong to other `cephadmlib` modules and appear here with the fields
these methods fill.
-/

namespace CephadmSmb

/-- The `Namespace` members the sidecars share with the primary container. -/
inductive Namespace
  | ipc
  | network
  | pid
  | uts
  deriving DecidableEq, Repr

/-- The container engine of the context. `Podman.update_mounts` lives in
    `container_engines.py`; the mounts it adds are taken as given. -/
inductive ContainerEngine
  | docker
  | podman (extraMounts : List (String × String))
  deriving DecidableEq, Repr

/-- `ctx.container_engine.update_mounts(ctx, mounts)` when the engine is Podman.
    `container_engines.py` is not in this tree: the call is taken as a `dict.update`
    with the engine's own mounts. -/
def ContainerEngine.updateMounts (e : ContainerEngine) (mounts : PyDict String) : PyDict String :=
  match e with
  | .docker => mounts
  | .podman extra => mounts.update extra

/-- The fields of `CephadmContext` these methods read. -/
structure CephadmContext where
  /-- `self.identity.data_dir(ctx.data_dir)`, the instance's data directory
      (`DaemonIdentity` is not in this tree: the text is taken as given) -/
  daemonDataDir : String
  /-- `ctx.image`, empty when unset -/
  image : String
  /-- `ctx.container_engine` -/
  engine : ContainerEngine
  deriving DecidableEq, Repr

/-- `EndPoint(ip, port)` of `net_utils`. -/
structure EndPoint where
  ip : String
  port : Int
  deriving DecidableEq, Repr

/-- The `InitContainer(...)` arguments `_to_init_container` passes. -/
structure InitContainer where
  entrypoint : String
  image : String
  identity : DaemonSubIdentity
  args : List String
  containerArgs : List String
  envs : List String
  volumeMounts : PyDict String
  deriving DecidableEq

/-- The `SidecarContainer(...)` arguments `_to_sidecar_container` passes. The code
    first hands `container_args` to `enable_shared_namespaces` (in `container_types`)
    with the primary's container name and the namespaces to share; those two inputs
    are kept as fields. -/
structure SidecarContainer where
  entrypoint : String
  image : String
  identity : DaemonSubIdentity
  containerArgs : List String
  sharedWith : String
  sharedNamespaces : List Namespace
  args : List String
  envs : List String
  volumeMounts : PyDict String
  init : Bool
  remove : Bool
  deriving DecidableEq

/-- The fields of the primary container `SMB.container` returns. `daemon_to_container`
    and `deployment_utils.to_deployment_container`, which build the record, are not in
    this tree: it holds what they are given, the image and what the customization hooks
    return (spec §4.5, §6), and the two settings the code makes itself. -/
structure PrimaryContainer where
  image : String
  hostNetwork : Bool
  ipc : String
  containerArgs : List String
  args : List String
  envs : List String
  volumeMounts : PyDict String
  deriving DecidableEq

/-- The block `customize_container_endpoints` runs for each of its ports:
    `if not any(ep.port == port for ep in endpoints): endpoints.append(EndPoint('0.0.0.0', port))`. -/
def appendEndpointIfMissing (endpoints : List EndPoint) (port : Int) : List EndPoint :=
  if !endpoints.any (·.port == port) then endpoints ++ [⟨"0.0.0.0", port⟩] else endpoints

namespace SMB

variable (self : SMB)

/-- `SMB.customize_container_mounts(ctx, mounts)`: the code assigns into the caller's
    dict; the model returns it. Each host path is `str(data_dir / name)` of the
    `pathlib.Path` of the data directory. -/
def customizeContainerMounts (ctx : CephadmContext) (mounts : PyDict String) :
    SMBM (PyDict String) := do
  self.validate
  let dataDir := Py.PurePath.ofString ctx.daemonDataDir
  let etcSambaCtr := toString (dataDir / "etc-samba-container")
  let libSamba := toString (dataDir / "lib-samba")
  let runSamba := toString (dataDir / "run")
  let config := toString (dataDir / "config")
  let keyring := toString (dataDir / "keyring")
  let mounts := mounts.insert etcSambaCtr "/etc/samba/container:z"
  let mounts := mounts.insert libSamba "/var/lib/samba:z"
  let mounts := mounts.insert runSamba "/run:z"
  let mounts := mounts.insert config "/etc/ceph/ceph.conf:z"
  let mounts := mounts.insert keyring "/etc/ceph/keyring:z"
  if (← self.cfg).clustered then
    let ctdbPersistent := toString (dataDir / "ctdb/persistent")
    let ctdbRun := toString (dataDir / "ctdb/run")
    let ctdbVolatile := toString (dataDir / "ctdb/volatile")
    let ctdbEtc := toString (dataDir / "ctdb/etc")
    let mounts := mounts.insert ctdbPersistent "/var/lib/ctdb/persistent:z"
    let mounts := mounts.insert ctdbRun "/var/run/ctdb:z"
    let mounts := mounts.insert ctdbVolatile "/var/lib/ctdb/volatile:z"
    let mounts := mounts.insert ctdbEtc "/etc/ctdb:z"
    let ctdbSmbConf := toString (dataDir / "ctdb/smb.conf")
    pure (mounts.insert ctdbSmbConf "/etc/samba/smb.conf:z")
  else pure mounts

/-- `SMB._to_init_container(ctx, smb_ctr)`. -/
def toInitContainer (ctx : CephadmContext) (smbCtr : Container) : SMBM InitContainer := do
  let containerArgs := smbCtr.containerArgs
  let volumeMounts ← self.customizeContainerMounts ctx PyDict.empty
  let volumeMounts := ctx.engine.updateMounts volumeMounts
  let identity := DaemonSubIdentity.fromParent self.identity smbCtr.name
  pure { entrypoint := ""
         image := if ctx.image ≠ "" then ctx.image else self.defaultImage
         identity
         args := smbCtr.args
         containerArgs
         envs := smbCtr.envsList
         volumeMounts }

/-- `SMB._to_sidecar_container(ctx, smb_ctr)`. -/
def toSidecarContainer (ctx : CephadmContext) (smbCtr : Container) :
    SMBM SidecarContainer := do
  let containerArgs := smbCtr.containerArgs
  let volumeMounts ← self.customizeContainerMounts ctx PyDict.empty
  let (volumeMounts, sharedNs) := match ctx.engine with
    | .podman _ => (ctx.engine.updateMounts volumeMounts, [Namespace.ipc, .network, .pid, .uts])
    | .docker => (volumeMounts, [Namespace.ipc, .network, .pid])
  let identity := DaemonSubIdentity.fromParent self.identity smbCtr.name
  let img := if smbCtr.containerImage ≠ "" then smbCtr.containerImage
    else if ctx.image ≠ "" then ctx.image else self.defaultImage
  pure { entrypoint := ""
         image := img
         identity
         containerArgs
         sharedWith := self.identity.containerName
         sharedNamespaces := sharedNs
         args := smbCtr.args
         envs := smbCtr.envsList
         volumeMounts
         init := false
         remove := true }

/-- `SMB.init_containers(ctx)`. -/
def initContainers (ctx : CephadmContext) : SMBM (List InitContainer) := do
  (← self.layout).initContainers.mapM (self.toInitContainer ctx)

/-- `SMB.sidecar_containers(ctx)`. -/
def sidecarContainers (ctx : CephadmContext) : SMBM (List SidecarContainer) := do
  (← self.layout).supplemental.mapM (self.toSidecarContainer ctx)

/-- `SMB.customize_container_envs(ctx, envs)`: the primary's environment is appended. -/
def customizeContainerEnvs (envs : List String) : SMBM (List String) := do
  let clayout ← self.layout
  pure (envs ++ clayout.primary.envsList)

/-- `SMB.customize_process_args(ctx, args)`. -/
def customizeProcessArgs (args : List String) : SMBM (List String) := do
  let clayout ← self.layout
  pure (args ++ clayout.primary.args)

/-- `SMB.customize_container_args(ctx, args)`. -/
def customizeContainerArgs (args : List String) : SMBM (List String) := do
  pure (args ++ (← self.layout).primary.containerArgs)

/-- `SMB.container(ctx)`. `host_network=self._cfg.clustered` and `ctr.ipc = 'shareable'`
    are the code's. `daemon_to_container` and `to_deployment_container` are not in this
    tree: the model gives the record the context's image or the default one and what
    the customization hooks return, called in the order below; on a validated instance
    none of them changes the instance or touches the host, so the order is immaterial. -/
def container (ctx : CephadmContext) : SMBM PrimaryContainer := do
  let hostNetwork := (← self.cfg).clustered
  let containerArgs ← self.customizeContainerArgs []
  let volumeMounts ← self.customizeContainerMounts ctx PyDict.empty
  let envs ← self.customizeContainerEnvs []
  let args ← self.customizeProcessArgs []
  pure { image := if ctx.image ≠ "" then ctx.image else self.defaultImage
         hostNetwork, ipc := "shareable", containerArgs, args, envs, volumeMounts }

/-- `SMB.customize_container_endpoints(endpoints, deployment_type)`: the SMB port, and
    the metrics port when positive, each appended unless an endpoint already has it.
    The deployment type is not read. -/
def customizeContainerEndpoints (endpoints : List EndPoint) : List EndPoint :=
  let endpoints := appendEndpointIfMissing endpoints self.smbPort
  if self.metricsPort > 0 then appendEndpointIfMissing endpoints self.metricsPort else endpoints

end SMB

end CephadmSmb
