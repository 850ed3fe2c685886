-- SUMMARY: What the composition hooks return on a validated instance: the standard mounts merged into the caller's dict, the primary container from the smbd role, and one init or sidecar container per role of the layout, in order.
import CephadmSmb.Properties.Memoisation

/-!
# Composition

On a validated instance the framework's hooks neither change the instance (beyond
caching the layout) nor touch the host, and they return what the lemmas below state;
the run theorems of `Exceptions` and the properties of the containers are built on
them. `customize_container_mounts` is a `dict.update` of the caller's mounts with the
standard mounts of the daemon's data directory (spec §4.5). `container` builds the
primary from the `smbd` role through the other hooks. `init_containers` and
`sidecar_containers` turn each role of the layout's buckets, in order, into the
framework's record, with the standard mounts under the context's engine and the
sub-identity of the role's name.
-/

namespace CephadmSmb

-- ---------------------------------------------------------------------------
-- Mounts
-- ---------------------------------------------------------------------------

/-- Spec §4.5: the standard volume mounts, each a name under the data directory and the
    container path it is mounted on. Always the Samba container config, Samba state and
    run directories, the Ceph config file and keyring; when clustered also the CTDB
    persistent, run, volatile and etc directories and the generated `smb.conf` stub. -/
def mountNames (clustered : Bool) : List (String × String) :=
  [("etc-samba-container", "/etc/samba/container:z"), ("lib-samba", "/var/lib/samba:z"),
    ("run", "/run:z"), ("config", "/etc/ceph/ceph.conf:z"), ("keyring", "/etc/ceph/keyring:z")] ++
  if clustered then
    [("ctdb/persistent", "/var/lib/ctdb/persistent:z"), ("ctdb/run", "/var/run/ctdb:z"),
      ("ctdb/volatile", "/var/lib/ctdb/volatile:z"), ("ctdb/etc", "/etc/ctdb:z"),
      ("ctdb/smb.conf", "/etc/samba/smb.conf:z")]
  else []

/-- The standard mounts of a data directory, host path to container path: each name is
    joined to the directory's `pathlib.Path`. -/
def standardMounts (dataDir : String) (clustered : Bool) : List (String × String) :=
  (mountNames clustered).map fun m => (toString (Py.PurePath.ofString dataDir / m.1), m.2)

/-- A Podman context for `sampleSMB`, with no image of its own. -/
def sampleContext : CephadmContext :=
  { daemonDataDir := "/var/lib/ceph/fsid/smb.tank", image := "", engine := .podman [] }

namespace SMB

variable {self : SMB} {s : SMBState} {c : Config}

theorem customizeContainerMounts_of_some (hs : s.instanceCfg = some c) (ctx : CephadmContext)
    (mounts : PyDict String) :
    self.customizeContainerMounts ctx mounts s =
      ⟨.ok (mounts.update (standardMounts ctx.daemonDataDir c.clustered)), s, []⟩ := by
  rw [customizeContainerMounts, validate_bind_of_some hs, cfg_bind_of_some hs]
  cases c.clustered <;> rfl

-- ---------------------------------------------------------------------------
-- Init containers and sidecars
-- ---------------------------------------------------------------------------

theorem toInitContainer_of_some (hs : s.instanceCfg = some c) (ctx : CephadmContext)
    (r : Container) :
    self.toInitContainer ctx r s =
      ⟨.ok { entrypoint := ""
             image := if ctx.image ≠ "" then ctx.image else self.defaultImage
             identity := .fromParent self.identity r.name
             args := r.args
             containerArgs := r.containerArgs
             envs := r.envsList
             volumeMounts :=
               ctx.engine.updateMounts
                 (PyDict.empty.update (standardMounts ctx.daemonDataDir c.clustered)) },
        s, []⟩ := by
  rw [toInitContainer, SMBM.bind_apply_of_ok (customizeContainerMounts_of_some hs ctx _)]
  rfl

theorem toSidecarContainer_of_some (hs : s.instanceCfg = some c) (ctx : CephadmContext)
    (r : Container) :
    self.toSidecarContainer ctx r s =
      ⟨.ok { entrypoint := ""
             image := if r.containerImage ≠ "" then r.containerImage
               else if ctx.image ≠ "" then ctx.image else self.defaultImage
             identity := .fromParent self.identity r.name
             containerArgs := r.containerArgs
             sharedWith := self.identity.containerName
             sharedNamespaces :=
               [.ipc, .network, .pid] ++ if ctx.engine = .docker then [] else [.uts]
             args := r.args
             envs := r.envsList
             volumeMounts :=
               ctx.engine.updateMounts
                 (PyDict.empty.update (standardMounts ctx.daemonDataDir c.clustered))
             init := false
             remove := true },
        s, []⟩ := by
  rw [toSidecarContainer, SMBM.bind_apply_of_ok (customizeContainerMounts_of_some hs ctx _)]
  obtain ⟨dir, image, engine⟩ := ctx
  cases engine <;> rfl

/-- Of the sidecars, only the metrics one carries an image, the stripped metrics image,
    which is then not empty. -/
theorem specLayout_supplemental_image {r : Container} (hr : r ∈ (specLayout c).supplemental) :
    r.image = (if r.role = .smbMetrics then Py.strip c.metricsImage else "") ∧
      (r.role = .smbMetrics → Py.strip c.metricsImage ≠ "") := by
  simp only [specLayout, Config.metricsEnabled, List.mem_append, List.mem_ite_nil_right,
    List.mem_cons, List.mem_singleton, List.not_mem_nil, or_false] at hr
  rcases hr with ((rfl | ⟨-, rfl⟩) | ⟨⟨hm, -⟩, rfl⟩) | ⟨-, rfl | rfl⟩ <;> simp [*]

/-- On a validated instance `init_containers` returns one init container per init role
    of the layout, in order. -/
theorem initContainers_of_settled (hs : Settled c s) (ctx : CephadmContext) :
    self.initContainers ctx s =
      ⟨.ok ((specLayout c).initContainers.map fun r =>
          { entrypoint := ""
            image := if ctx.image ≠ "" then ctx.image else self.defaultImage
            identity := .fromParent self.identity r.name
            args := r.args
            containerArgs := r.containerArgs
            envs := r.envsList
            volumeMounts :=
              ctx.engine.updateMounts
                (PyDict.empty.update (standardMounts ctx.daemonDataDir c.clustered)) }),
        { s with cachedLayout := some (specLayout c) }, []⟩ := by
  rw [initContainers, SMBM.bind_apply_of_ok (layout_of_settled hs)]
  exact SMBM.mapM_apply_of_pure fun r _ =>
    toInitContainer_of_some (s := { s with cachedLayout := some (specLayout c) }) hs.1 ctx r

/-- On a validated instance `sidecar_containers` returns one sidecar per supplemental
    role of the layout, in order; only the metrics sidecar has an image of its own. -/
theorem sidecarContainers_of_settled (hs : Settled c s) (ctx : CephadmContext) :
    self.sidecarContainers ctx s =
      ⟨.ok ((specLayout c).supplemental.map fun r =>
          { entrypoint := ""
            image := if r.role = .smbMetrics then Py.strip c.metricsImage
              else if ctx.image ≠ "" then ctx.image else self.defaultImage
            identity := .fromParent self.identity r.name
            containerArgs := r.containerArgs
            sharedWith := self.identity.containerName
            sharedNamespaces := [.ipc, .network, .pid] ++ if ctx.engine = .docker then [] else [.uts]
            args := r.args
            envs := r.envsList
            volumeMounts :=
              ctx.engine.updateMounts
                (PyDict.empty.update (standardMounts ctx.daemonDataDir c.clustered))
            init := false
            remove := true }),
        { s with cachedLayout := some (specLayout c) }, []⟩ := by
  rw [sidecarContainers, SMBM.bind_apply_of_ok (layout_of_settled hs)]
  refine SMBM.mapM_apply_of_pure fun r hr => ?_
  obtain ⟨himg, hne⟩ := specLayout_supplemental_image hr
  rw [toSidecarContainer_of_some (s := { s with cachedLayout := some (specLayout c) }) hs.1,
    Container.containerImage, himg]
  by_cases hm : r.role = .smbMetrics
  · simp [hm, hne hm]
  · simp [hm]

/-- On a validated instance `container` builds the primary from the hooks: the `smbd`
    role's container arguments, arguments and environment and the standard mounts, on
    the host network exactly when clustered, with a shareable IPC namespace. -/
theorem container_of_settled (hs : Settled c s) (ctx : CephadmContext) :
    self.container ctx s =
      ⟨.ok { image := if ctx.image ≠ "" then ctx.image else self.defaultImage
             hostNetwork := c.clustered
             ipc := "shareable"
             containerArgs := (specLayout c).primary.containerArgs
             args := (specLayout c).primary.args
             envs := (specLayout c).primary.envsList
             volumeMounts := PyDict.empty.update (standardMounts ctx.daemonDataDir c.clustered) },
        { s with cachedLayout := some (specLayout c) }, []⟩ := by
  have hs1 : Settled c { s with cachedLayout := some (specLayout c) } := ⟨hs.1, .inr rfl⟩
  have hargs : self.customizeContainerArgs [] s =
      ⟨.ok (specLayout c).primary.containerArgs, { s with cachedLayout := some (specLayout c) }, []⟩ := by
    rw [customizeContainerArgs, SMBM.bind_apply_of_ok (layout_of_settled hs)]
    rfl
  have henvs : self.customizeContainerEnvs [] { s with cachedLayout := some (specLayout c) } =
      ⟨.ok (specLayout c).primary.envsList, { s with cachedLayout := some (specLayout c) }, []⟩ := by
    rw [customizeContainerEnvs, SMBM.bind_apply_of_ok (layout_of_settled hs1)]
    rfl
  have hpargs : self.customizeProcessArgs [] { s with cachedLayout := some (specLayout c) } =
      ⟨.ok (specLayout c).primary.args, { s with cachedLayout := some (specLayout c) }, []⟩ := by
    rw [customizeProcessArgs, SMBM.bind_apply_of_ok (layout_of_settled hs1)]
    rfl
  rw [container, cfg_bind_of_some hs.1, SMBM.bind_apply_of_ok hargs,
    SMBM.bind_apply_of_ok (customizeContainerMounts_of_some hs1.1 ctx _), SMBM.bind_apply_of_ok henvs,
    SMBM.bind_apply_of_ok hpargs]
  rfl

end SMB

end CephadmSmb
