-- SUMMARY: SMB._layout: which container roles an instance runs and in what order, computed once and cached.
import CephadmSmb.Daemon.Validate

/-!
# Layout

`SMB._layout` returns the cached layout when there is one. Otherwise it builds the
init containers and the sidecars bucket by bucket, reading `self._cfg` afresh for
every role as the code does, stores the layout in `_cached_layout` and returns it.
-/

namespace CephadmSmb

namespace SMB

variable (self : SMB)

/-- `SMB._layout()`. The code reads `self._cfg` once per role; every read after the
    first returns the same `Config` and leaves the instance as it is (`cfg_of_some`), so
    the model reads it once. -/
def layout : SMBM ContainerLayout := do
  if let some l := (← SMBM.get).cachedLayout then return l
  let cfg ← self.cfg
  let mut initCtrs : List Container := []
  let mut ctrs : List Container := []
  initCtrs := initCtrs ++ [⟨.configInit, cfg, ""⟩]
  ctrs := ctrs ++ [⟨.configWatch, cfg, ""⟩]
  if cfg.domainMember then
    initCtrs := initCtrs ++ [⟨.mustJoin, cfg, ""⟩]
    ctrs := ctrs ++ [⟨.winbind, cfg, ""⟩]
  let metricsImage := Py.strip cfg.metricsImage
  let metricsPort := cfg.metricsPort
  if metricsImage ≠ "" ∧ metricsPort > 0 then
    ctrs := ctrs ++ [⟨.smbMetrics, cfg, metricsImage⟩]
  if cfg.clustered then
    initCtrs := initCtrs ++ [⟨.ctdbMigrateInit, cfg, ""⟩, ⟨.ctdbMustHaveNodeInit, cfg, ""⟩]
    ctrs := ctrs ++ [⟨.ctdbDaemon, cfg, ""⟩, ⟨.ctdbNodeMonitor, cfg, ""⟩]
  let smbd : Container := ⟨.smbd, cfg, ""⟩
  let l : ContainerLayout := ⟨initCtrs, smbd, ctrs⟩
  SMBM.modify fun s => { s with cachedLayout := some l }
  return l

variable {self} {s : SMBState}

theorem layout_of_cached {l : ContainerLayout} (h : s.cachedLayout = some l) :
    self.layout s = ⟨.ok l, s, []⟩ := by
  unfold layout
  rw [SMBM.get_bind_apply, h]
  rfl

end SMB

end CephadmSmb
