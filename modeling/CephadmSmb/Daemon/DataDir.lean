-- SUMMARY: SMB.prepare_data_dir and the two stub files a clustered instance writes: the ctdb.json cluster descriptor and the smb.conf stub.
import CephadmSmb.Daemon.Validate
import CephadmSmb.Python.Path

/-!
# Data directory

`SMB.prepare_data_dir` creates the instance's directories, writes the configured
files, and, when clustered, the CTDB directories and two generated files: the
`ctdb.json` descriptor for sambacc, whose `public_addresses` come from the network
mapper, and a two-line `smb.conf` stub.
-/

namespace CephadmSmb

/-- `_SCC`: the sambacc command inside the containers. -/
def scc : String := "/usr/bin/samba-container"

/-- `_NODES_SUBCMD`. -/
def nodesSubcmd : List String := [scc, "ctdb-list-nodes"]

/-- `_MUTEX_SUBCMD`. -/
def mutexSubcmd : List String := [scc, "ctdb-rados-mutex"]

/-- The document `_write_ctdb_stub_config` builds for a config, with the mapper's
    inventory at the time of the call. -/
def ctdbStubConfig (cfg : Config) (m : NetworkMapper) : JsonValue :=
  let reclockCmd := " ".intercalate (mutexSubcmd ++ [cfg.clusterLockUri])
  let nodesCmd := " ".intercalate nodesSubcmd
  let ctdb : List (String × JsonValue) :=
    [("recovery_lock", .str ("!" ++ reclockCmd)),
     ("cluster_meta_uri", .str cfg.clusterMetaUri),
     ("nodes_cmd", .str nodesCmd),
     ("public_addresses", .list (m.forSambacc cfg))]
  let ctdb := if cfg.ctdbLogLevel ≠ "" then ctdb ++ [("log_level", .str cfg.ctdbLogLevel)]
    else ctdb
  .dict [("samba-container-config", .str "v0"), ("ctdb", .dict ctdb)]

/-- The lines of the `smb.conf` stub. -/
def smbConfStubLines : List String := ["[global]", "config backend = registry"]

namespace SMB

variable (self : SMB)

/-- `SMB._write_ctdb_stub_config(path)`, with `path` the text of the caller's
    `pathlib.Path`. The code reads `self._cfg` once per field; after the first read
    each returns the same `Config` (`cfg_of_some`). -/
def writeCtdbStubConfig (path : String) : SMBM Unit := do
  let cfg ← self.cfg
  let m := (← SMBM.get).networkMapper
  SMBM.perform (.writeJson path (ctdbStubConfig cfg m))

/-- `SMB._write_smb_conf_stub(path)`, with `path` the text of the caller's
    `pathlib.Path`. -/
def writeSmbConfStub (path : String) : SMBM Unit :=
  SMBM.perform (.writeText path (String.join (smbConfStubLines.map (· ++ "\n"))))

/-- `SMB.prepare_data_dir(data_dir, uid, gid)`. The directories are joined to
    `pathlib.Path(data_dir)`; the configured files go to `data_dir` as given. -/
def prepareDataDir (dataDir : String) (uid gid : Int) : SMBM Unit := do
  self.validate
  let ddir := Py.PurePath.ofString dataDir
  let etcSambaCtr := ddir / "etc-samba-container"
  SMBM.perform (.makedirs (toString etcSambaCtr) uid gid 0o770)
  SMBM.perform (.makedirs (toString (ddir / "lib-samba")) uid gid 0o770)
  SMBM.perform (.makedirs (toString (ddir / "run")) uid gid 0o770)
  let files := (← SMBM.get).files
  (if !files.isEmpty then SMBM.perform (.populateFiles dataDir files uid gid) else pure ())
  if (← self.cfg).clustered then
    SMBM.perform (.makedirs (toString (ddir / "ctdb/persistent")) uid gid 0o770)
    SMBM.perform (.makedirs (toString (ddir / "ctdb/run")) uid gid 0o770)
    SMBM.perform (.makedirs (toString (ddir / "ctdb/volatile")) uid gid 0o770)
    SMBM.perform (.makedirs (toString (ddir / "ctdb/etc")) uid gid 0o770)
    self.writeCtdbStubConfig (toString (etcSambaCtr / "ctdb.json"))
    writeSmbConfStub (toString (ddir / "ctdb/smb.conf"))

end SMB

end CephadmSmb
