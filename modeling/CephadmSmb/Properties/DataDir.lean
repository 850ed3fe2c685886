-- SUMMARY: The data directory against the mounts: whatever the directory, every standard mount keeps its own host path, prepare_data_dir creates or writes every mounted path but the Ceph config and keyring, and the descriptor sambacc is pointed at is the file it writes.
import CephadmSmb.Properties.Composer

/-!
# The data directory and the mounts

`prepare_data_dir` and `customize_container_mounts` both join names to the
`pathlib.Path` of the daemon's data directory: the first to create directories and
write the generated files there, the second to mount them into the containers. For the
same directory, whatever its text:

* the names join to pairwise distinct host paths, so each standard mount is kept with
  its own target (`standardMounts_keys_nodup`);
* every host path mounted, but the Ceph config file and keyring that cephadm writes
  elsewhere, is a directory `prepare_data_dir` creates or the `smb.conf` stub it writes;
* when clustered, the descriptor `config_uris` hands sambacc,
  `/etc/samba/container/ctdb.json`, is in the directory mounted at
  `/etc/samba/container`, where `prepare_data_dir` writes it.

The join is what takes proof: the text of `data_dir / name` reads back as that path
(`Py.PurePath.ofString_str`), and two names with different parts give different paths.
-/

namespace CephadmSmb

-- ---------------------------------------------------------------------------
-- Host paths
-- ---------------------------------------------------------------------------

/-- The names of the standard mounts are relative and have pairwise different parts. -/
private theorem mountNames_parts (clustered : Bool) :
    ((mountNames clustered).map fun m => Py.PurePath.partsOf m.1.data).Nodup ∧
      ∀ m ∈ mountNames clustered, Py.PurePath.rootOf m.1.data = "" := by
  cases clustered <;> decide

/-- Whatever the data directory, the standard mounts' host paths are pairwise distinct. -/
theorem standardMounts_keys_nodup (dataDir : String) (clustered : Bool) :
    ((standardMounts dataDir clustered).map Prod.fst).Nodup := by
  obtain ⟨hparts, hrel⟩ := mountNames_parts clustered
  rw [standardMounts, List.map_map]
  refine (List.Nodup.of_map _ hparts).map_on fun x hx y hy hxy => ?_
  simp only [Function.comp_apply, Py.PurePath.toString_eq] at hxy
  exact List.inj_on_of_nodup_map hparts hx hy
    (Py.PurePath.partsOf_eq_of_str_hDiv_eq (hrel x hx) (hrel y hy) hxy)

-- ---------------------------------------------------------------------------
-- prepare_data_dir
-- ---------------------------------------------------------------------------

/-- On a validated instance `prepare_data_dir` leaves the instance as it is and does this,
    in order. -/
theorem prepareDataDir_of_some {self : SMB} {s : SMBState} {c : Config}
    (hs : s.instanceCfg = some c) (dataDir : String) (uid gid : Int) :
    self.prepareDataDir dataDir uid gid s =
      ⟨.ok (), s,
        [.makedirs (toString (Py.PurePath.ofString dataDir / "etc-samba-container")) uid gid 0o770,
          .makedirs (toString (Py.PurePath.ofString dataDir / "lib-samba")) uid gid 0o770,
          .makedirs (toString (Py.PurePath.ofString dataDir / "run")) uid gid 0o770] ++
        (if s.files.isEmpty then [] else [.populateFiles dataDir s.files uid gid]) ++
        (if c.clustered then
          [.makedirs (toString (Py.PurePath.ofString dataDir / "ctdb/persistent")) uid gid 0o770,
            .makedirs (toString (Py.PurePath.ofString dataDir / "ctdb/run")) uid gid 0o770,
            .makedirs (toString (Py.PurePath.ofString dataDir / "ctdb/volatile")) uid gid 0o770,
            .makedirs (toString (Py.PurePath.ofString dataDir / "ctdb/etc")) uid gid 0o770,
            .writeJson
              (toString (Py.PurePath.ofString dataDir / "etc-samba-container" / "ctdb.json"))
              (ctdbStubConfig c s.networkMapper),
            .writeText (toString (Py.PurePath.ofString dataDir / "ctdb/smb.conf"))
              "[global]\nconfig backend = registry\n"]
        else [])⟩ := by
  have hstub : String.join (smbConfStubLines.map (· ++ "\n")) =
      "[global]\nconfig backend = registry\n" := by decide
  have hw (p : String) : self.writeCtdbStubConfig p s =
      ⟨.ok (), s, [.writeJson p (ctdbStubConfig c s.networkMapper)]⟩ := by
    simp [SMB.writeCtdbStubConfig, SMB.cfg_of_some hs]
  simp only [SMB.prepareDataDir, SMB.validate_bind_of_some hs, SMBM.perform_bind_apply,
    SMBM.get_bind_apply]
  cases hf : s.files.isEmpty <;> cases hc : c.clustered <;>
    simp only [Bool.not_false, Bool.not_true, Bool.false_eq_true, ↓reduceIte,
      SMBM.perform_bind_apply, SMBM.pure_bind_apply, SMB.cfg_bind_of_some hs, hc,
      SMBM.bind_apply_of_eq (hw _), SMB.writeSmbConfStub, hstub, SMBM.perform_apply,
      SMBM.pure_apply, List.append_nil, List.cons_append, List.nil_append, List.singleton_append]

-- ---------------------------------------------------------------------------
-- The mounts are prepared
-- ---------------------------------------------------------------------------

/-- On a validated instance, for the data directory of the context: each standard mount
    is mounted on its own target, whatever the directory's text; every host path mounted,
    but the Ceph config file and keyring, is a directory `prepare_data_dir` creates with
    mode `0770` and the given owner, or the `smb.conf` stub it writes; and when clustered,
    the descriptor `/etc/samba/container/ctdb.json` that `config_uris` names is written to
    `ctdb.json` in the host directory mounted at `/etc/samba/container`. -/
theorem prepareDataDir_prepares_mounts {self : SMB} {s : SMBState} {c : Config}
    (hs : s.instanceCfg = some c) (ctx : CephadmContext) (uid gid : Int) :
    ∃ M, (self.customizeContainerMounts ctx PyDict.empty s).result = .ok M ∧
      (∀ m ∈ mountNames c.clustered,
        M.get? (toString (Py.PurePath.ofString ctx.daemonDataDir / m.1)) = some m.2) ∧
      (∀ h t, M.get? h = some t → t ≠ "/etc/ceph/ceph.conf:z" → t ≠ "/etc/ceph/keyring:z" →
        .makedirs h uid gid 0o770 ∈ (self.prepareDataDir ctx.daemonDataDir uid gid s).effects ∨
          .writeText h "[global]\nconfig backend = registry\n" ∈
            (self.prepareDataDir ctx.daemonDataDir uid gid s).effects) ∧
      (c.clustered → "/etc/samba/container/ctdb.json" ∈ c.configUris ∧
        ∃ h, M.get? h = some "/etc/samba/container:z" ∧
          .writeJson (toString (Py.PurePath.ofString h / "ctdb.json"))
              (ctdbStubConfig c s.networkMapper) ∈
            (self.prepareDataDir ctx.daemonDataDir uid gid s).effects) := by
  have hM : (PyDict.empty.update (standardMounts ctx.daemonDataDir c.clustered)).items =
      standardMounts ctx.daemonDataDir c.clustered :=
    PyDict.empty.items_update
      (by simpa using standardMounts_keys_nodup ctx.daemonDataDir c.clustered)
  refine ⟨_, by rw [SMB.customizeContainerMounts_of_some hs], fun m hm => ?_,
    fun h t ht hconf hkey => ?_, fun hcl => ⟨by simp [Config.configUris, hcl], ?_⟩⟩
  · rw [PyDict.get?_eq_some_iff, hM, standardMounts]
    exact List.mem_map.2 ⟨m, hm, rfl⟩
  · rw [PyDict.get?_eq_some_iff, hM, standardMounts, List.mem_map] at ht
    obtain ⟨⟨n, t⟩, hm, he⟩ := ht
    obtain ⟨rfl, rfl⟩ := Prod.mk.inj he
    rw [prepareDataDir_of_some hs]
    cases hcl : c.clustered <;> rw [hcl] at hm <;>
      simp only [mountNames, List.mem_append, List.mem_cons, List.mem_singleton, Prod.mk.injEq,
        List.not_mem_nil, Bool.false_eq_true, ↓reduceIte, or_false, or_assoc] at hm <;>
      rcases hm with ⟨rfl, rfl⟩ | ⟨rfl, rfl⟩ | ⟨rfl, rfl⟩ | ⟨rfl, rfl⟩ | ⟨rfl, rfl⟩ | ⟨rfl, rfl⟩ |
        ⟨rfl, rfl⟩ | ⟨rfl, rfl⟩ | ⟨rfl, rfl⟩ | ⟨rfl, rfl⟩ <;>
      simp_all
  · refine ⟨toString (Py.PurePath.ofString ctx.daemonDataDir / "etc-samba-container"), ?_, ?_⟩
    · rw [PyDict.get?_eq_some_iff, hM]
      have hn : ("etc-samba-container", "/etc/samba/container:z") ∈ mountNames c.clustered := by
        cases c.clustered <;> decide
      rw [standardMounts]
      exact List.mem_map.2 ⟨_, hn, rfl⟩
    · rw [Py.PurePath.ofString_toString, prepareDataDir_of_some hs, if_pos hcl]
      simp

theorem prepareDataDir_prepares_mounts_sample :
    ({ instanceCfg := some sampleConfig } : SMBState).instanceCfg = some sampleConfig ∧
      ∃ M, (sampleSMB.customizeContainerMounts sampleContext PyDict.empty
          { instanceCfg := some sampleConfig }).result = .ok M ∧
        M.get? "/var/lib/ceph/fsid/smb.tank/ctdb/smb.conf" = some "/etc/samba/smb.conf:z" :=
  ⟨rfl, by
    obtain ⟨M, hM, hget, -⟩ :=
      @prepareDataDir_prepares_mounts sampleSMB { instanceCfg := some sampleConfig } sampleConfig
        rfl sampleContext 0 0
    have hpath : toString (Py.PurePath.ofString sampleContext.daemonDataDir / "ctdb/smb.conf") =
        "/var/lib/ceph/fsid/smb.tank/ctdb/smb.conf" := by decide
    exact ⟨M, hM, hpath ▸ hget ("ctdb/smb.conf", "/etc/samba/smb.conf:z") (by decide)⟩⟩

end CephadmSmb
