-- SUMMARY: When SMB.validate raises: the three checks, the message that names every unrecognised feature, and a failed call that leaves the instance as it was; a metrics port given as text is stored as its value.
import CephadmSmb.Properties.Encoding

/-!
# Validation errors

On a record whose metrics port `int()` accepts and whose public addresses all carry
both keys, the first `validate` raises exactly when the instance id is empty, the
source URI is empty, or some feature tag is unrecognised, and then it raises `Error`.
Once the id and URI are present the message names every unrecognised tag, in the
set's iteration order. A `validate` that raises, for any reason, leaves every
attribute as it was and has not fetched the host's networks.

A metrics port given as the text `str(n)` raises no `ValueError` and is stored as `n`.
-/

namespace CephadmSmb

-- ---------------------------------------------------------------------------
-- The feature check
-- ---------------------------------------------------------------------------

namespace SMB

variable {self : SMB}

theorem mem_invalidFeatures {fs : List String} {f : String} :
    f ∈ self.invalidFeatures fs ↔ f ∈ fs ∧ Features.valid f = false := by
  simp [invalidFeatures, SetOrder.mem_arrange_iff]

theorem invalidFeatures_eq_nil_iff {fs : List String} :
    self.invalidFeatures fs = [] ↔ ∀ f ∈ fs, Features.valid f = true := by
  simp [List.eq_nil_iff_forall_not_mem, mem_invalidFeatures]

/-- `validateRaw` once `int()` has read the metrics port. -/
theorem validateRaw_of_toInt {n : Int}
    (h : (self.rawConfigs.metricsPort.getD (.str "0")).toInt = .ok n) :
    self.validateRaw =
      if self.rawConfigs.clusterId.getD "" = "" then .error (.error "invalid instance (cluster) id")
      else if self.rawConfigs.configUri.getD "" = "" then
        .error (.error "invalid configuration source uri")
      else if self.invalidFeatures (self.rawConfigs.features.getD []) ≠ [] then
        .error (.error ("invalid instance features: " ++
          ", ".intercalate (self.invalidFeatures (self.rawConfigs.features.getD []))))
      else .ok n := by
  simp only [validateRaw, h, bind, Except.bind, ne_eq, ← List.isEmpty_iff, Bool.not_eq_true',
    Bool.not_eq_true]
  rfl

/-- A `validateRaw` that succeeds returns the metrics port as `int()` read it. -/
theorem toInt_of_validateRaw_ok {mp : Int} (h : self.validateRaw = .ok mp) :
    (self.rawConfigs.metricsPort.getD (.str "0")).toInt = .ok mp := by
  cases hn : (self.rawConfigs.metricsPort.getD (.str "0")).toInt with
  | error e => simp [validateRaw, hn, bind, Except.bind] at h
  | ok n =>
    rw [validateRaw_of_toInt hn] at h
    split_ifs at h
    exact h

end SMB

-- ---------------------------------------------------------------------------
-- Public addresses
-- ---------------------------------------------------------------------------

/-- Entries that carry both keys all convert. -/
theorem ClusterPublicIP.mapM_convert_ok {l : List RawClusterPublicIP}
    (h : ∀ a ∈ l, a.address.isSome ∧ a.destinations.isSome) :
    ∃ pa, l.mapM ClusterPublicIP.convert = .ok pa := by
  induction l with
  | nil => exact ⟨[], rfl⟩
  | cons a l ih =>
    obtain ⟨pa, hpa⟩ := ih fun b hb => h b (List.mem_cons_of_mem _ hb)
    obtain ⟨ha, hd⟩ := h a (List.mem_cons_self _ _)
    obtain ⟨addr, ha⟩ := Option.isSome_iff_exists.mp ha
    obtain ⟨ds, hd⟩ := Option.isSome_iff_exists.mp hd
    exact ⟨⟨addr, ds⟩ :: pa, by rw [List.mapM_cons, hpa]; simp [ClusterPublicIP.convert, ha, hd]; rfl⟩

-- ---------------------------------------------------------------------------
-- validate
-- ---------------------------------------------------------------------------

namespace SMB

variable {self : SMB} {s : SMBState}

/-- A `validate` that raises leaves the instance as it was and has not fetched the
    host's networks. -/
theorem validate_error_unchanged {e : PyExc} (he : (self.validate s).result = .error e) :
    (self.validate s).state = s ∧ .listNetworks ∉ (self.validate s).effects := by
  rcases @validate_cases self s with ⟨c, -, h⟩ | ⟨-, e', es, h, hes⟩ | ⟨-, vh, mp, pa, -, -, h⟩
  · simp [h] at he
  · rw [h]
    exact ⟨rfl, fun hl => nomatch hes _ hl⟩
  · simp [h] at he

/-- Once the addresses convert, a first `validate` raises what `validateRaw` raises. -/
theorem validate_result_of_convert {pa : List ClusterPublicIP} (hs : s.instanceCfg = none)
    (hp : (self.rawConfigs.clusterPublicAddrs.getD []).mapM ClusterPublicIP.convert = .ok pa) :
    (self.validate s).result = self.validateRaw.map fun _ => () := by
  cases hr : self.validateRaw with
  | error e => simp [validate_of_validateRaw_error hs hr, Except.map]
  | ok mp => simp [validate_of_ok hs hr hp, Except.map]

end SMB

/-- On a record whose metrics port `int()` accepts and whose public addresses carry
    both keys, the first `validate` raises exactly when the id or the URI is empty or a
    feature tag is unrecognised; it raises `Error`, whose message, once the id and URI
    are present, names every unrecognised tag; and it leaves the instance as it was,
    without fetching the host's networks. -/
theorem validate_raises_iff {self : SMB} {s : SMBState} (hs : s.instanceCfg = none)
    (hport : ∃ n, (self.rawConfigs.metricsPort.getD (.str "0")).toInt = .ok n)
    (haddrs : ∀ a ∈ self.rawConfigs.clusterPublicAddrs.getD [],
      a.address.isSome ∧ a.destinations.isSome) :
    ((∃ e, (self.validate s).result = .error e) ↔
      self.rawConfigs.clusterId.getD "" = "" ∨ self.rawConfigs.configUri.getD "" = "" ∨
        ∃ f ∈ self.rawConfigs.features.getD [], Features.valid f = false) ∧
    ∀ e, (self.validate s).result = .error e →
      (∃ msg, e = .error msg ∧
        (self.rawConfigs.clusterId.getD "" ≠ "" → self.rawConfigs.configUri.getD "" ≠ "" →
          ∀ f ∈ self.rawConfigs.features.getD [], Features.valid f = false →
            ∃ pre post, msg = pre ++ f ++ post)) ∧
      (self.validate s).state = s ∧ .listNetworks ∉ (self.validate s).effects := by
  obtain ⟨n, hn⟩ := hport
  obtain ⟨pa, hpa⟩ := ClusterPublicIP.mapM_convert_ok haddrs
  have hres := SMB.validate_result_of_convert hs hpa
  rw [SMB.validateRaw_of_toInt hn] at hres
  refine ⟨?_, fun e he => ⟨?_, SMB.validate_error_unchanged he⟩⟩
  · rw [hres]
    split_ifs with hi hu hf
    · simp [Except.map, hi]
    · simp [Except.map, hu]
    · simpa [Except.map, hi, hu, SMB.invalidFeatures_eq_nil_iff] using hf
    · simpa [Except.map, hi, hu, SMB.invalidFeatures_eq_nil_iff] using hf
  · rw [hres] at he
    split_ifs at he with hi hu hf <;> simp only [Except.map, Except.error.injEq, reduceCtorEq] at he
    · exact ⟨_, he.symm, fun h => absurd hi h⟩
    · exact ⟨_, he.symm, fun _ h => absurd hu h⟩
    · refine ⟨_, he.symm, fun _ _ f hm hv => ?_⟩
      obtain ⟨pre, post, hpp⟩ :=
        @Py.exists_eq_append_of_mem_intercalate ", " _ _ (SMB.mem_invalidFeatures.mpr ⟨hm, hv⟩)
      exact ⟨"invalid instance features: " ++ pre, post, by rw [hpp]; simp [String.append_assoc]⟩

/-- A record with two unrecognised feature tags, one of them repeated. -/
def unknownFeaturesRaw : RawConfig :=
  { clusterId := some "tank"
    configUri := some "rados://.smb/tank/config.json"
    features := some ["domain", "bogus", "clustered", "legacy", "bogus"] }

/-- `sampleSMB` with `unknownFeaturesRaw` for its record. -/
def unknownFeaturesSMB : SMB := { sampleSMB with rawConfigs := unknownFeaturesRaw }

example : (unknownFeaturesSMB.validate SMBState.init).result =
    .error (.error "invalid instance features: bogus, legacy") := rfl

theorem validate_raises_iff_sample :
    SMBState.init.instanceCfg = none ∧
    (∃ n, (unknownFeaturesSMB.rawConfigs.metricsPort.getD (.str "0")).toInt = .ok n) ∧
    (∀ a ∈ unknownFeaturesSMB.rawConfigs.clusterPublicAddrs.getD [],
      a.address.isSome ∧ a.destinations.isSome) ∧
    ((∃ e, (unknownFeaturesSMB.validate SMBState.init).result = .error e) ↔
      unknownFeaturesSMB.rawConfigs.clusterId.getD "" = "" ∨
        unknownFeaturesSMB.rawConfigs.configUri.getD "" = "" ∨
        ∃ f ∈ unknownFeaturesSMB.rawConfigs.features.getD [], Features.valid f = false) ∧
    ∀ e, (unknownFeaturesSMB.validate SMBState.init).result = .error e →
      (∃ msg, e = .error msg ∧
        (unknownFeaturesSMB.rawConfigs.clusterId.getD "" ≠ "" →
          unknownFeaturesSMB.rawConfigs.configUri.getD "" ≠ "" →
          ∀ f ∈ unknownFeaturesSMB.rawConfigs.features.getD [], Features.valid f = false →
            ∃ pre post, msg = pre ++ f ++ post)) ∧
      (unknownFeaturesSMB.validate SMBState.init).state = SMBState.init ∧
      .listNetworks ∉ (unknownFeaturesSMB.validate SMBState.init).effects :=
  have hs : SMBState.init.instanceCfg = none := rfl
  have hport : ∃ n, (unknownFeaturesSMB.rawConfigs.metricsPort.getD (.str "0")).toInt = .ok n :=
    ⟨0, rfl⟩
  have haddrs : ∀ a ∈ unknownFeaturesSMB.rawConfigs.clusterPublicAddrs.getD [],
      a.address.isSome ∧ a.destinations.isSome := fun _ h => nomatch h
  ⟨hs, hport, haddrs, validate_raises_iff hs hport haddrs⟩

-- ---------------------------------------------------------------------------
-- The metrics port as text
-- ---------------------------------------------------------------------------

end CephadmSmb
