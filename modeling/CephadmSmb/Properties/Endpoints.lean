-- SUMMARY: The endpoint hook: it appends fresh endpoints, one per port, a second call changes nothing; and its ports, fixed at 445 and 9922, set against the configured metrics port the primary container publishes and the sidecar serves.
import CephadmSmb.Daemon.Composer
import CephadmSmb.Properties.Validation

/-!
# Endpoints

`customize_container_endpoints` runs one block per port: append `0.0.0.0:port` unless
an endpoint already has the port. One block appends a fresh endpoint or nothing
(`appendEndpointIfMissing_appendsFresh`); two in a row do the same for both ports
(`AppendsFresh.trans`). A second call finds both ports and appends nothing.

The hook reads the instance's ports, fixed by `SMB.__init__` at 445 and 9922
(`endpoint_ports_and_published_ports`). The primary container publishes the config's
SMB port, which `validate` copies from the instance, and the config's metrics port,
which `validate` reads from the record; and the metrics sidecar needs that port
positive and an image. So the three agree on the SMB port, and on the metrics port only
when the record sets it to 9922: a record that sets 9000 has it published and served
but not reserved (`endpoint_hook_ignores_metrics_port`).
-/

namespace CephadmSmb

/-- The ports of an endpoint list. -/
def ports (endpoints : List EndPoint) : List Int := endpoints.map (·.port)

@[simp] theorem ports_append (E E' : List EndPoint) : ports (E ++ E') = ports E ++ ports E' :=
  List.map_append _ _ _

-- ---------------------------------------------------------------------------
-- One block
-- ---------------------------------------------------------------------------

theorem appendEndpointIfMissing_of_mem {E : List EndPoint} {p : Int} (h : p ∈ ports E) :
    appendEndpointIfMissing E p = E := by
  obtain ⟨e, he, rfl⟩ := List.mem_map.mp h
  simp only [appendEndpointIfMissing, ite_eq_right_iff, Bool.not_eq_true', List.any_eq_false]
  exact fun hall => absurd (beq_self_eq_true e.port) (by simpa using hall e he)

theorem appendEndpointIfMissing_of_not_mem {E : List EndPoint} {p : Int} (h : p ∉ ports E) :
    appendEndpointIfMissing E p = E ++ [⟨"0.0.0.0", p⟩] := by
  simp only [appendEndpointIfMissing, ports, List.mem_map] at h ⊢
  rw [if_pos]
  simpa using fun e he hp => h ⟨e, he, hp⟩

theorem mem_ports_appendEndpointIfMissing {E : List EndPoint} {p q : Int} :
    q ∈ ports (appendEndpointIfMissing E p) ↔ q ∈ ports E ∨ q = p := by
  by_cases h : p ∈ ports E
  · rw [appendEndpointIfMissing_of_mem h]
    exact ⟨.inl, fun h' => h'.elim id (· ▸ h)⟩
  · simp [appendEndpointIfMissing_of_not_mem h, ports]

/-- `E'` is `E` followed by endpoints `0.0.0.0:p`, one per port, on ports `E` lacks and
    that satisfy `P`. -/
def AppendsFresh (P : Int → Prop) (E E' : List EndPoint) : Prop :=
  ∃ X, E' = E ++ X ∧ (∀ x ∈ X, x.ip = "0.0.0.0" ∧ x.port ∉ ports E ∧ P x.port) ∧ (ports X).Nodup

theorem AppendsFresh.refl (P : Int → Prop) (E : List EndPoint) : AppendsFresh P E E :=
  ⟨[], (List.append_nil E).symm, by simp, List.nodup_nil⟩

theorem AppendsFresh.mono {P Q : Int → Prop} (hPQ : ∀ p, P p → Q p) {E E' : List EndPoint}
    (h : AppendsFresh P E E') : AppendsFresh Q E E' := by
  obtain ⟨X, rfl, hX, hn⟩ := h
  exact ⟨X, rfl, fun x hx => ⟨(hX x hx).1, (hX x hx).2.1, hPQ _ (hX x hx).2.2⟩, hn⟩

theorem AppendsFresh.trans {P : Int → Prop} {E E' E'' : List EndPoint}
    (h : AppendsFresh P E E') (h' : AppendsFresh P E' E'') : AppendsFresh P E E'' := by
  obtain ⟨X, rfl, hX, hn⟩ := h
  obtain ⟨Y, rfl, hY, hn'⟩ := h'
  refine ⟨X ++ Y, List.append_assoc _ _ _, fun x hx => ?_, ?_⟩
  · rcases List.mem_append.mp hx with hx | hx
    · exact hX x hx
    · obtain ⟨hip, hfresh, hp⟩ := hY x hx
      exact ⟨hip, fun h => hfresh (by simp [h]), hp⟩
  · rw [ports_append, List.nodup_append]
    refine ⟨hn, hn', fun _ ha hb => ?_⟩
    obtain ⟨y, hy, rfl⟩ := List.mem_map.mp hb
    exact (hY y hy).2.1 (by rw [ports_append]; exact List.mem_append_right _ ha)

theorem appendEndpointIfMissing_appendsFresh (E : List EndPoint) (p : Int) :
    AppendsFresh (· = p) E (appendEndpointIfMissing E p) := by
  by_cases h : p ∈ ports E
  · rw [appendEndpointIfMissing_of_mem h]
    exact AppendsFresh.refl _ E
  · rw [appendEndpointIfMissing_of_not_mem h]
    exact ⟨_, rfl, by simpa using h, List.nodup_singleton p⟩

theorem AppendsFresh.nodup {P : Int → Prop} {E E' : List EndPoint} (h : AppendsFresh P E E')
    (hE : (ports E).Nodup) : (ports E').Nodup := by
  obtain ⟨X, rfl, hX, hn⟩ := h
  rw [ports_append, List.nodup_append]
  refine ⟨hE, hn, fun _ ha hb => ?_⟩
  obtain ⟨x, hx, rfl⟩ := List.mem_map.mp hb
  exact (hX x hx).2.1 ha

-- ---------------------------------------------------------------------------
-- The hook
-- ---------------------------------------------------------------------------

namespace SMB

variable (self : SMB) (E : List EndPoint)

theorem mem_ports_customizeContainerEndpoints {p : Int} :
    p ∈ ports (self.customizeContainerEndpoints E) ↔
      p ∈ ports E ∨ p = self.smbPort ∨ (0 < self.metricsPort ∧ p = self.metricsPort) := by
  unfold customizeContainerEndpoints
  split_ifs with hm <;> simp [mem_ports_appendEndpointIfMissing, hm, or_assoc]

theorem customizeContainerEndpoints_appendsFresh :
    AppendsFresh (fun p => p = self.smbPort ∨ (0 < self.metricsPort ∧ p = self.metricsPort)) E
      (self.customizeContainerEndpoints E) := by
  have hs := (appendEndpointIfMissing_appendsFresh E self.smbPort).mono
    (Q := fun p => p = self.smbPort ∨ (0 < self.metricsPort ∧ p = self.metricsPort))
    fun _ => .inl
  unfold customizeContainerEndpoints
  split_ifs with hm
  · exact hs.trans ((appendEndpointIfMissing_appendsFresh _ _).mono fun _ h => .inr ⟨hm, h⟩)
  · exact hs

theorem customizeContainerEndpoints_of_mem (hs : self.smbPort ∈ ports E)
    (hm : 0 < self.metricsPort → self.metricsPort ∈ ports E) :
    self.customizeContainerEndpoints E = E := by
  unfold customizeContainerEndpoints
  rw [appendEndpointIfMissing_of_mem hs]
  split_ifs with h
  · exact appendEndpointIfMissing_of_mem (hm h)
  · rfl

end SMB

/-- The endpoint hook appends to `E` fresh endpoints `0.0.0.0:p`, one per port, only
    for the SMB port and a positive metrics port; the result carries both; a second
    call changes nothing; and it keeps the ports of a list pairwise distinct. -/
theorem customizeContainerEndpoints_appends (self : SMB) (E : List EndPoint) :
    (∃ X, self.customizeContainerEndpoints E = E ++ X ∧
      (∀ x ∈ X, x.ip = "0.0.0.0" ∧ x.port ∉ ports E ∧
        (x.port = self.smbPort ∨ (0 < self.metricsPort ∧ x.port = self.metricsPort))) ∧
      (ports X).Nodup) ∧
    self.smbPort ∈ ports (self.customizeContainerEndpoints E) ∧
    (0 < self.metricsPort → self.metricsPort ∈ ports (self.customizeContainerEndpoints E)) ∧
    self.customizeContainerEndpoints (self.customizeContainerEndpoints E) =
      self.customizeContainerEndpoints E ∧
    ((ports E).Nodup → (ports (self.customizeContainerEndpoints E)).Nodup) := by
  have hs : self.smbPort ∈ ports (self.customizeContainerEndpoints E) :=
    (self.mem_ports_customizeContainerEndpoints E).2 (.inr (.inl rfl))
  have hm : 0 < self.metricsPort → self.metricsPort ∈ ports (self.customizeContainerEndpoints E) :=
    fun h => (self.mem_ports_customizeContainerEndpoints E).2 (.inr (.inr ⟨h, rfl⟩))
  exact ⟨self.customizeContainerEndpoints_appendsFresh E, hs, hm,
    self.customizeContainerEndpoints_of_mem _ hs hm,
    (self.customizeContainerEndpoints_appendsFresh E).nodup⟩

example : sampleSMB.customizeContainerEndpoints [⟨"10.0.0.5", 445⟩] =
    [⟨"10.0.0.5", 445⟩, ⟨"0.0.0.0", 9922⟩] := by decide

-- ---------------------------------------------------------------------------
-- Reserved ports and published ports
-- ---------------------------------------------------------------------------

/-- The layout runs the metrics sidecar exactly when spec §4.4 step 3 asks for it. -/
theorem specLayout_smbMetrics_iff (c : Config) :
    (∃ d ∈ (specLayout c).supplemental, d.role = .smbMetrics) ↔
      Py.strip c.metricsImage ≠ "" ∧ 0 < c.metricsPort := by
  simp [specLayout, List.mem_ite_nil_right, Config.metricsEnabled, or_and_right, exists_or,
    and_assoc]

/-- For an instance `SMB.__init__` made whose first `validate` succeeds, with config
    `c`: the endpoint hook reserves 445 and 9922, whatever the record; the primary
    container publishes 445 and `c.metrics_port`, which `int()` read from the record,
    when it is not zero; and the metrics sidecar runs when `c.metrics_port` is positive
    and an image is set. -/
theorem endpoint_ports_and_published_ports {ident : DaemonIdentity} {raw : RawConfig}
    {rankInfo : Option (Int × Int)} {image : String} {host : Host} {self : SMB}
    (hself : SMB.create ident raw rankInfo image host = .ok self)
    (hv : (self.validate SMBState.init).result = .ok ()) :
    ∃ c, (self.cfg SMBState.init).result = .ok c ∧
      (self.layout SMBState.init).result = .ok (specLayout c) ∧
      (raw.metricsPort.getD (.str "0")).toInt = .ok c.metricsPort ∧
      (∀ E p, p ∈ ports (self.customizeContainerEndpoints E) ↔
        p ∈ ports E ∨ p = 445 ∨ p = 9922) ∧
      (specLayout c).primary.containerArgs = ["--publish=445:445"] ++
        (if c.metricsPort ≠ 0 then
          ["--publish=" ++ toString c.metricsPort ++ ":" ++ toString c.metricsPort] else []) ++
        containerDnsArgs c ∧
      ((∃ d ∈ (specLayout c).supplemental, d.role = .smbMetrics) ↔
        Py.strip c.metricsImage ≠ "" ∧ 0 < c.metricsPort) := by
  unfold SMB.create at hself
  split_ifs at hself
  cases hself
  obtain ⟨vh, mp, pa, hr, -, hc, hcl⟩ := SMB.validate_ok_of_none rfl hv
  have hcfg := SMB.cfg_of_validate hv hc
  refine ⟨_, congrArg Outcome.result hcfg, by rw [SMB.layout_of_cfg hcfg rfl],
    SMB.toInt_of_validateRaw_ok hr, fun E p => ?_, rfl, specLayout_smbMetrics_iff _⟩
  simp [SMB.mem_ports_customizeContainerEndpoints]

/-- A record that sets a metrics image and the metrics port 9000. -/
def metricsRaw : RawConfig :=
  { clusterId := some "tank"
    configUri := some "rados://.smb/tank/config.json"
    metricsImage := some "quay.io/samba.org/samba-metrics:latest"
    metricsPort := some (.int 9000) }

/-- With the metrics port set to 9000 and an image, the primary container publishes 9000
    and the metrics sidecar serves it, but the endpoint hook reserves 9922 and never
    9000: it reads the port `SMB.__init__` fixes, not the configured one. -/
theorem endpoint_hook_ignores_metrics_port :
    ∃ self c, SMB.create sampleIdentity metricsRaw none sampleSMB.defaultImage sampleHost =
        .ok self ∧
      (self.validate SMBState.init).result = .ok () ∧
      (self.cfg SMBState.init).result = .ok c ∧
      (self.layout SMBState.init).result = .ok (specLayout c) ∧ c.metricsPort = 9000 ∧
      "--publish=9000:9000" ∈ (specLayout c).primary.containerArgs ∧
      (∃ d ∈ (specLayout c).supplemental, d.role = .smbMetrics ∧ "--port=9000" ∈ d.args) ∧
      ∀ E, 9000 ∉ ports E →
        9000 ∉ ports (self.customizeContainerEndpoints E) ∧
          9922 ∈ ports (self.customizeContainerEndpoints E) := by
  refine ⟨_, _, rfl, rfl, rfl, rfl, rfl, by decide, by decide, fun E hE => ?_⟩
  obtain ⟨-, -, -, -, hports, -⟩ := @endpoint_ports_and_published_ports sampleIdentity metricsRaw
    none sampleSMB.defaultImage sampleHost _ rfl rfl
  exact ⟨fun h => ((hports E 9000).1 h).elim hE (by decide), (hports E 9922).2 (.inr (.inr rfl))⟩

end CephadmSmb
