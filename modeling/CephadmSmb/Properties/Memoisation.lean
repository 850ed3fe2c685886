-- SUMMARY: Any sequence of the framework's calls on one instance: the config and the cached layout are set once, the networks are fetched at most once and before any ctdb.json, and every call replies as on a fresh instance.
import CephadmSmb.Daemon.Composer
import CephadmSmb.Daemon.DataDir
import CephadmSmb.Properties.Layout

/-!
# Memoisation

The framework calls an instance's methods in any order and any number of times. A
call either validates the instance first (all of them do, directly or through
`_cfg` and `_layout`) or finds it validated. On a validated instance a call
changes nothing but the layout cache, fetches nothing, and replies with what only
the stored config, files and network inventory determine (`Steady`). So the
instance moves from fresh to validated once, the layout cache goes from empty to the
layout of the stored config once, and every call replies as it would have on a fresh
instance.

`Steady` and `ValidatesFirst` are closed under the monad's operations; each call is
shown to have both by composing the lemmas about the methods it calls.
-/

namespace CephadmSmb

-- ---------------------------------------------------------------------------
-- The calls
-- ---------------------------------------------------------------------------

/-- The methods of the form the framework calls. -/
inductive Call
  | validate
  | cfg
  | layout
  | initContainers (ctx : CephadmContext)
  | sidecarContainers (ctx : CephadmContext)
  | container (ctx : CephadmContext)
  | customizeContainerEnvs (envs : List String)
  | customizeProcessArgs (args : List String)
  | customizeContainerArgs (args : List String)
  | customizeContainerMounts (ctx : CephadmContext) (mounts : PyDict String)
  | prepareDataDir (dataDir : String) (uid gid : Int)

/-- What a call returns. -/
inductive Reply
  | none
  | config (c : Config)
  | layout (l : ContainerLayout)
  | initContainers (cs : List InitContainer)
  | sidecarContainers (cs : List SidecarContainer)
  | container (c : PrimaryContainer)
  | strings (xs : List String)
  | mounts (m : PyDict String)

/-- One call on the instance. -/
def Call.run (self : SMB) : Call → SMBM Reply
  | .validate => do self.validate; pure .none
  | .cfg => do pure (.config (← self.cfg))
  | .layout => do pure (.layout (← self.layout))
  | .initContainers ctx => do pure (.initContainers (← self.initContainers ctx))
  | .sidecarContainers ctx => do pure (.sidecarContainers (← self.sidecarContainers ctx))
  | .container ctx => do pure (.container (← self.container ctx))
  | .customizeContainerEnvs envs => do pure (.strings (← self.customizeContainerEnvs envs))
  | .customizeProcessArgs args => do pure (.strings (← self.customizeProcessArgs args))
  | .customizeContainerArgs args => do pure (.strings (← self.customizeContainerArgs args))
  | .customizeContainerMounts ctx mounts =>
    do pure (.mounts (← self.customizeContainerMounts ctx mounts))
  | .prepareDataDir dataDir uid gid => do self.prepareDataDir dataDir uid gid; pure .none

/-- The replies, the final state and the host operations of a sequence of calls. -/
structure Trace where
  replies : List (Except PyExc Reply)
  state : SMBState
  effects : List Effect

/-- Make the calls one after the other; a call that raises leaves the instance as the
    exception found it, and the next call goes ahead. -/
def runCalls (self : SMB) : List Call → SMBState → Trace
  | [], s => ⟨[], s, []⟩
  | k :: ks, s =>
    let o := k.run self s
    let t := runCalls self ks o.state
    ⟨o.result :: t.replies, t.state, o.effects ++ t.effects⟩

-- ---------------------------------------------------------------------------
-- Steady methods
-- ---------------------------------------------------------------------------

/-- The state with its layout cache emptied. -/
def SMBState.forgetLayout (s : SMBState) : SMBState := { s with cachedLayout := none }

theorem SMBState.networkMapper_eq_of_forgetLayout {s t : SMBState}
    (h : s.forgetLayout = t.forgetLayout) : s.networkMapper = t.networkMapper := by
  have := congrArg SMBState.networkMapper h
  exact this

/-- A validated state: config `c` stored and at most its layout cached. -/
def Settled (c : Config) (s : SMBState) : Prop :=
  s.instanceCfg = some c ∧ (s.cachedLayout = none ∨ s.cachedLayout = some (specLayout c))

/-- A host operation of a validated instance: no network fetch, and a `ctdb.json` only
    with the public addresses of config `c` over the inventory `m`. -/
def QuietEffect (c : Config) (m : NetworkMapper) (e : Effect) : Prop :=
  e.isListNetworks = false ∧ ∀ p v, e = .writeJson p v → v = ctdbStubConfig c m

/-- On validated states that differ at most in their layout cache, a steady method
    replies the same with the same host operations, all quiet; it changes nothing but
    the layout cache, and does not empty that. -/
def Steady {α : Type} (x : SMBM α) : Prop :=
  ∀ c s t, Settled c s → Settled c t → s.forgetLayout = t.forgetLayout →
    (x s).result = (x t).result ∧ (x s).effects = (x t).effects ∧
    Settled c (x s).state ∧ (x s).state.forgetLayout = s.forgetLayout ∧
    ((x s).state.cachedLayout = none → s.cachedLayout = none) ∧
    ∀ e ∈ (x s).effects, QuietEffect c s.networkMapper e

namespace Steady

variable {α β : Type}

theorem pure (a : α) : Steady (pure a : SMBM α) := by
  intro c s t hs _ _
  simp [hs]

theorem perform {e : Effect} (he : ∀ c m, QuietEffect c m e) : Steady (SMBM.perform e) := by
  intro c s t hs _ _
  simp [hs, he]

theorem bind {x : SMBM α} {f : α → SMBM β} (hx : Steady x) (hf : ∀ a, Steady (f a)) :
    Steady (x >>= f) := by
  intro c s t hs ht hst
  obtain ⟨hr, he, hs1, hf1, hl1, hq1⟩ := hx c s t hs ht hst
  obtain ⟨-, -, ht1, hg1, -, -⟩ := hx c t s ht hs hst.symm
  simp only [SMBM.bind_apply]
  rcases hxs : x s with ⟨r, s1, e1⟩
  rcases hxt : x t with ⟨r', t1, e1'⟩
  rw [hxs, hxt] at hr he
  rw [hxs] at hs1 hf1 hl1 hq1
  rw [hxt] at ht1 hg1
  dsimp only at *
  subst hr he
  cases r with
  | error e => exact ⟨rfl, rfl, hs1, hf1, hl1, hq1⟩
  | ok a =>
    dsimp only
    have hm := SMBState.networkMapper_eq_of_forgetLayout hf1
    obtain ⟨hr2, he2, hs2, hf2, hl2, hq2⟩ :=
      hf a c s1 t1 hs1 ht1 (by rw [hf1, hg1, hst])
    refine ⟨hr2, by rw [he2], hs2, hf2.trans hf1, fun h => hl1 (hl2 h), ?_⟩
    simp only [List.mem_append]
    rintro e (he | he)
    · exact hq1 e he
    · exact hm ▸ hq2 e he

theorem ite {p : Prop} [Decidable p] {x y : SMBM α} (hx : Steady x) (hy : Steady y) :
    Steady (if p then x else y) := by
  split
  · exact hx
  · exact hy

/-- Reading what a validated instance holds besides its layout cache. -/
theorem get_bind {f : SMBState → SMBM β} (hf : ∀ s, Steady (f s))
    (hdep : ∀ s t, s.forgetLayout = t.forgetLayout → f s = f t) :
    Steady (SMBM.get >>= f) := by
  intro c s t hs ht hst
  rw [SMBM.get_bind_apply, SMBM.get_bind_apply, hdep t s hst.symm]
  exact hf s c s t hs ht hst

theorem mapM_loop {f : α → SMBM β} (hf : ∀ a, Steady (f a)) (l : List α) :
    ∀ bs, Steady (List.mapM.loop f l bs) := by
  induction l with
  | nil => exact fun bs => pure bs.reverse
  | cons a l ih => exact fun bs => bind (hf a) fun b => ih (b :: bs)

theorem mapM {f : α → SMBM β} (hf : ∀ a, Steady (f a)) (l : List α) : Steady (l.mapM f) :=
  mapM_loop hf l []

end Steady

theorem QuietEffect.of_ne {e : Effect} (hl : e ≠ .listNetworks) (hw : ∀ p v, e ≠ .writeJson p v)
    (c : Config) (m : NetworkMapper) : QuietEffect c m e := by
  refine ⟨?_, fun p v h => absurd h (hw p v)⟩
  cases e <;> first | rfl | exact absurd rfl hl

-- ---------------------------------------------------------------------------
-- The methods are steady
-- ---------------------------------------------------------------------------

namespace SMB

variable {self : SMB}

theorem validate_steady : Steady self.validate := by
  intro c s t hs ht _
  rw [validate_of_some hs.1, validate_of_some ht.1]
  simp [hs]

theorem cfg_steady : Steady self.cfg := by
  intro c s t hs ht _
  rw [cfg_of_some hs.1, cfg_of_some ht.1]
  simp [hs]

/-- On a validated state `_layout` returns, and caches, the layout of the stored config. -/
theorem layout_of_settled {c : Config} {s : SMBState} (hs : Settled c s) :
    self.layout s = ⟨.ok (specLayout c), { s with cachedLayout := some (specLayout c) }, []⟩ := by
  rcases hs.2 with h | h
  · exact layout_of_cfg (cfg_of_some hs.1) h
  · rw [layout_of_cached h]
    cases s
    simp_all

theorem layout_steady : Steady self.layout := by
  intro c s t hs ht _
  rw [layout_of_settled hs, layout_of_settled ht]
  refine ⟨rfl, rfl, ⟨hs.1, .inr rfl⟩, rfl, ?_, ?_⟩ <;> simp

theorem writeCtdbStubConfig_of_settled {c : Config} {s : SMBState} (hs : Settled c s)
    (path : String) : self.writeCtdbStubConfig path s =
      ⟨.ok (), s, [.writeJson path (ctdbStubConfig c s.networkMapper)]⟩ := by
  simp [writeCtdbStubConfig, cfg_of_some hs.1]

theorem writeCtdbStubConfig_steady (path : String) : Steady (self.writeCtdbStubConfig path) := by
  intro c s t hs ht hst
  rw [writeCtdbStubConfig_of_settled hs, writeCtdbStubConfig_of_settled ht,
    SMBState.networkMapper_eq_of_forgetLayout hst]
  refine ⟨rfl, rfl, hs, rfl, id, ?_⟩
  simp [QuietEffect, Effect.isListNetworks, SMBState.networkMapper_eq_of_forgetLayout hst]

theorem customizeContainerMounts_steady (ctx : CephadmContext) (mounts : PyDict String) :
    Steady (self.customizeContainerMounts ctx mounts) :=
  Steady.bind validate_steady fun _ =>
    Steady.bind cfg_steady fun _ => Steady.ite (Steady.pure _) (Steady.pure _)

theorem toInitContainer_steady (ctx : CephadmContext) (r : Container) :
    Steady (self.toInitContainer ctx r) :=
  Steady.bind (customizeContainerMounts_steady ctx _) fun _ => Steady.pure _

theorem toSidecarContainer_steady (ctx : CephadmContext) (r : Container) :
    Steady (self.toSidecarContainer ctx r) :=
  Steady.bind (customizeContainerMounts_steady ctx _) fun _ => by
    cases ctx.engine <;> exact Steady.pure _

theorem initContainers_steady (ctx : CephadmContext) : Steady (self.initContainers ctx) :=
  Steady.bind layout_steady fun l => Steady.mapM (toInitContainer_steady ctx) l.initContainers

theorem sidecarContainers_steady (ctx : CephadmContext) : Steady (self.sidecarContainers ctx) :=
  Steady.bind layout_steady fun l => Steady.mapM (toSidecarContainer_steady ctx) l.supplemental

theorem customizeContainerEnvs_steady (envs : List String) :
    Steady (self.customizeContainerEnvs envs) :=
  Steady.bind layout_steady fun _ => Steady.pure _

theorem customizeProcessArgs_steady (args : List String) :
    Steady (self.customizeProcessArgs args) :=
  Steady.bind layout_steady fun _ => Steady.pure _

theorem customizeContainerArgs_steady (args : List String) :
    Steady (self.customizeContainerArgs args) :=
  Steady.bind layout_steady fun _ => Steady.pure _

theorem container_steady (ctx : CephadmContext) : Steady (self.container ctx) :=
  Steady.bind cfg_steady fun _ =>
    Steady.bind (customizeContainerArgs_steady _) fun _ =>
      Steady.bind (customizeContainerMounts_steady ctx _) fun _ =>
        Steady.bind (customizeContainerEnvs_steady _) fun _ =>
          Steady.bind (customizeProcessArgs_steady _) fun _ => Steady.pure _

theorem prepareDataDir_steady (dataDir : String) (uid gid : Int) :
    Steady (self.prepareDataDir dataDir uid gid) := by
  have hdir : ∀ p, Steady (SMBM.perform (.makedirs p uid gid 0o770)) := fun p =>
    Steady.perform (QuietEffect.of_ne (by simp) (by simp))
  refine Steady.bind validate_steady fun _ => Steady.bind (hdir _) fun _ =>
    Steady.bind (hdir _) fun _ => Steady.bind (hdir _) fun _ => Steady.get_bind (fun s => ?_) ?_
  · dsimp only
    refine Steady.bind (Steady.ite (Steady.perform (QuietEffect.of_ne (by simp) (by simp)))
      (Steady.pure _)) fun _ => Steady.bind cfg_steady fun _ => Steady.ite ?_ (Steady.pure _)
    exact Steady.bind (hdir _) fun _ => Steady.bind (hdir _) fun _ => Steady.bind (hdir _) fun _ =>
      Steady.bind (hdir _) fun _ => Steady.bind (writeCtdbStubConfig_steady _) fun _ =>
        Steady.perform (QuietEffect.of_ne (by simp) (by simp))
  · intro s t h
    have hf : s.files = t.files := by
      have := congrArg SMBState.files h
      exact this
    simp only [hf]

end SMB

-- ---------------------------------------------------------------------------
-- Every call validates first
-- ---------------------------------------------------------------------------

/-- From a state with no cached layout, the method runs as `validate` followed by it. -/
def ValidatesFirst (self : SMB) {α : Type} (x : SMBM α) : Prop :=
  ∀ s, s.cachedLayout = none → x s = (self.validate >>= fun _ => x) s

theorem ValidatesFirst.bind {self : SMB} {α β : Type} {x : SMBM α} (hx : ValidatesFirst self x)
    (f : α → SMBM β) : ValidatesFirst self (x >>= f) := by
  intro s hs
  rw [SMBM.bind_apply, hx s hs, ← SMBM.bind_apply, SMBM.bind_assoc_apply]

namespace SMB

variable {self : SMB}

theorem validate_validatesFirst : ValidatesFirst self self.validate := by
  intro s _
  rcases @validate_cases self s with ⟨c, -, h⟩ | ⟨-, e, es, h, -⟩ | ⟨-, vh, mp, pa, -, -, h⟩
  · rw [SMBM.bind_apply_of_ok h]
  · simp [h]
  · simp [h, validate_of_some]

theorem cfg_validatesFirst : ValidatesFirst self self.cfg :=
  ValidatesFirst.bind validate_validatesFirst _

theorem layout_of_cfg_error {s s' : SMBState} {e : PyExc} {es : List Effect}
    (hc : self.cfg s = ⟨.error e, s', es⟩) (hl : s.cachedLayout = none) :
    self.layout s = ⟨.error e, s', es⟩ := by
  unfold layout
  rw [SMBM.get_bind_apply, hl]
  simp only [SMBM.pure_bind_apply, SMBM.bind_apply, hc, List.nil_append]

theorem layout_validatesFirst : ValidatesFirst self self.layout := by
  intro s hl
  rcases @validate_cases self s with ⟨c, -, h⟩ | ⟨-, e, es, h, -⟩ | ⟨-, vh, mp, pa, -, -, h⟩
  · rw [SMBM.bind_apply_of_ok h]
  · have hc : self.cfg s = ⟨.error e, s, es⟩ := by simp [cfg, h]
    rw [layout_of_cfg_error hc hl]
    simp [h]
  · have hv : self.validate s = ⟨.ok (), (self.validate s).state, (self.validate s).effects⟩ := by
      rw [h]
    have hS : Settled (self.newConfig vh mp pa) (self.validate s).state := by
      rw [h]
      exact ⟨rfl, .inl hl⟩
    rw [layout_of_cfg (cfg_of_validate (by rw [h]) hS.1) hl, SMBM.bind_apply_of_eq hv,
      layout_of_settled hS]
    simp

end SMB

theorem Call.run_validatesFirst (self : SMB) (k : Call) : ValidatesFirst self (k.run self) := by
  cases k with
  | validate => exact ValidatesFirst.bind SMB.validate_validatesFirst _
  | cfg => exact ValidatesFirst.bind SMB.cfg_validatesFirst _
  | layout => exact ValidatesFirst.bind SMB.layout_validatesFirst _
  | customizeContainerMounts | prepareDataDir =>
    exact ValidatesFirst.bind (ValidatesFirst.bind SMB.validate_validatesFirst _) _
  | container => exact ValidatesFirst.bind (ValidatesFirst.bind SMB.cfg_validatesFirst _) _
  | initContainers | sidecarContainers | customizeContainerEnvs | customizeProcessArgs
    | customizeContainerArgs =>
    exact ValidatesFirst.bind (ValidatesFirst.bind SMB.layout_validatesFirst _) _

theorem Call.run_steady (self : SMB) (k : Call) : Steady (k.run self) := by
  cases k with
  | validate => exact Steady.bind SMB.validate_steady fun _ => Steady.pure _
  | cfg => exact Steady.bind SMB.cfg_steady fun _ => Steady.pure _
  | layout => exact Steady.bind SMB.layout_steady fun _ => Steady.pure _
  | initContainers ctx => exact Steady.bind (SMB.initContainers_steady ctx) fun _ => Steady.pure _
  | sidecarContainers ctx =>
    exact Steady.bind (SMB.sidecarContainers_steady ctx) fun _ => Steady.pure _
  | container ctx => exact Steady.bind (SMB.container_steady ctx) fun _ => Steady.pure _
  | customizeContainerEnvs envs =>
    exact Steady.bind (SMB.customizeContainerEnvs_steady envs) fun _ => Steady.pure _
  | customizeProcessArgs args =>
    exact Steady.bind (SMB.customizeProcessArgs_steady args) fun _ => Steady.pure _
  | customizeContainerArgs args =>
    exact Steady.bind (SMB.customizeContainerArgs_steady args) fun _ => Steady.pure _
  | customizeContainerMounts ctx mounts =>
    exact Steady.bind (SMB.customizeContainerMounts_steady ctx mounts) fun _ => Steady.pure _
  | prepareDataDir dataDir uid gid =>
    exact Steady.bind (SMB.prepareDataDir_steady dataDir uid gid) fun _ => Steady.pure _

-- ---------------------------------------------------------------------------
-- Runs
-- ---------------------------------------------------------------------------

theorem runCalls_append_state (self : SMB) (ks ks' : List Call) (s : SMBState) :
    (runCalls self (ks ++ ks') s).state = (runCalls self ks' (runCalls self ks s).state).state := by
  induction ks generalizing s with
  | nil => rfl
  | cons k ks ih => exact ih _

/-- From a validated state a run replies to each call as the state would, keeps the
    state validated with the same config, files and inventory, never empties the layout
    cache, and performs only quiet operations. -/
theorem runCalls_settled (self : SMB) {c : Config} (ks : List Call) {s : SMBState}
    (hs : Settled c s) :
    (runCalls self ks s).replies = ks.map (fun k => (k.run self s).result) ∧
    Settled c (runCalls self ks s).state ∧
    (runCalls self ks s).state.forgetLayout = s.forgetLayout ∧
    ((runCalls self ks s).state.cachedLayout = none → s.cachedLayout = none) ∧
    ∀ e ∈ (runCalls self ks s).effects, QuietEffect c s.networkMapper e := by
  induction ks generalizing s with
  | nil => exact ⟨rfl, hs, rfl, id, by simp [runCalls]⟩
  | cons k ks ih =>
    obtain ⟨-, -, hs1, hf1, hl1, hq1⟩ := Call.run_steady self k c s s hs hs rfl
    obtain ⟨hr, hs2, hf2, hl2, hq2⟩ := ih hs1
    have hm := SMBState.networkMapper_eq_of_forgetLayout hf1
    refine ⟨?_, hs2, hf2.trans hf1, fun h => hl1 (hl2 h), ?_⟩
    · simp only [runCalls, hr, List.map_cons, List.cons.injEq, true_and]
      exact List.map_congr_left fun k' _ => (Call.run_steady self k' c _ s hs1 hs hf1).1
    · simp only [runCalls, List.mem_append]
      rintro e (he | he)
      · exact hq1 e he
      · exact hm ▸ hq2 e he

/-- The host operations of a first `validate` that succeeds: `getfqdn` when no virtual
    hostname is configured, then one `list_networks` exactly when public addresses are. -/
theorem validateEffects_hostOps (self : SMB) (pa : List ClusterPublicIP) :
    (∀ e ∈ self.vhostnameEffects ++ (if pa = [] then [] else [Effect.listNetworks]),
      e = .getfqdn ∨ e = .listNetworks) ∧
    ((self.vhostnameEffects ++ (if pa = [] then [] else [Effect.listNetworks])).filter
      Effect.isListNetworks).length = if pa = [] then 0 else 1 := by
  have hv : self.vhostnameEffects.filter Effect.isListNetworks = [] :=
    List.filter_eq_nil_iff.2 fun x hx => by
      simp [SMB.eq_getfqdn_of_mem_vhostnameEffects hx, Effect.isListNetworks]
  refine ⟨fun x hx => ?_, ?_⟩
  · rcases List.mem_append.mp hx with hx | hx
    · exact .inl (SMB.eq_getfqdn_of_mem_vhostnameEffects hx)
    · split at hx
      · cases hx
      · exact .inr (List.mem_singleton.mp hx)
  · rw [List.filter_append, List.length_append, hv]
    split_ifs <;> rfl

/-- A run from a fresh instance never validates it, and performs `getfqdn`s alone; or
    its host operations are those of the failed validations and of the one that
    succeeds, which fetches the networks exactly when public addresses are configured,
    followed by quiet operations only. Each call replies as on a fresh instance. -/
theorem runCalls_init (self : SMB) (ks : List Call) :
    (runCalls self ks SMBState.init).replies =
      ks.map (fun k => (k.run self SMBState.init).result) ∧
    (((runCalls self ks SMBState.init).state = SMBState.init ∧
        ∀ e ∈ (runCalls self ks SMBState.init).effects, e = .getfqdn) ∨
      ∃ c pre post, Settled c (runCalls self ks SMBState.init).state ∧
        (runCalls self ks SMBState.init).effects = pre ++ post ∧
        (∀ e ∈ pre, e = .getfqdn ∨ e = .listNetworks) ∧
        (pre.filter Effect.isListNetworks).length = (if c.clusterPublicAddrs = [] then 0 else 1) ∧
        (c.clusterPublicAddrs ≠ [] →
          (runCalls self ks SMBState.init).state.networkMapper = ⟨self.host.listNetworks 0⟩) ∧
        ∀ e ∈ post, QuietEffect c (runCalls self ks SMBState.init).state.networkMapper e) := by
  induction ks with
  | nil => exact ⟨rfl, .inl ⟨rfl, by simp [runCalls]⟩⟩
  | cons k ks ih =>
    have hk (k : Call) := Call.run_validatesFirst self k SMBState.init rfl
    rcases @SMB.validate_cases self SMBState.init with ⟨c, hc, -⟩ | ⟨-, e, es, hv, hes⟩ |
      ⟨-, vh, mp, pa, -, -, hv⟩
    · cases hc
    · -- the validation fails: nothing changes
      have hrun : k.run self SMBState.init = ⟨.error e, SMBState.init, es⟩ := by
        rw [hk, SMBM.bind_apply, hv]
      obtain ⟨hr, hd⟩ := ih
      simp only [runCalls, hrun, List.map_cons, hr, true_and, List.mem_append]
      rcases hd with ⟨hst, he⟩ | ⟨c, pre, post, hs, heq, hpre, hcount, hmap, hpost⟩
      · exact .inl ⟨hst, fun x hx => hx.elim (hes x) (he x)⟩
      · refine .inr ⟨c, es ++ pre, post, hs, by rw [heq, List.append_assoc], ?_, ?_, hmap, hpost⟩
        · simp only [List.mem_append]
          exact fun x hx => hx.elim (fun h => .inl (hes x h)) (hpre x)
        · rw [List.filter_append, List.length_append, ← hcount, Nat.add_eq_right,
            List.length_eq_zero, List.filter_eq_nil_iff]
          exact fun x hx => by simp [hes x hx, Effect.isListNetworks]
    · -- the validation succeeds: the instance is validated from now on
      have hV : Settled (self.newConfig vh mp pa) (self.validate SMBState.init).state := by
        rw [hv]
        exact ⟨rfl, .inl rfl⟩
      have hv' : self.validate SMBState.init = ⟨.ok (), (self.validate SMBState.init).state,
          (self.validate SMBState.init).effects⟩ := by rw [hv]
      have hinit (k : Call) : k.run self SMBState.init =
          ⟨(k.run self (self.validate SMBState.init).state).result,
            (k.run self (self.validate SMBState.init).state).state,
            (self.validate SMBState.init).effects ++
              (k.run self (self.validate SMBState.init).state).effects⟩ := by
        rw [hk, SMBM.bind_apply_of_eq hv']
      obtain ⟨-, -, hs1, hf1, -, hq1⟩ := Call.run_steady self k _ _ _ hV hV rfl
      obtain ⟨hr, hs2, hf2, -, hq2⟩ := runCalls_settled self ks hs1
      obtain ⟨hops, hcount⟩ := validateEffects_hostOps self pa
      have hm1 := SMBState.networkMapper_eq_of_forgetLayout hf1
      have hm2 := SMBState.networkMapper_eq_of_forgetLayout hf2
      simp only [runCalls, hinit k, List.map_cons, hr]
      refine ⟨?_, .inr ⟨_, (self.validate SMBState.init).effects, _, hs2, List.append_assoc _ _ _,
        by rw [hv]; exact hops, by rw [hv]; exact hcount, ?_, ?_⟩⟩
      · refine congrArg _ (List.map_congr_left fun k' _ => ?_)
        rw [hinit k']
        exact (Call.run_steady self k' _ _ _ hs1 hV hf1).1
      · intro hpa
        rw [hm2, hm1, hv]
        exact if_neg hpa
      · simp only [List.mem_append]
        rintro x (hx | hx)
        · exact (hm2.trans hm1) ▸ hq1 x hx
        · exact hm2 ▸ hq2 x hx

private theorem listNetworks_mem_of_count_pos {l : List Effect}
    (h : 0 < (l.filter Effect.isListNetworks).length) : Effect.listNetworks ∈ l := by
  obtain ⟨x, hx⟩ := List.exists_mem_of_length_pos h
  obtain ⟨hxl, hxn⟩ := List.mem_filter.mp hx
  cases x <;> first | exact hxl | cases hxn

private theorem count_eq_zero_of_quiet {c : Config} {m : NetworkMapper} {l : List Effect}
    (h : ∀ e ∈ l, QuietEffect c m e) : (l.filter Effect.isListNetworks).length = 0 := by
  rw [List.length_eq_zero, List.filter_eq_nil_iff]
  exact fun e he => by simp [(h e he).1]

/-- A prefix of `A ++ B` that stops before an element outside `A` extends `A`. -/
private theorem prefix_of_append_eq {A B P Q : List Effect} {x : Effect} (h : A ++ B = P ++ x :: Q)
    (hx : x ∉ A) : A <+: P := by
  rcases List.append_eq_append_iff.mp h with ⟨a', rfl, -⟩ | ⟨c', rfl, hc⟩
  · exact List.prefix_append _ _
  · cases c' with
    | nil => simp
    | cons y c' =>
      rw [List.cons_append, List.cons.injEq] at hc
      exact absurd (hc.1 ▸ List.mem_append_right _ (List.mem_cons_self _ _)) hx

/-- Any sequence of the framework's calls on one instance: every call replies as it
    would on a fresh instance; a stored config and a cached layout are never replaced,
    and every role of the cached layout holds the stored config; the host's networks are
    fetched at most once, and only for a config with public addresses; and every
    `ctdb.json` is written after that fetch, with the fetched inventory. -/
theorem calls_memoise (self : SMB) (ks ks' : List Call) :
    (runCalls self ks SMBState.init).replies =
      ks.map (fun k => (k.run self SMBState.init).result) ∧
    (∀ c, (runCalls self ks SMBState.init).state.instanceCfg = some c →
      (runCalls self (ks ++ ks') SMBState.init).state.instanceCfg = some c) ∧
    (∀ l, (runCalls self ks SMBState.init).state.cachedLayout = some l →
      (runCalls self (ks ++ ks') SMBState.init).state.cachedLayout = some l ∧
      ∃ c, (runCalls self ks SMBState.init).state.instanceCfg = some c ∧
        ∀ r ∈ l.containers, r.cfg = c) ∧
    ((runCalls self ks SMBState.init).effects.filter Effect.isListNetworks).length ≤ 1 ∧
    (.listNetworks ∈ (runCalls self ks SMBState.init).effects →
      ∃ c, (runCalls self ks SMBState.init).state.instanceCfg = some c ∧
        c.clusterPublicAddrs ≠ []) ∧
    ∀ pre path v post,
      (runCalls self ks SMBState.init).effects = pre ++ .writeJson path v :: post →
      ∃ c, (runCalls self ks SMBState.init).state.instanceCfg = some c ∧
        v = ctdbStubConfig c (runCalls self ks SMBState.init).state.networkMapper ∧
        (c.clusterPublicAddrs ≠ [] → .listNetworks ∈ pre ∧
          (runCalls self ks SMBState.init).state.networkMapper = ⟨self.host.listNetworks 0⟩) := by
  obtain ⟨hr, ⟨hst, he⟩ | ⟨c, pre, post, hs, heq, hpre, hcount, hmap, hpost⟩⟩ :=
    runCalls_init self ks
  · -- never validated: nothing is stored, and only `getfqdn` ran
    have hne (x : Effect) (hx : x ∈ (runCalls self ks SMBState.init).effects)
        (h : x ≠ .getfqdn) : False := h (he x hx)
    refine ⟨hr, fun _ h => (by rw [hst] at h; cases h), fun _ h => (by rw [hst] at h; cases h), ?_,
      fun h => (hne .listNetworks h nofun).elim, fun pre path v post h =>
        (hne (.writeJson path v) (h ▸ List.mem_append_right _ (List.mem_cons_self _ _))
          nofun).elim⟩
    rw [List.filter_eq_nil_iff.2 fun e he' => by simp [he e he', Effect.isListNetworks]]
    exact Nat.zero_le 1
  · -- validated: the config and the layout cache only grow
    have hfinal := runCalls_settled self ks' hs
    have hin : ∀ x ∈ pre ++ post, x ∉ pre →
        QuietEffect c (runCalls self ks SMBState.init).state.networkMapper x :=
      fun x hx hxp => hpost x ((List.mem_append.mp hx).resolve_left hxp)
    rw [runCalls_append_state]
    refine ⟨hr, fun c' h => ?_, fun l hl => ?_, ?_, fun h => ?_, fun P path v Q h => ?_⟩
    · rw [hs.1] at h
      exact h ▸ hfinal.2.1.1
    · have hl' : l = specLayout c := by
        rcases hs.2 with h' | h' <;> rw [h'] at hl <;> cases hl
        rfl
      subst hl'
      refine ⟨?_, c, hs.1, specLayout_cfg⟩
      rcases hfinal.2.1.2 with h' | h'
      · rw [hfinal.2.2.2.1 h'] at hl
        cases hl
      · exact h'
    · rw [heq, List.filter_append, List.length_append, count_eq_zero_of_quiet hpost, hcount]
      split_ifs <;> decide
    · rw [heq] at h
      have hp : Effect.listNetworks ∈ pre := by
        by_contra hp
        exact absurd (hin _ h hp).1 (by decide)
      refine ⟨c, hs.1, fun hc => ?_⟩
      have := List.length_pos_of_mem
        (List.mem_filter.mpr ⟨hp, rfl⟩ : Effect.listNetworks ∈ pre.filter Effect.isListNetworks)
      rw [hcount, if_pos hc] at this
      exact absurd this (by decide)
    · rw [heq] at h
      have hw : Effect.writeJson path v ∉ pre := fun hw => by
        rcases hpre _ hw with h' | h' <;> cases h'
      have hq := hin _ (h ▸ List.mem_append_right _ (List.mem_cons_self _ _)) hw
      refine ⟨c, hs.1, hq.2 path v rfl, fun hc => ⟨?_, hmap hc⟩⟩
      refine (prefix_of_append_eq h hw).subset (listNetworks_mem_of_count_pos ?_)
      rw [hcount, if_neg hc]
      exact Nat.one_pos

end CephadmSmb
