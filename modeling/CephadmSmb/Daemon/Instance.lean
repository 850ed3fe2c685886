-- SUMMARY: The SMB daemon form instance: its fixed attributes, its mutable caches, the host it asks, and the monad its methods run in.
import CephadmSmb.Daemon.Containers
import CephadmSmb.Daemon.NetworkMapper

/-!
# The SMB instance

`SMB.__init__` sets two kinds of attributes. Some are never reassigned by the class:
the identity, the raw configs, the rank info, the two ports and the default image;
they form the structure `SMB`, which every method takes as `self`. The others are the
caches `validate` and `_layout` fill, and the network mapper's inventory; they form
`SMBState`, threaded through the methods by the monad `SMBM`.

A method call produces an `Outcome`: the value it returns or the exception it raises,
the state afterwards (an exception keeps what was assigned before it), and the host
operations it performed, in order. The host answers `socket.getfqdn()` with a fixed
name, but `list_networks` with the inventory of the moment: the answer to the `k`-th
fetch. `SMBState.fetches` counts the fetches so far, so that the model can tell one
fetch from two.
-/

namespace CephadmSmb

/-- The operations on the host that the modelled methods perform. -/
inductive Effect
  /-- `socket.getfqdn()` -/
  | getfqdn
  /-- `host_facts.list_networks(ctx)` -/
  | listNetworks
  /-- `file_utils.makedirs(path, uid, gid, mode)` -/
  | makedirs (path : String) (uid gid : Int) (mode : Nat)
  /-- `file_utils.populate_files(data_dir, files, uid, gid)` -/
  | populateFiles (dataDir : String) (files : PyDict String) (uid gid : Int)
  /-- `json.dump(value, fh)` into `file_utils.write_new(path)` -/
  | writeJson (path : String) (value : JsonValue)
  /-- lines written into `file_utils.write_new(path)` -/
  | writeText (path : String) (text : String)

/-- Whether an effect is a fetch of the host's networks. -/
def Effect.isListNetworks : Effect → Bool
  | .listNetworks => true
  | _ => false

/-- The host and Python process an instance runs in. -/
structure Host where
  /-- what `socket.getfqdn()` returns -/
  fqdn : String
  /-- what the `k`-th call of `list_networks` returns -/
  listNetworks : Nat → PyDict (List String)
  /-- the process's iteration order of string sets -/
  setOrder : SetOrder

/-- The attributes of an `SMB` instance that no method reassigns, and its host. -/
structure SMB where
  /-- `_identity` -/
  identity : DaemonIdentity
  /-- `_raw_configs` -/
  rawConfigs : RawConfig
  /-- `_rank_info` -/
  rankInfo : Int × Int
  /-- `smb_port` -/
  smbPort : Int
  /-- `metrics_port` -/
  metricsPort : Int
  /-- `SMB.default_image`, the constant `DEFAULT_SAMBA_IMAGE` -/
  defaultImage : String
  host : Host

/-- `SMB(ctx, ident)`: the daemon type is asserted, an absent rank info becomes
    `(-1, -1)` and the ports are 445 and 9922. -/
def SMB.create (ident : DaemonIdentity) (raw : RawConfig) (rankInfo : Option (Int × Int))
    (defaultImage : String) (host : Host) : Except PyExc SMB :=
  if ident.daemonType = "smb" then
    .ok { identity := ident, rawConfigs := raw, rankInfo := rankInfo.getD (-1, -1),
          smbPort := 445, metricsPort := 9922, defaultImage, host }
  else .error .assertionError

/-- `SMB.for_daemon_type(daemon_type)`. -/
def SMB.forDaemonType (daemonType : String) : Bool :=
  "smb" == daemonType

/-- `SMB.uid_gid(ctx)`: the containers run as root. -/
def SMB.uidGid : Int × Int := (0, 0)

/-- The attributes of an `SMB` instance that its methods assign. -/
structure SMBState where
  /-- `_instance_cfg` -/
  instanceCfg : Option Config := none
  /-- `_files` -/
  files : PyDict String := PyDict.empty
  /-- `_cached_layout` -/
  cachedLayout : Option ContainerLayout := none
  /-- `_network_mapper` -/
  networkMapper : NetworkMapper := ⟨PyDict.empty⟩
  /-- how many times the instance has fetched the host's networks -/
  fetches : Nat := 0
  deriving DecidableEq

/-- The state `SMB.__init__` leaves. -/
def SMBState.init : SMBState := {}

-- ---------------------------------------------------------------------------
-- The method monad
-- ---------------------------------------------------------------------------

/-- What one method call produces. -/
structure Outcome (α : Type) where
  result : Except PyExc α
  state : SMBState
  effects : List Effect

/-- A method of the instance. -/
def SMBM (α : Type) : Type := SMBState → Outcome α

instance : Monad SMBM where
  pure a s := ⟨.ok a, s, []⟩
  bind x f s :=
    match x s with
    | ⟨.ok a, s', es⟩ => { f a s' with effects := es ++ (f a s').effects }
    | ⟨.error e, s', es⟩ => ⟨.error e, s', es⟩

namespace SMBM

variable {α β : Type}

/-- Read the instance's attributes. -/
def get : SMBM SMBState := fun s => ⟨.ok s, s, []⟩

/-- Assign attributes of the instance. -/
def modify (f : SMBState → SMBState) : SMBM Unit := fun s => ⟨.ok (), f s, []⟩

/-- `raise e`. -/
def raise (e : PyExc) : SMBM α := fun s => ⟨.error e, s, []⟩

/-- Run a computation that cannot touch the instance. -/
def lift (x : Except PyExc α) : SMBM α := fun s => ⟨x, s, []⟩

/-- Perform an operation on the host that returns nothing. -/
def perform (e : Effect) : SMBM Unit := fun s => ⟨.ok (), s, [e]⟩

@[simp] theorem pure_apply (a : α) (s : SMBState) :
    (pure a : SMBM α) s = ⟨.ok a, s, []⟩ := rfl

@[simp] theorem bind_apply (x : SMBM α) (f : α → SMBM β) (s : SMBState) :
    (x >>= f) s =
      match x s with
      | ⟨.ok a, s', es⟩ => { f a s' with effects := es ++ (f a s').effects }
      | ⟨.error e, s', es⟩ => ⟨.error e, s', es⟩ := rfl

@[simp] theorem get_apply (s : SMBState) : get s = ⟨.ok s, s, []⟩ := rfl

@[simp] theorem modify_apply (f : SMBState → SMBState) (s : SMBState) :
    modify f s = ⟨.ok (), f s, []⟩ := rfl

@[simp] theorem raise_apply (e : PyExc) (s : SMBState) :
    (raise e : SMBM α) s = ⟨.error e, s, []⟩ := rfl

@[simp] theorem lift_apply (x : Except PyExc α) (s : SMBState) :
    lift x s = ⟨x, s, []⟩ := rfl

@[simp] theorem perform_apply (e : Effect) (s : SMBState) :
    perform e s = ⟨.ok (), s, [e]⟩ := rfl

/-- A step that returns without touching the host hands its value and state on. -/
theorem bind_apply_of_ok {x : SMBM α} {f : α → SMBM β} {s s' : SMBState} {a : α}
    (hx : x s = ⟨.ok a, s', []⟩) : (x >>= f) s = f a s' := by
  simp only [bind_apply, hx, List.nil_append]

theorem bind_apply_of_eq {x : SMBM α} {f : α → SMBM β} {s s' : SMBState} {a : α}
    {es : List Effect} (hx : x s = ⟨.ok a, s', es⟩) :
    (x >>= f) s = { f a s' with effects := es ++ (f a s').effects } := by
  simp only [bind_apply, hx]

theorem get_bind_apply (f : SMBState → SMBM β) (s : SMBState) : (get >>= f) s = f s s :=
  bind_apply_of_ok rfl

theorem pure_bind_apply (a : α) (f : α → SMBM β) (s : SMBState) : (pure a >>= f) s = f a s :=
  bind_apply_of_ok rfl

theorem modify_bind_apply (g : SMBState → SMBState) (f : Unit → SMBM β) (s : SMBState) :
    (modify g >>= f) s = f () (g s) :=
  bind_apply_of_ok rfl

theorem perform_bind_apply (e : Effect) (f : Unit → SMBM β) (s : SMBState) :
    (perform e >>= f) s = { f () s with effects := e :: (f () s).effects } :=
  bind_apply_of_eq rfl

theorem bind_assoc_apply {γ : Type} (x : SMBM α) (f : α → SMBM β) (g : β → SMBM γ)
    (s : SMBState) : ((x >>= f) >>= g) s = (x >>= fun a => f a >>= g) s := by
  simp only [bind_apply]
  rcases x s with ⟨_ | a, s1, e1⟩
  · rfl
  · rcases hf : f a s1 with ⟨_ | b, s2, e2⟩ <;> simp [hf]

theorem ite_apply {p : Prop} [Decidable p] (x y : SMBM α) (s : SMBState) :
    (if p then x else y) s = if p then x s else y s := by
  split <;> rfl

private theorem mapM_loop_apply_of_pure {f : α → SMBM β} {g : α → β} {s : SMBState} {l : List α}
    (h : ∀ a ∈ l, f a s = ⟨.ok (g a), s, []⟩) (acc : List β) :
    List.mapM.loop f l acc s = ⟨.ok (acc.reverse ++ l.map g), s, []⟩ := by
  induction l generalizing acc with
  | nil => show (pure acc.reverse : SMBM _) s = _; simp
  | cons a l ih =>
    show (f a >>= fun b => List.mapM.loop f l (b :: acc)) s = _
    rw [bind_apply_of_ok (h a (List.mem_cons_self _ _)),
      ih (fun a' ha' => h a' (List.mem_cons_of_mem _ ha'))]
    simp

/-- A `mapM` whose every step returns without touching the instance or the host. -/
theorem mapM_apply_of_pure {f : α → SMBM β} {g : α → β} {s : SMBState} {l : List α}
    (h : ∀ a ∈ l, f a s = ⟨.ok (g a), s, []⟩) : l.mapM f s = ⟨.ok (l.map g), s, []⟩ :=
  mapM_loop_apply_of_pure h []

end SMBM

end CephadmSmb
