-- SUMMARY: Python values the SMB daemon form handles: its exceptions, string-keyed dicts, set iteration order and JSON data.
import Mathlib.Data.List.Dedup

/-!
# Python values

The few Python runtime notions that `cephadmlib/daemons/smb.py` relies on, each as
plain data:

* `PyExc`, the exceptions a method of the daemon form can raise;
* `PyDict`, a `dict` with string keys, whose items keep insertion order and whose
  keys are distinct by construction (assignment to a present key replaces its value
  in place);
* `SetOrder`, the iteration order of a `set` of strings, which depends on the
  process's hash seed and is therefore taken as given;
* `JsonValue`, the JSON documents the form writes to disk.
-/

namespace CephadmSmb

/-- The exceptions the modelled code can raise. -/
inductive PyExc
  /-- `cephadmlib.exceptions.Error`, with its message. -/
  | error (msg : String)
  /-- `ValueError` raised by `int()`, with the literal it could not read. -/
  | valueError (literal : String)
  /-- `KeyError` raised by a subscript on a missing key. -/
  | keyError (key : String)
  /-- A failed `assert` statement. -/
  | assertionError
  deriving DecidableEq, Repr

-- ---------------------------------------------------------------------------
-- Dicts
-- ---------------------------------------------------------------------------

/-- A Python `dict` with string keys: its items in insertion order, each key once. -/
structure PyDict (β : Type) where
  items : List (String × β)
  nodup : (items.map Prod.fst).Nodup
  deriving DecidableEq

namespace PyDict

variable {β : Type}

/-- `{}`. -/
def empty : PyDict β := ⟨[], List.nodup_nil⟩

/-- The keys, in insertion order. -/
def keys (d : PyDict β) : List String := d.items.map Prod.fst

/-- `d.get(k)`: the value stored under `k`, if any. -/
def get? (d : PyDict β) (k : String) : Option β := d.items.lookup k

/-- Truthiness of a dict: it holds at least one item. -/
def isEmpty (d : PyDict β) : Bool := d.items.isEmpty

private theorem keys_replace (items : List (String × β)) (k : String) (v : β) :
    (items.map fun p => if p.1 = k then (k, v) else p).map Prod.fst = items.map Prod.fst := by
  induction items with
  | nil => rfl
  | cons p items ih => by_cases h : p.1 = k <;> simp [h, ih]

/-- `d[k] = v`: a present key keeps its position and takes the new value, a new key
    goes last. Irreducible, so that proofs go through `items_insert` and never unfold
    the `nodup` proofs of nested assignments. -/
@[irreducible] def insert (d : PyDict β) (k : String) (v : β) : PyDict β :=
  if h : k ∈ d.keys then
    ⟨d.items.map fun p => if p.1 = k then (k, v) else p, by rw [keys_replace]; exact d.nodup⟩
  else
    ⟨d.items ++ [(k, v)], by
      rw [List.map_append, List.nodup_append]
      exact ⟨d.nodup, List.nodup_singleton _, fun a ha hk => h (by rw [List.mem_singleton.mp hk] at ha; exact ha)⟩⟩

@[simp] theorem empty_items : (empty : PyDict β).items = [] := rfl

@[simp] theorem keys_def (d : PyDict β) : d.keys = d.items.map Prod.fst := rfl

/-- `insert` on the items alone, so that rewriting never carries the `nodup` proofs. -/
theorem items_insert (d : PyDict β) (k : String) (v : β) :
    (d.insert k v).items =
      if k ∈ d.items.map Prod.fst then d.items.map (fun p => if p.1 = k then (k, v) else p)
      else d.items ++ [(k, v)] := by
  unfold insert keys
  split <;> rfl

theorem get?_def (d : PyDict β) (k : String) : d.get? k = d.items.lookup k := rfl

/-- `d.update(kvs)`: `d[k] = v` for each pair, in order. -/
def update (d : PyDict β) (kvs : List (String × β)) : PyDict β :=
  kvs.foldl (fun d kv => d.insert kv.1 kv.2) d

private theorem lookup_cons_ite (a k : String) (b : β) (es : List (String × β)) :
    ((a, b) :: es).lookup k = if k = a then some b else es.lookup k := by
  rw [List.lookup_cons]
  cases h : k == a <;> simp_all

private theorem lookup_eq_none_of_not_mem {items : List (String × β)} {k : String}
    (h : k ∉ items.map Prod.fst) : items.lookup k = none :=
  List.lookup_eq_none_iff.2 fun _ hp =>
    bne_iff_ne.2 fun e => h (e ▸ List.mem_map_of_mem Prod.fst hp)

private theorem lookup_eq_some_iff {items : List (String × β)} (hn : (items.map Prod.fst).Nodup)
    {k : String} {v : β} : items.lookup k = some v ↔ (k, v) ∈ items := by
  induction items with
  | nil => simp
  | cons p items ih =>
    obtain ⟨a, b⟩ := p
    rw [List.map_cons, List.nodup_cons] at hn
    rw [lookup_cons_ite, List.mem_cons, ← ih hn.2]
    by_cases hk : k = a
    · subst hk
      simp [lookup_eq_none_of_not_mem hn.1, eq_comm]
    · simp [hk]

/-- A key reads as the value stored with it. -/
theorem get?_eq_some_iff (d : PyDict β) {k : String} {v : β} :
    d.get? k = some v ↔ (k, v) ∈ d.items :=
  lookup_eq_some_iff d.nodup

/-- `update` with keys new to the dict and to each other appends the pairs. -/
theorem items_update (d : PyDict β) {kvs : List (String × β)}
    (h : (d.keys ++ kvs.map Prod.fst).Nodup) : (d.update kvs).items = d.items ++ kvs := by
  induction kvs generalizing d with
  | nil => exact (List.append_nil _).symm
  | cons kv kvs ih =>
    have hk : kv.1 ∉ d.items.map Prod.fst := fun hk =>
      List.disjoint_of_nodup_append h hk (List.mem_cons_self _ _)
    show (update (d.insert kv.1 kv.2) kvs).items = _
    have hins : (d.insert kv.1 kv.2).items = d.items ++ [kv] := by
      rw [items_insert, if_neg hk]
    rw [ih, hins, List.append_assoc, List.singleton_append]
    rw [keys_def, hins, List.map_append, List.append_assoc]
    simpa using h

end PyDict

-- ---------------------------------------------------------------------------
-- Sets
-- ---------------------------------------------------------------------------

/-- The order in which one Python process iterates a `set` of strings built from the
    given insertions. It depends on the process's string hash seed, so the model takes
    it as given; whatever it is, it lists every element once. -/
structure SetOrder where
  arrange : List String → List String
  perm : ∀ xs, (arrange xs).Perm xs.dedup

/-- A set order that iterates in first-insertion order, for evaluating the model. -/
def SetOrder.insertion : SetOrder where
  arrange xs := xs.reverse.dedup.reverse
  perm xs := (List.reverse_perm _).trans (List.reverse_perm xs).dedup

theorem SetOrder.mem_arrange_iff (o : SetOrder) {xs : List String} {x : String} :
    x ∈ o.arrange xs ↔ x ∈ xs :=
  (o.perm xs).mem_iff.trans List.mem_dedup

-- ---------------------------------------------------------------------------
-- JSON
-- ---------------------------------------------------------------------------

/-- The JSON documents the daemon form builds: strings, lists and objects. -/
inductive JsonValue
  | str (s : String)
  | list (items : List JsonValue)
  | dict (items : List (String × JsonValue))
  deriving Repr

end CephadmSmb
