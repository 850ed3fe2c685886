-- SUMMARY: What the version probe reports: when smbd -V exits with 0, exactly group 1 of the leftmost match of Version\s*([\d.]+) in its output, the longest run of decimal digits of any script and dots there; None otherwise.
import CephadmSmb.Daemon.Version

/-!
# The version probe's answer

The scan of `Py.reSearch` and `versionAt` against what the pattern means. A text
matches `Version\s*([\d.]+)` from its start when it is `Version`, then blanks, then a
non-empty run of digits and dots, then anything (`VersionMatch`). `re.search` reports
the group of the match at the leftmost position where one exists, and there the group
is as long as the digits and dots go (`FirstVersion`).

`reSearch_versionAt_iff` proves the scan computes exactly that, for every text, from
two facts: the search returns the match at the first position that has one
(`Py.reSearch_eq_some_iff`), and at one position the greedy scan finds a group exactly
when the pattern matches there, the longest (`versionAt_eq_some_iff`,
`versionAt_of_versionMatch`). `getVersion_reports_first_version` then says what
`get_version` returns for every answer of the command it runs.
-/

namespace CephadmSmb

-- ---------------------------------------------------------------------------
-- re.search
-- ---------------------------------------------------------------------------

namespace Py

/-- `re.search` returns the match at the first position where the pattern matches. -/
theorem reSearch_eq_some_iff {α : Type} {m : List Char → Option α} {cs : List Char} {a : α} :
    reSearch m cs = some a ↔ ∃ i, m (cs.drop i) = some a ∧ ∀ j < i, m (cs.drop j) = none := by
  induction cs with
  | nil =>
    refine ⟨fun h => ⟨0, h, nofun⟩, ?_⟩
    rintro ⟨i, h, -⟩
    rwa [List.drop_nil] at h
  | cons c cs ih =>
    cases hc : m (c :: cs) with
    | some b =>
      simp only [reSearch, hc, Option.some.injEq]
      refine ⟨fun h => ⟨0, h ▸ hc, nofun⟩, ?_⟩
      rintro ⟨_ | i, h, hfirst⟩
      · exact Option.some.inj (hc.symm.trans h)
      · exact absurd (hfirst 0 (Nat.succ_pos i)) (by simp [hc])
    | none =>
      simp only [reSearch, hc, ih]
      constructor
      · rintro ⟨i, h, hfirst⟩
        refine ⟨i + 1, h, fun j hj => ?_⟩
        cases j with
        | zero => exact hc
        | succ j => exact hfirst j (by omega)
      · rintro ⟨_ | i, h, hfirst⟩
        · exact absurd (hc.symm.trans h) nofun
        · exact ⟨i, h, fun j hj => hfirst (j + 1) (by omega)⟩

end Py

-- ---------------------------------------------------------------------------
-- The pattern at one position
-- ---------------------------------------------------------------------------

/-- `Version\s*([\d.]+)` matches the start of `t` with group `g`, and `post` follows the
    match. -/
def VersionMatch (t g post : List Char) : Prop :=
  ∃ ws, t = "Version".data ++ ws ++ g ++ post ∧ (∀ c ∈ ws, Py.isSpace c) ∧ g ≠ [] ∧
    ∀ c ∈ g, isVersionChar c

/-- No digit or dot is whitespace: `\s*` and `[\d.]+` never compete for a character. -/
theorem isSpace_eq_false_of_isVersionChar {c : Char} (h : isVersionChar c) : Py.isSpace c = false := by
  rcases Bool.or_eq_true_iff.1 h with h | h
  · exact Py.isSpace_eq_false_of_isDecimal h
  · rw [eq_of_beq h]
    rfl

/-- Wherever the pattern matches, the scan finds a group: the one matched, extended by
    the digits and dots after it. -/
theorem versionAt_of_versionMatch {t g post : List Char} (h : VersionMatch t g post) :
    versionAt t = some ⟨g ++ post.takeWhile isVersionChar⟩ := by
  obtain ⟨ws, rfl, hws, hg, hgv⟩ := h
  obtain ⟨c, g', rfl⟩ := List.exists_cons_of_ne_nil hg
  have hc : Py.isSpace c = false := isSpace_eq_false_of_isVersionChar (hgv c (List.mem_cons_self c g'))
  rw [versionAt, List.append_assoc, List.append_assoc,
    List.dropPrefix?_append_of_beq _ (beq_self_eq_true _), Option.some_bind,
    List.dropWhile_append_of_pos hws, List.cons_append,
    List.dropWhile_cons_of_neg (p := Py.isSpace) (by simp [hc]), ← List.cons_append,
    List.takeWhile_append_of_pos hgv, if_neg (by simp)]

/-- The scan at one position finds group `g` exactly when the pattern matches there with
    that group and no digit or dot follows it. -/
theorem versionAt_eq_some_iff {t : List Char} {g : String} :
    versionAt t = some g ↔
      ∃ post, VersionMatch t g.data post ∧ ∀ c ∈ post.head?, isVersionChar c = false := by
  constructor
  · intro h
    obtain ⟨rest, hp, hg⟩ := Option.bind_eq_some.1 h
    obtain ⟨p', rfl, hp'⟩ := List.dropPrefix?_eq_some_iff.1 hp
    have hgd : (rest.dropWhile Py.isSpace).takeWhile isVersionChar = g.data ∧ g.data ≠ [] := by
      dsimp only at hg
      split_ifs at hg with he
      obtain rfl := Option.some.inj hg
      exact ⟨rfl, he⟩
    refine ⟨(rest.dropWhile Py.isSpace).dropWhile isVersionChar,
      ⟨rest.takeWhile Py.isSpace, ?_, fun c hc => List.mem_takeWhile_imp hc, hgd.2,
        fun c hc => List.mem_takeWhile_imp (hgd.1 ▸ hc)⟩, fun c hc => ?_⟩
    · rw [eq_of_beq hp', ← hgd.1, List.append_assoc, List.append_assoc, List.takeWhile_append_dropWhile,
        List.takeWhile_append_dropWhile]
    · have := List.head?_dropWhile_not isVersionChar (rest.dropWhile Py.isSpace)
      rwa [Option.mem_def.1 hc] at this
  · rintro ⟨post, hm, hpost⟩
    have hnil : post.takeWhile isVersionChar = [] := by
      cases post with
      | nil => rfl
      | cons c r => exact List.takeWhile_cons_of_neg (by simp [hpost c rfl])
    rw [versionAt_of_versionMatch hm, hnil, List.append_nil]

-- ---------------------------------------------------------------------------
-- The search
-- ---------------------------------------------------------------------------

/-- What `re.search(r'Version\s*([\d.]+)', out).group(1)` is by the pattern's meaning: the
    group of a match at the leftmost position where the pattern matches at all, as long as
    the digits and dots there go. -/
def FirstVersion (out : List Char) (g : String) : Prop :=
  ∃ i post, VersionMatch (out.drop i) g.data post ∧ (∀ c ∈ post.head?, isVersionChar c = false) ∧
    ∀ j g' post', VersionMatch (out.drop j) g' post' → i ≤ j

/-- The scan computes `FirstVersion`, on every text. -/
theorem reSearch_versionAt_iff (out : List Char) (g : String) :
    Py.reSearch versionAt out = some g ↔ FirstVersion out g := by
  rw [Py.reSearch_eq_some_iff]
  constructor
  · rintro ⟨i, hi, hfirst⟩
    obtain ⟨post, hm, hpost⟩ := versionAt_eq_some_iff.1 hi
    refine ⟨i, post, hm, hpost, fun j g' post' hj => Nat.le_of_not_lt fun hlt => ?_⟩
    have := hfirst j hlt
    rw [versionAt_of_versionMatch hj] at this
    exact absurd this nofun
  · rintro ⟨i, post, hm, hpost, hfirst⟩
    refine ⟨i, versionAt_eq_some_iff.2 ⟨post, hm, hpost⟩, fun j hj => ?_⟩
    cases h : versionAt (out.drop j) with
    | none => rfl
    | some g' =>
      obtain ⟨post', hm', -⟩ := versionAt_eq_some_iff.1 h
      exact absurd (hfirst j _ _ hm') (by omega)

/-- `get_version` reports the search's group exactly when the command exits with 0. -/
theorem getVersion_eq_some_iff {call : List String → String × String × Int}
    {enginePath containerId v : String} :
    SMB.getVersion call enginePath containerId = some v ↔
      (call [enginePath, "exec", containerId, daemonBase, "-V"]).2.2 = 0 ∧
        Py.reSearch versionAt (call [enginePath, "exec", containerId, daemonBase, "-V"]).1.data =
          some v :=
  Option.ite_none_right_eq_some

/-- For every answer of the container to `smbd -V`: `get_version` returns `v` exactly when
    the command exited with 0 and `v` is group 1 of the leftmost match of
    `Version\s*([\d.]+)` in its output, as long as the digits and dots there go; it
    returns `None` when the command fails or nothing in the output matches. -/
theorem getVersion_reports_first_version (call : List String → String × String × Int)
    (enginePath containerId v : String) :
    SMB.getVersion call enginePath containerId = some v ↔
      (call [enginePath, "exec", containerId, "/usr/sbin/smbd", "-V"]).2.2 = 0 ∧
        FirstVersion (call [enginePath, "exec", containerId, "/usr/sbin/smbd", "-V"]).1.data v := by
  rw [getVersion_eq_some_iff, reSearch_versionAt_iff]
  rfl

end CephadmSmb
