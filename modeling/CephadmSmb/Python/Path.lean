-- SUMMARY: pathlib.PurePosixPath as the SMB daemon form uses it: a path from a string, the / operator, and str() of a path, which reads back as the same path.
import CephadmSmb.Python.Text

/-!
# POSIX paths

`pathlib.Path` on a POSIX host, as far as `smb.py` uses it: a path made from a string,
joined with a string by `/`, and turned back into a string by `str`. A path is its
root and its parts, as `_PosixFlavour.parse_parts` of CPython 3.11 computes them. The
root is `//` when the text starts with exactly two slashes, which POSIX leaves to the
implementation, `/` when it starts with one or with more than two, and empty otherwise.
The parts are the text split at `/`, without the empty parts and `.`: repeated and
trailing slashes and `.` vanish from a path, and `..` stays. Joining a relative path
appends its parts; an anchored one replaces the path on the left.

A `PurePath` carries the well-formedness of its root and parts, so that every path
reads back from its text (`ofString_str`) and two paths with the same text are the
same path (`str_injective`).
-/

namespace CephadmSmb.Py

/-- A part of a path: a non-empty name other than `.`, without a slash. -/
def IsPart (x : String) : Prop :=
  x ≠ "" ∧ x ≠ "." ∧ '/' ∉ x.data

/-- A `pathlib.PurePosixPath`: its root and its parts after the root. -/
@[ext]
structure PurePath where
  root : String
  parts : List String
  root_wf : root = "" ∨ root = "/" ∨ root = "//"
  parts_wf : ∀ x ∈ parts, IsPart x

namespace PurePath

/-- The root `_PosixFlavour.splitroot` finds in a text: `//` for exactly two leading
    slashes, `/` for one or more than two, and none otherwise. -/
def rootOf (cs : List Char) : String :=
  match (cs.takeWhile (· = '/')).length with
  | 0 => ""
  | 2 => "//"
  | _ => "/"

/-- The parts of a path's text: the text split at `/`, without the empty parts and `.`. -/
def partsOf (cs : List Char) : List String :=
  ((cs.splitOn '/').map String.mk).filter fun x => x ≠ "" ∧ x ≠ "."

theorem rootOf_wf (cs : List Char) : rootOf cs = "" ∨ rootOf cs = "/" ∨ rootOf cs = "//" := by
  unfold rootOf
  split <;> simp

private theorem not_mem_of_mem_splitOn : ∀ {cs l : List Char}, l ∈ cs.splitOn '/' → '/' ∉ l
  | [], l, h => by simp_all
  | c :: cs, l, h => by
    rw [List.splitOn, List.splitOnP_cons] at h
    obtain ⟨l₀, ls, hsplit⟩ := List.exists_cons_of_ne_nil (List.splitOnP_ne_nil (· == '/') cs)
    have ih : ∀ l ∈ l₀ :: ls, '/' ∉ l := fun l hl =>
      not_mem_of_mem_splitOn (by rw [List.splitOn, hsplit]; exact hl)
    split_ifs at h with hc
    · rcases List.mem_cons.1 h with rfl | h
      · exact List.not_mem_nil _
      · exact ih l (hsplit ▸ h)
    · rw [hsplit, List.modifyHead_cons] at h
      rcases List.mem_cons.1 h with rfl | h
      · simp only [beq_iff_eq] at hc
        exact List.not_mem_cons_of_ne_of_not_mem (Ne.symm hc) (ih l₀ (List.mem_cons_self _ _))
      · exact ih l (List.mem_cons_of_mem _ h)

theorem partsOf_wf (cs : List Char) : ∀ x ∈ partsOf cs, IsPart x := by
  intro x hx
  simp only [partsOf, List.mem_filter, List.mem_map, decide_eq_true_eq] at hx
  obtain ⟨⟨l, hl, rfl⟩, hne, hdot⟩ := hx
  exact ⟨hne, hdot, not_mem_of_mem_splitOn hl⟩

/-- `pathlib.PurePosixPath(s)`. -/
def ofString (s : String) : PurePath :=
  ⟨rootOf s.data, partsOf s.data, rootOf_wf s.data, partsOf_wf s.data⟩

/-- `p / q` (`PurePath.__truediv__`): a relative `q` adds its parts to `p`'s, an
    anchored one replaces `p`. -/
def div (p q : PurePath) : PurePath :=
  if q.root = "" then
    ⟨p.root, p.parts ++ q.parts, p.root_wf, List.forall_mem_append.2 ⟨p.parts_wf, q.parts_wf⟩⟩
  else q

/-- `p / s` for a string `s`. -/
instance : HDiv PurePath String PurePath :=
  ⟨fun p s => p.div (ofString s)⟩

/-- `str(p)`: the root, then the parts joined by `/`; `.` for the empty relative path. -/
def str (p : PurePath) : String :=
  if p.root = "" ∧ p.parts = [] then "." else p.root ++ "/".intercalate p.parts

instance : ToString PurePath :=
  ⟨str⟩

example : toString (ofString "/var/lib//ceph/./fsid/" / "ctdb/smb.conf") =
    "/var/lib/ceph/fsid/ctdb/smb.conf" := by decide
example : toString (ofString "//srv" / "run") = "//srv/run" ∧
    toString (ofString "///srv" / "run") = "/srv/run" ∧ toString (ofString "" / "run") = "run" := by
  decide

theorem hDiv_eq (p : PurePath) (s : String) : p / s = p.div (ofString s) :=
  rfl

theorem toString_eq (p : PurePath) : toString p = p.str :=
  rfl

/-- Joining a relative path keeps the root and appends the parts. -/
theorem div_of_root_eq_empty {p q : PurePath} (hq : q.root = "") :
    (p.div q).root = p.root ∧ (p.div q).parts = p.parts ++ q.parts := by
  simp only [div, if_pos hq, and_self]

-- ---------------------------------------------------------------------------
-- Reading a path back from its text
-- ---------------------------------------------------------------------------

/-- The text of non-empty parts joined by `/`, split at `/` again, gives the parts. -/
private theorem splitOn_joined (x : String) (xs : List String) (h : ∀ y ∈ x :: xs, IsPart y) :
    (x.data ++ (xs.map fun y => '/' :: y.data).flatten).splitOn '/' =
      (x :: xs).map String.data := by
  induction xs generalizing x with
  | nil =>
    simpa using List.splitOnP_eq_single (· == '/') x.data fun c hc hs =>
      (h x (List.mem_singleton_self x)).2.2 ((beq_iff_eq.1 hs) ▸ hc)
  | cons y ys ih =>
    have hx : ∀ c ∈ x.data, ¬(c == '/') = true := fun c hc hs =>
      (h x (List.mem_cons_self _ _)).2.2 ((beq_iff_eq.1 hs) ▸ hc)
    rw [List.map_cons, List.flatten_cons, List.cons_append, List.splitOn,
      List.splitOnP_first _ _ hx '/' (beq_self_eq_true _), ← List.splitOn,
      ih y fun z hz => h z (List.mem_cons_of_mem _ hz)]
    rfl

/-- The slashes of a root add only empty parts, which are dropped. -/
private theorem partsOf_root_append {r : String} (hr : r = "" ∨ r = "/" ∨ r = "//")
    (cs : List Char) : partsOf (r.data ++ cs) = partsOf cs := by
  rcases hr with rfl | rfl | rfl <;> simp [partsOf, List.splitOn]

private theorem partsOf_joined (x : String) (xs : List String) (h : ∀ y ∈ x :: xs, IsPart y) :
    partsOf (x.data ++ (xs.map fun y => '/' :: y.data).flatten) = x :: xs := by
  rw [partsOf, splitOn_joined x xs h, List.map_map,
    show String.mk ∘ String.data = id from rfl, List.map_id]
  exact List.filter_eq_self.2 fun y hy => by simpa using ⟨(h y hy).1, (h y hy).2.1⟩

private theorem rootOf_root_append {r : String} (hr : r = "" ∨ r = "/" ∨ r = "//") {c : Char}
    (hc : c ≠ '/') (cs : List Char) : rootOf (r.data ++ c :: cs) = r := by
  rcases hr with rfl | rfl | rfl <;> simp [rootOf, List.takeWhile_cons, hc]

/-- `PurePosixPath(str(p)) == p`: a path reads back from its text. -/
theorem ofString_str (p : PurePath) : ofString p.str = p := by
  obtain ⟨r, ps, hr, hps⟩ := p
  cases ps with
  | nil => rcases hr with rfl | rfl | rfl <;> rfl
  | cons x xs =>
    have hxp := hps x (List.mem_cons_self _ _)
    obtain ⟨c, cs, hx⟩ := List.exists_cons_of_ne_nil fun h => hxp.1 (String.ext h)
    have hc : c ≠ '/' := fun h => hxp.2.2 (hx ▸ h ▸ List.mem_cons_self _ _)
    have hdata : (str ⟨r, x :: xs, hr, hps⟩).data =
        r.data ++ (x.data ++ (xs.map fun y => '/' :: y.data).flatten) := by
      simp [str, data_intercalate_cons]
    have hroot := rootOf_root_append hr hc (cs ++ (xs.map fun y => '/' :: y.data).flatten)
    rw [← List.cons_append, ← hx] at hroot
    refine PurePath.ext ?_ ?_
    · show rootOf (str ⟨r, x :: xs, hr, hps⟩).data = r
      rw [hdata, hroot]
    · show partsOf (str ⟨r, x :: xs, hr, hps⟩).data = x :: xs
      rw [hdata, partsOf_root_append hr, partsOf_joined x xs hps]

/-- Two paths with the same text are the same path. -/
theorem str_injective : Function.Injective str := fun p q h => by
  rw [← ofString_str p, h, ofString_str]

theorem ofString_toString (p : PurePath) : ofString (toString p) = p :=
  ofString_str p

/-- Two relative names joined to one path give the same text only when they have the
    same parts. -/
theorem partsOf_eq_of_str_hDiv_eq {p : PurePath} {n m : String} (hn : rootOf n.data = "")
    (hm : rootOf m.data = "") (h : (p / n).str = (p / m).str) :
    partsOf n.data = partsOf m.data := by
  have := congrArg parts (str_injective h)
  rw [hDiv_eq, hDiv_eq, (div_of_root_eq_empty hn).2, (div_of_root_eq_empty hm).2] at this
  exact List.append_cancel_left this

end PurePath

end CephadmSmb.Py
