-- SUMMARY: Python text operations used by the SMB daemon form: str.strip, the decimal digits of Unicode, int() on a string, json.dumps of a string list, and str.join.
import CephadmSmb.Python.Basic

/-!
# Python text

`str.strip()`, `int(s)` in base 10 and `json.dumps` of a list of strings, computed
over the characters of the string as CPython 3.11 does, and the fact about `", ".join`
that error messages rely on: a joined list names each of its members. A decimal digit
is one of any script (`decimalValue`), for `int()` as for `\d` in a `str` pattern
(`isDecimal`).

`str(n)` of a Python `int` is Lean's `toString` on `Int` (decimal digits, a leading
`-` when negative), so it needs no definition of its own.
-/

namespace CephadmSmb.Py

/-- `c.isspace()`: the characters Python treats as whitespace (bidirectional class
    WS, B or S, or category Zs). -/
def isSpace (c : Char) : Bool :=
  let n := c.toNat
  (9 ≤ n && n ≤ 13) || (28 ≤ n && n ≤ 32) || n == 0x85 || n == 0xa0 || n == 0x1680 ||
    (0x2000 ≤ n && n ≤ 0x200a) || n == 0x2028 || n == 0x2029 || n == 0x202f ||
    n == 0x205f || n == 0x3000

/-- `cs` without its leading and trailing characters of `p`. -/
def stripWith (p : Char → Bool) (cs : List Char) : List Char :=
  ((cs.dropWhile p).reverse.dropWhile p).reverse

/-- `s.strip()`: `s` without leading or trailing whitespace. -/
def strip (s : String) : String :=
  ⟨stripWith isSpace s.data⟩

-- ---------------------------------------------------------------------------
-- Decimal digits
-- ---------------------------------------------------------------------------

/-- The first code point of each run of ten decimal digits (category Nd) of Unicode 14.0,
    the character database of CPython 3.11: digit `k` of a run is its first code point
    plus `k`. The ASCII digits come first. -/
def decimalZeros : List Nat :=
  [0x30, 0x660, 0x6f0, 0x7c0, 0x966, 0x9e6, 0xa66, 0xae6, 0xb66, 0xbe6, 0xc66, 0xce6,
    0xd66, 0xde6, 0xe50, 0xed0, 0xf20, 0x1040, 0x1090, 0x17e0, 0x1810, 0x1946, 0x19d0,
    0x1a80, 0x1a90, 0x1b50, 0x1bb0, 0x1c40, 0x1c50, 0xa620, 0xa8d0, 0xa900, 0xa9d0,
    0xa9f0, 0xaa50, 0xabf0, 0xff10, 0x104a0, 0x10d30, 0x11066, 0x110f0, 0x11136, 0x111d0,
    0x112f0, 0x11450, 0x114d0, 0x11650, 0x116c0, 0x11730, 0x118e0, 0x11950, 0x11c50,
    0x11d50, 0x11da0, 0x16a60, 0x16ac0, 0x16b50, 0x1d7ce, 0x1d7d8, 0x1d7e2, 0x1d7ec,
    0x1d7f6, 0x1e140, 0x1e2f0, 0x1e950, 0x1fbf0]

/-- `unicodedata.decimal(c, None)`: the value of a decimal digit of any script, `none`
    for every other character. -/
def decimalValue (c : Char) : Option Nat :=
  (decimalZeros.find? fun z => z ≤ c.toNat && c.toNat < z + 10).map (c.toNat - ·)

/-- `c.isdecimal()`, the characters `\d` matches in a `str` pattern. -/
def isDecimal (c : Char) : Bool :=
  (decimalValue c).isSome

example : decimalValue '٤' = some 4 ∧ decimalValue '７' = some 7 ∧ decimalValue 'x' = none := by
  decide

/-- Where the whitespace lies: the ASCII blanks, U+0085 to U+00A0, U+1680, and U+2000 to
    U+3000. -/
private theorem isSpace_bounds {c : Char} (h : isSpace c) :
    c.toNat ≤ 32 ∨ (0x85 ≤ c.toNat ∧ c.toNat ≤ 0xa0) ∨ c.toNat = 0x1680 ∨
      (0x2000 ≤ c.toNat ∧ c.toNat ≤ 0x3000) := by
  simp only [isSpace, Bool.or_eq_true, Bool.and_eq_true, decide_eq_true_eq, beq_iff_eq] at h
  omega

/-- Every run of the table lies clear of the whitespace, checked once per run. -/
private theorem decimalZeros_clear : ∀ z ∈ decimalZeros, 32 < z ∧ (z + 10 ≤ 0x85 ∨ 0xa0 < z) ∧
    (z + 10 ≤ 0x1680 ∨ 0x1680 < z) ∧ (z + 10 ≤ 0x2000 ∨ 0x3000 < z) := by
  decide

/-- A decimal digit lies in one of the table's runs. -/
theorem exists_run_of_isDecimal {c : Char} (h : isDecimal c) :
    ∃ z ∈ decimalZeros, z ≤ c.toNat ∧ c.toNat < z + 10 := by
  obtain ⟨v, hv⟩ := Option.isSome_iff_exists.1 h
  obtain ⟨z, hz, -⟩ := Option.map_eq_some'.1 hv
  have hzc := List.find?_some hz
  simp only [Bool.and_eq_true, decide_eq_true_eq] at hzc
  exact ⟨z, List.mem_of_find?_eq_some hz, hzc⟩

/-- No decimal digit is whitespace. -/
theorem isSpace_eq_false_of_isDecimal {c : Char} (h : isDecimal c) : isSpace c = false := by
  obtain ⟨z, hz, hlo, hhi⟩ := exists_run_of_isDecimal h
  have := decimalZeros_clear z hz
  refine Bool.eq_false_iff.2 fun hs => ?_
  have := isSpace_bounds hs
  omega

-- ---------------------------------------------------------------------------
-- int()
-- ---------------------------------------------------------------------------

/-- The whitespace `int()` skips around a literal: that of `str.isspace()` but the
    separators U+001C to U+001F. `PyLong_FromUnicodeObject` keeps an ASCII character as it
    is, for C's `isspace` to read, and turns only the whitespace above ASCII into
    spaces. -/
def isIntSpace (c : Char) : Bool :=
  isSpace c && !(0x1c ≤ c.toNat && c.toNat ≤ 0x1f)

/-- The digits of a base-10 literal, with single underscores allowed between digits:
    `acc` is the value read so far and `afterDigit` whether the last character was a
    digit. A decimal digit of any script counts with its value. -/
def readDigits : List Char → Nat → Bool → Option Nat
  | [], acc, afterDigit => if afterDigit then some acc else none
  | c :: cs, acc, afterDigit =>
    match decimalValue c with
    | some d => readDigits cs (10 * acc + d) true
    | none => if c = '_' ∧ afterDigit then readDigits cs acc false else none

/-- The value of a stripped base-10 literal: an optional sign, then digits. -/
def readInt : List Char → Option Int
  | '-' :: cs => (readDigits cs 0 false).map fun n => -(n : Int)
  | '+' :: cs => (readDigits cs 0 false).map Int.ofNat
  | cs => (readDigits cs 0 false).map Int.ofNat

/-- `int(s)` for a string `s`, in base 10: whitespace around the literal is ignored,
    anything else that is not a literal raises `ValueError`. -/
def intOfStr (s : String) : Except PyExc Int :=
  match readInt (stripWith isIntSpace s.data) with
  | some n => .ok n
  | none => .error (.valueError s)

example : intOfStr " 9_922\n" = .ok 9922 := rfl
example : intOfStr "-12" = .ok (-12) := rfl
example : intOfStr "1__0" = .error (.valueError "1__0") := rfl
example : intOfStr "\u3000٩٩٢٢" = .ok 9922 := rfl
example : intOfStr "\x1c5" = .error (.valueError "\x1c5") := rfl

-- ---------------------------------------------------------------------------
-- json.dumps
-- ---------------------------------------------------------------------------

/-- `'{0:04x}'.format(n)` for `n < 0x10000`: four lowercase hexadecimal digits. -/
def hex4 (n : Nat) : String :=
  let ds := Nat.toDigits 16 n
  ⟨List.replicate (4 - ds.length) '0' ++ ds⟩

/-- One character as `json.dumps` writes it with `ensure_ascii`: printable ASCII as
    itself, the short escapes, everything else as `\uXXXX` (a surrogate pair above the
    basic plane). -/
def jsonEscape (c : Char) : String :=
  if c = '"' then "\\\""
  else if c = '\\' then "\\\\"
  else if c = '\n' then "\\n"
  else if c = '\r' then "\\r"
  else if c = '\t' then "\\t"
  else if c.toNat = 8 then "\\b"
  else if c.toNat = 12 then "\\f"
  else if ' ' ≤ c ∧ c ≤ '~' then c.toString
  else if c.toNat < 0x10000 then "\\u" ++ hex4 c.toNat
  else
    let n := c.toNat - 0x10000
    "\\u" ++ hex4 (0xd800 + n / 0x400) ++ "\\u" ++ hex4 (0xdc00 + n % 0x400)

/-- `json.dumps(s)` for a string. -/
def jsonQuote (s : String) : String :=
  "\"" ++ String.join (s.data.map jsonEscape) ++ "\""

/-- `json.dumps(xs)` for a list of strings, with the default separators. -/
def jsonDumps (xs : List String) : String :=
  "[" ++ ", ".intercalate (xs.map jsonQuote) ++ "]"

example : jsonDumps ["rados://a", "é\""] = "[\"rados://a\", \"\\u00e9\\\"\"]" := by decide

mutual
/-- `json.dump(value, fh)`: the text written, with the default separators (`", "` between
    items, `": "` after a key) and `ensure_ascii`. As the encoder's `_iterencode_list`
    and `_iterencode_dict` do, an empty container is written whole and a non-empty one
    as its first item followed by the others, each after the item separator. -/
def jsonDump : JsonValue → String
  | .str s => jsonQuote s
  | .list [] => "[]"
  | .list (v :: vs) => "[" ++ jsonDump v ++ jsonDumpItems vs ++ "]"
  | .dict [] => "{}"
  | .dict ((k, v) :: kvs) =>
    "\x7b" ++ jsonQuote k ++ ": " ++ jsonDump v ++ jsonDumpMembers kvs ++ "\x7d"

/-- The items of a list after its first, each after the item separator. -/
def jsonDumpItems : List JsonValue → String
  | [] => ""
  | v :: vs => ", " ++ jsonDump v ++ jsonDumpItems vs

/-- The members of a dict after its first, each after the item separator. -/
def jsonDumpMembers : List (String × JsonValue) → String
  | [] => ""
  | (k, v) :: kvs => ", " ++ jsonQuote k ++ ": " ++ jsonDump v ++ jsonDumpMembers kvs
end

example : jsonDump (.dict [("ctdb", .dict [("nodes", .list [.str "a", .str "é"])]), ("x", .dict [])]) =
    "\x7b\"ctdb\": \x7b\"nodes\": [\"a\", \"\\u00e9\"]\x7d, \"x\": \x7b\x7d\x7d" := by rfl

@[simp] theorem jsonDump_data_str (s : String) : (jsonDump (.str s)).data = (jsonQuote s).data :=
  rfl

@[simp] theorem jsonDump_data_list_nil : (jsonDump (.list [])).data = ['[', ']'] := rfl

@[simp] theorem jsonDump_data_list_cons (v : JsonValue) (vs : List JsonValue) :
    (jsonDump (.list (v :: vs))).data =
      '[' :: ((jsonDump v).data ++ ((jsonDumpItems vs).data ++ [']'])) := by
  simp only [jsonDump, String.data_append, List.append_assoc]
  rfl

@[simp] theorem jsonDump_data_dict_nil : (jsonDump (.dict [])).data = ['{', '}'] := rfl

@[simp] theorem jsonDump_data_dict_cons (k : String) (v : JsonValue) (kvs : List (String × JsonValue)) :
    (jsonDump (.dict ((k, v) :: kvs))).data =
      '{' :: ((jsonQuote k).data ++ (':' :: ' ' :: ((jsonDump v).data ++
        ((jsonDumpMembers kvs).data ++ ['}'])))) := by
  simp only [jsonDump, String.data_append, List.append_assoc]
  rfl

@[simp] theorem jsonDumpItems_data_nil : (jsonDumpItems []).data = [] := rfl

@[simp] theorem jsonDumpItems_data_cons (v : JsonValue) (vs : List JsonValue) :
    (jsonDumpItems (v :: vs)).data = ',' :: ' ' :: ((jsonDump v).data ++ (jsonDumpItems vs).data) := by
  simp only [jsonDumpItems, String.data_append, List.append_assoc]
  rfl

@[simp] theorem jsonDumpMembers_data_nil : (jsonDumpMembers []).data = [] := rfl

@[simp] theorem jsonDumpMembers_data_cons (k : String) (v : JsonValue)
    (kvs : List (String × JsonValue)) :
    (jsonDumpMembers ((k, v) :: kvs)).data =
      ',' :: ' ' :: ((jsonQuote k).data ++ (':' :: ' ' :: ((jsonDump v).data ++
        (jsonDumpMembers kvs).data))) := by
  simp only [jsonDumpMembers, String.data_append, List.append_assoc]
  rfl

private theorem eq_ofNat_of_toNat_eq {c : Char} {n : Nat} (h : c.toNat = n) : c = Char.ofNat n := by
  rw [← h, Char.ofNat_toNat]

/-- What `jsonEscape` writes for each kind of character; proofs about the encoder case
    on this instead of on its ten branches. -/
theorem jsonEscape_cases {P : Char → String → Prop}
    (quote : P '"' "\\\"") (backslash : P '\\' "\\\\") (lf : P '\n' "\\n") (cr : P '\r' "\\r")
    (tab : P '\t' "\\t") (bs : P (Char.ofNat 8) "\\b") (ff : P (Char.ofNat 12) "\\f")
    (printable : ∀ c, c ≠ '"' → c ≠ '\\' → ' ' ≤ c → c ≤ '~' → P c c.toString)
    (bmp : ∀ c, c.toNat < 0x10000 → P c ("\\u" ++ hex4 c.toNat))
    (astral : ∀ c, 0x10000 ≤ c.toNat →
      P c ("\\u" ++ hex4 (0xd800 + (c.toNat - 0x10000) / 0x400) ++
        "\\u" ++ hex4 (0xdc00 + (c.toNat - 0x10000) % 0x400)))
    (c : Char) : P c (jsonEscape c) := by
  rw [jsonEscape]
  by_cases h1 : c = '"'
  · rw [if_pos h1]; subst h1; exact quote
  rw [if_neg h1]
  by_cases h2 : c = '\\'
  · rw [if_pos h2]; subst h2; exact backslash
  rw [if_neg h2]
  by_cases h3 : c = '\n'
  · rw [if_pos h3]; subst h3; exact lf
  rw [if_neg h3]
  by_cases h4 : c = '\r'
  · rw [if_pos h4]; subst h4; exact cr
  rw [if_neg h4]
  by_cases h5 : c = '\t'
  · rw [if_pos h5]; subst h5; exact tab
  rw [if_neg h5]
  by_cases h6 : c.toNat = 8
  · rw [if_pos h6, eq_ofNat_of_toNat_eq h6]; exact bs
  rw [if_neg h6]
  by_cases h7 : c.toNat = 12
  · rw [if_pos h7, eq_ofNat_of_toNat_eq h7]; exact ff
  rw [if_neg h7]
  by_cases h8 : ' ' ≤ c ∧ c ≤ '~'
  · rw [if_pos h8]; exact printable c h1 h2 h8.1 h8.2
  rw [if_neg h8]
  by_cases h9 : c.toNat < 0x10000
  · rw [if_pos h9]; exact bmp c h9
  rw [if_neg h9]
  exact astral c (by omega)

-- ---------------------------------------------------------------------------
-- Comparing strings by a literal prefix
-- ---------------------------------------------------------------------------

/-- A string differs from every extension of a prefix it does not have; with
    `disch := decide` this settles an f-string against a literal without unfolding
    either. -/
theorem ne_append_of_not_startsWith {s p : String} (h : ¬ p.data <+: s.data) (x : String) :
    s ≠ p ++ x := by
  rintro rfl
  exact h (List.prefix_append _ _)

theorem append_ne_of_not_startsWith {s p : String} (h : ¬ p.data <+: s.data) (x : String) :
    p ++ x ≠ s :=
  (ne_append_of_not_startsWith h x).symm

@[simp] theorem append_right_inj (p : String) {x y : String} : p ++ x = p ++ y ↔ x = y := by
  simp only [String.ext_iff, String.data_append, List.append_cancel_left_eq]

/-- Extensions of two prefixes neither of which extends the other differ. -/
theorem append_ne_append {p q : String} (h : ¬ p.data <+: q.data) (h' : ¬ q.data <+: p.data)
    (x y : String) : p ++ x ≠ q ++ y := by
  intro e
  have hq : q.data <+: (p ++ x).data := e ▸ List.prefix_append _ _
  exact (List.prefix_or_prefix_of_prefix (List.prefix_append p.data x.data) hq).elim h h'

-- ---------------------------------------------------------------------------
-- join
-- ---------------------------------------------------------------------------

private theorem data_intercalate_go (sep acc : String) (xs : List String) :
    (String.intercalate.go acc sep xs).data =
      acc.data ++ (xs.map fun x => sep.data ++ x.data).flatten := by
  induction xs generalizing acc with
  | nil => simp [String.intercalate.go]
  | cons x xs ih => simp [String.intercalate.go, ih]

/-- The characters of `sep.join(x :: xs)`. -/
theorem data_intercalate_cons (sep x : String) (xs : List String) :
    (sep.intercalate (x :: xs)).data = x.data ++ (xs.map fun y => sep.data ++ y.data).flatten :=
  data_intercalate_go sep x xs

/-- The characters of `"".join(xs)`. -/
theorem data_join (xs : List String) : (String.join xs).data = xs.flatMap String.data := by
  suffices h : ∀ acc : String, (xs.foldl (· ++ ·) acc).data = acc.data ++ xs.flatMap String.data from
    (h "").trans (List.nil_append _)
  induction xs with
  | nil => simp
  | cons x xs ih => intro acc; simp [ih]

/-- `sep.join(xs)` names every member of `xs`. -/
theorem exists_eq_append_of_mem_intercalate {sep x : String} {xs : List String}
    (h : x ∈ xs) : ∃ pre post : String, sep.intercalate xs = pre ++ x ++ post := by
  obtain _ | ⟨y, ys⟩ := xs
  · cases h
  have hinfix : x.data <:+: (sep.intercalate (y :: ys)).data := by
    rw [String.intercalate, data_intercalate_go]
    rcases List.mem_cons.mp h with rfl | hm
    · exact (List.prefix_append _ _).isInfix
    · exact ((List.suffix_append _ _).isInfix.trans
        (List.infix_of_mem_flatten (List.mem_map_of_mem (fun x : String => sep.data ++ x.data) hm))).trans (List.suffix_append _ _).isInfix
  obtain ⟨pre, post, hpp⟩ := hinfix
  exact ⟨⟨pre⟩, ⟨post⟩, String.ext (by simp [hpp])⟩

end CephadmSmb.Py
