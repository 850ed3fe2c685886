-- SUMMARY: The text the daemon form produces reads back: int() recovers every str(n), and the SAMBACC_CONFIG variable is ASCII JSON that a JSON reader decodes to config_uris.
import Mathlib.Data.Nat.Digits
import CephadmSmb.Properties.Environment

/-!
# Encodings

Two texts the form produces are read again by another program. A metrics port may
come as a string, which `int()` reads; every `str(n)` reads back as `n`. And every
Samba role carries `SAMBACC_CONFIG`, `json.dumps` of `config_uris()`, which sambacc
parses as JSON. `Json.decodeStringArray` is a reader of JSON texts that are arrays of
strings, written from the JSON grammar (whitespace, the escapes, `\u` escapes with
surrogate pairs) and not from the encoder; the variable is ASCII and decodes to
`config_uris()` for every config, whatever characters its URIs hold.

Both encoders print numbers with `Nat.toDigits`: `toDigits_spec` says once what it
produces, for any base.
-/

namespace CephadmSmb

-- ---------------------------------------------------------------------------
-- Digits
-- ---------------------------------------------------------------------------

/-- `Nat.toDigitsCore` with enough fuel writes the digits of `n`, most significant
    first: at least one, each below the base, as many as the powers of the base `n`
    reaches. -/
theorem toDigitsCore_spec {b : Nat} (hb : 2 ≤ b) (fuel : Nat) :
    ∀ n ds, n ≤ fuel → ∃ M : List Nat,
      Nat.toDigitsCore b (fuel + 1) n ds = M.map Nat.digitChar ++ ds ∧ M ≠ [] ∧
      (∀ d ∈ M, d < b) ∧ M.foldl (fun a d => b * a + d) 0 = n ∧
      ∀ k, 0 < k → n < b ^ k → M.length ≤ k := by
  induction fuel with
  | zero =>
    intro n ds hn
    obtain rfl : n = 0 := Nat.le_zero.mp hn
    exact ⟨[0], by simp [Nat.toDigitsCore], by simp, by simp; omega, rfl, fun k hk _ => hk⟩
  | succ fuel ih =>
    intro n ds hn
    by_cases h0 : n / b = 0
    · have hlt : n < b := (Nat.div_eq_zero_iff (by omega)).mp h0
      refine ⟨[n % b], by simp [Nat.toDigitsCore, h0], by simp, by simp [Nat.mod_lt _ (by omega : 0 < b)],
        by simp [Nat.mod_eq_of_lt hlt], fun k hk _ => hk⟩
    · have hn0 : 0 < n := Nat.pos_of_ne_zero fun h => h0 (by simp [h])
      have hlt : n / b ≤ fuel := by
        have := Nat.div_lt_self hn0 (by omega : 1 < b)
        omega
      obtain ⟨M, hM, -, hd, hv, hlen⟩ := ih (n / b) (Nat.digitChar (n % b) :: ds) hlt
      refine ⟨M ++ [n % b], by rw [Nat.toDigitsCore]; simp [h0, hM], by simp, ?_, ?_, ?_⟩
      · intro d hd'
        rcases List.mem_append.mp hd' with h | h
        · exact hd d h
        · rw [List.mem_singleton.mp h]; exact Nat.mod_lt _ (by omega)
      · rw [List.foldl_append, hv]
        simp [Nat.div_add_mod]
      · intro k hk hn'
        obtain ⟨k, rfl⟩ : ∃ j, k = j + 1 := ⟨k - 1, by omega⟩
        have hk' : n / b < b ^ k := by
          rw [Nat.div_lt_iff_lt_mul (by omega)]
          simpa [Nat.pow_succ] using hn'
        have hk0 : 0 < k := Nat.pos_of_ne_zero fun h => h0 (by simpa [h] using hk')
        simpa using hlen k hk0 hk'

/-- `Nat.toDigits b n`: a first digit and the others. -/
theorem toDigits_spec {b : Nat} (hb : 2 ≤ b) (n : Nat) : ∃ d M,
    Nat.toDigits b n = (d :: M).map Nat.digitChar ∧ (∀ x ∈ d :: M, x < b) ∧
    (d :: M).foldl (fun a x => b * a + x) 0 = n ∧ ∀ k, 0 < k → n < b ^ k → M.length + 1 ≤ k := by
  obtain ⟨M, hM, hne, hd, hv, hlen⟩ := toDigitsCore_spec hb n n [] le_rfl
  obtain ⟨d, M, rfl⟩ := List.exists_cons_of_ne_nil hne
  exact ⟨d, M, by simpa using hM, hd, hv, hlen⟩

-- ---------------------------------------------------------------------------
-- int()
-- ---------------------------------------------------------------------------

namespace Json

/-- JSON's insignificant whitespace: space, tab, line feed, carriage return. -/
def isWs (c : Char) : Bool := c == ' ' || c == '\t' || c == '\n' || c == '\r'

/-- The text after any whitespace. -/
def skipWs (cs : List Char) : List Char := cs.dropWhile isWs

/-- The value of a hexadecimal digit, in either case. -/
def hexValue (c : Char) : Option Nat :=
  if c.isDigit then some (c.toNat - '0'.toNat)
  else if 'a' ≤ c ∧ c ≤ 'f' then some (c.toNat - 'a'.toNat + 10)
  else if 'A' ≤ c ∧ c ≤ 'F' then some (c.toNat - 'A'.toNat + 10)
  else none

/-- The number hexadecimal digits spell, read onto `acc`. -/
def readHex : List Char → Nat → Option Nat
  | [], acc => some acc
  | c :: cs, acc => (hexValue c).bind fun d => readHex cs (16 * acc + d)

/-- The four hexadecimal digits of a `\u` escape, and the text after them. -/
def readHex4 (cs : List Char) : Option (Nat × List Char) :=
  if (cs.take 4).length = 4 then (readHex (cs.take 4) 0).map (·, cs.drop 4) else none

/-- The character a `\u` escape denotes, a surrogate pair read as one character; a
    lone surrogate fails. -/
def decodeUnicode (cs : List Char) : Option (Char × List Char) := do
  let (hi, rest) ← readHex4 cs
  if 0xD800 ≤ hi ∧ hi < 0xDC00 then
    match rest with
    | '\\' :: 'u' :: rest =>
      let (lo, rest) ← readHex4 rest
      if 0xDC00 ≤ lo ∧ lo < 0xE000 then
        pure (Char.ofNat (0x10000 + (hi - 0xD800) * 0x400 + (lo - 0xDC00)), rest)
      else none
    | _ => none
  else if 0xDC00 ≤ hi ∧ hi < 0xE000 then none
  else pure (Char.ofNat hi, rest)

/-- The character a two-character escape denotes. -/
def shortEscape : Char → Option Char
  | '"' => some '"'
  | '\\' => some '\\'
  | '/' => some '/'
  | 'b' => some (Char.ofNat 8)
  | 'f' => some (Char.ofNat 12)
  | 'n' => some '\n'
  | 'r' => some '\r'
  | 't' => some '\t'
  | _ => none

/-- One step through a string body: the next character and the text after it, or
    `none` at the closing quote. A control character, a bad escape or the end of the
    text fails. -/
def stringStep : List Char → Option (Option Char × List Char)
  | [] => none
  | c :: rest =>
    if c = '"' then some (none, rest)
    else if c = '\\' then
      match rest with
      | 'u' :: rest => (decodeUnicode rest).map fun (ch, rest) => (some ch, rest)
      | e :: rest => (shortEscape e).map fun ch => (some ch, rest)
      | [] => none
    else if c.toNat < 0x20 then none
    else some (some c, rest)

/-- The characters of a string body up to its closing quote, and the text after the
    quote; `fuel` bounds the number of steps. -/
def readString : Nat → List Char → Option (List Char × List Char)
  | 0, _ => none
  | fuel + 1, cs =>
    match stringStep cs with
    | some (none, rest) => some ([], rest)
    | some (some c, rest) => (readString fuel rest).map fun (s, rest) => (c :: s, rest)
    | none => none

/-- A string after any whitespace: its value and the text after it. -/
def readStringValue (cs : List Char) : Option (String × List Char) :=
  match skipWs cs with
  | c :: body =>
    if c = '"' then (readString body.length body).map fun (s, rest) => (⟨s⟩, rest) else none
  | [] => none

/-- The elements of an array after its first, each after a comma, up to the closing
    bracket; `fuel` bounds their number. -/
def readElements : Nat → List Char → Option (List String × List Char)
  | 0, _ => none
  | fuel + 1, cs =>
    match skipWs cs with
    | c :: rest =>
      if c = ']' then some ([], rest)
      else if c = ',' then
        (readStringValue rest).bind fun (x, rest) =>
          (readElements fuel rest).map fun (xs, rest) => (x :: xs, rest)
      else none
    | [] => none

/-- A JSON text that is an array of strings, with whitespace wherever the grammar
    allows it: the strings. -/
def decodeStringArray (cs : List Char) : Option (List String) :=
  match skipWs cs with
  | c :: rest =>
    if c = '[' then
      let items :=
        if (skipWs rest).head? = some ']' then some ([], (skipWs rest).tail)
        else (readStringValue rest).bind fun (x, rest) =>
          (readElements rest.length rest).map fun (xs, rest) => (x :: xs, rest)
      items.bind fun (xs, rest) => if skipWs rest = [] then some xs else none
    else none
  | [] => none

-- ---------------------------------------------------------------------------
-- Reading hexadecimal digits back
-- ---------------------------------------------------------------------------

private theorem hex_digit : ∀ d, d < 16 →
    hexValue (Nat.digitChar d) = some d ∧ (Nat.digitChar d).toNat < 0x80 := by
  decide

theorem readHex_digitChars (M : List Nat) (hM : ∀ x ∈ M, x < 16) (rest : List Char)
    (acc : Nat) :
    readHex (M.map Nat.digitChar ++ rest) acc =
      readHex rest (M.foldl (fun a x => 16 * a + x) acc) := by
  induction M generalizing acc with
  | nil => rfl
  | cons d M ih =>
    rw [List.map_cons, List.cons_append, readHex, (hex_digit d (hM d (List.mem_cons_self _ _))).1]
    exact ih (fun x hx => hM x (List.mem_cons_of_mem _ hx)) _

private theorem readHex_zeros (k : Nat) (rest : List Char) :
    readHex (List.replicate k '0' ++ rest) 0 = readHex rest 0 := by
  induction k with
  | zero => rfl
  | succ k ih => exact ih

/-- `'{0:04x}'.format(n)` below `0x10000`: four ASCII characters that read back as `n`. -/
theorem hex4_spec {n : Nat} (hn : n < 0x10000) :
    (Py.hex4 n).data.length = 4 ∧ readHex (Py.hex4 n).data 0 = some n ∧
      ∀ c ∈ (Py.hex4 n).data, c.toNat < 0x80 := by
  obtain ⟨d, M, hds, hd, hv, hlen⟩ := toDigits_spec (by decide : 2 ≤ 16) n
  have hl : M.length + 1 ≤ 4 := hlen 4 (by decide) hn
  have hdata : (Py.hex4 n).data =
      List.replicate (4 - (M.length + 1)) '0' ++ (d :: M).map Nat.digitChar := by
    simp [Py.hex4, hds]
  rw [hdata]
  refine ⟨by simp; omega, ?_, ?_⟩
  · rw [readHex_zeros, ← List.append_nil (List.map _ _), readHex_digitChars _ hd, hv]
    rfl
  · simp only [List.mem_append, List.mem_replicate, List.mem_map]
    rintro c (⟨-, rfl⟩ | ⟨x, hx, rfl⟩)
    · decide
    · exact (hex_digit x (hd x hx)).2

theorem readHex4_hex4 {n : Nat} (hn : n < 0x10000) (rest : List Char) :
    readHex4 ((Py.hex4 n).data ++ rest) = some (n, rest) := by
  obtain ⟨hl, hr, -⟩ := hex4_spec hn
  have ht : ((Py.hex4 n).data ++ rest).take 4 = (Py.hex4 n).data := by
    rw [List.take_append_eq_append_take, List.take_of_length_le (by omega), hl]; simp
  have hd : ((Py.hex4 n).data ++ rest).drop 4 = rest := by
    rw [List.drop_append_eq_append_drop, List.drop_of_length_le (by omega), hl]; simp
  simp [readHex4, ht, hd, hl, hr]

-- ---------------------------------------------------------------------------
-- Reading escapes back
-- ---------------------------------------------------------------------------

theorem decodeUnicode_single {n : Nat} (hn : n < 0x10000) (hs : n < 0xD800 ∨ 0xE000 ≤ n)
    (rest : List Char) : decodeUnicode ((Py.hex4 n).data ++ rest) = some (Char.ofNat n, rest) := by
  have h1 : ¬ (0xD800 ≤ n ∧ n < 0xDC00) := by omega
  have h2 : ¬ (0xDC00 ≤ n ∧ n < 0xE000) := by omega
  simp only [decodeUnicode, readHex4_hex4 hn, Option.bind_eq_bind, Option.some_bind, if_neg h1,
    if_neg h2]
  rfl

theorem decodeUnicode_pair {hi lo : Nat} (hhi : hi < 0x10000) (hlo : lo < 0x10000)
    (ha : 0xD800 ≤ hi ∧ hi < 0xDC00) (hb : 0xDC00 ≤ lo ∧ lo < 0xE000) (rest : List Char) :
    decodeUnicode ((Py.hex4 hi).data ++ '\\' :: 'u' :: ((Py.hex4 lo).data ++ rest)) =
      some (Char.ofNat (0x10000 + (hi - 0xD800) * 0x400 + (lo - 0xDC00)), rest) := by
  simp only [decodeUnicode, readHex4_hex4 hhi, Option.bind_eq_bind, Option.some_bind, if_pos ha,
    readHex4_hex4 hlo, if_pos hb]
  rfl

theorem stringStep_unicode (cs : List Char) :
    stringStep ('\\' :: 'u' :: cs) = (decodeUnicode cs).map fun (ch, rest) => (some ch, rest) :=
  rfl

/-- Every character `json.dumps` escapes reads back as itself. -/
theorem stringStep_jsonEscape (c : Char) (rest : List Char) :
    stringStep ((Py.jsonEscape c).data ++ rest) = some (some c, rest) := by
  refine Py.jsonEscape_cases (P := fun c s => stringStep (s.data ++ rest) = some (some c, rest))
    rfl rfl rfl rfl rfl rfl rfl ?_ ?_ ?_ c
  · -- printable ASCII stands for itself
    intro c h1 h2 h32 _
    have h32 : 32 ≤ c.toNat := h32
    show stringStep (c :: rest) = _
    simp only [stringStep.eq_def, if_neg h1, if_neg h2, if_neg (show ¬ c.toNat < 0x20 by omega)]
  · -- one `\u` escape
    intro c hc
    have hvalid : c.toNat < 0xd800 ∨ (0xdfff < c.toNat ∧ c.toNat < 0x110000) := c.valid
    show stringStep ('\\' :: 'u' :: ((Py.hex4 c.toNat).data ++ rest)) = _
    rw [stringStep_unicode, decodeUnicode_single hc (by omega), Char.ofNat_toNat]
    rfl
  · -- a surrogate pair
    intro c hc
    have hvalid : c.toNat < 0xd800 ∨ (0xdfff < c.toNat ∧ c.toNat < 0x110000) := c.valid
    simp only [String.data_append, List.append_assoc,
      show ("\\u" : String).data = ['\\', 'u'] from rfl]
    generalize hhi : 0xD800 + (c.toNat - 0x10000) / 0x400 = hi
    generalize hlo : 0xDC00 + (c.toNat - 0x10000) % 0x400 = lo
    have hc : 0x10000 + (hi - 0xD800) * 0x400 + (lo - 0xDC00) = c.toNat := by omega
    show stringStep ('\\' :: 'u' :: ((Py.hex4 hi).data ++
      '\\' :: 'u' :: ((Py.hex4 lo).data ++ rest))) = _
    rw [stringStep_unicode, decodeUnicode_pair (by omega) (by omega) (by omega) (by omega), hc,
      Char.ofNat_toNat]
    rfl

-- ---------------------------------------------------------------------------
-- Reading strings and arrays back
-- ---------------------------------------------------------------------------

private theorem length_le_length_flatMap {α β : Type} {f : α → List β} (hf : ∀ a, f a ≠ []) :
    ∀ l : List α, l.length ≤ (l.flatMap f).length
  | [] => le_rfl
  | a :: l => by
    have h1 := List.length_pos.2 (hf a)
    have h2 := length_le_length_flatMap hf l
    rw [List.flatMap_cons, List.length_append, List.length_cons]
    omega

theorem jsonEscape_ne_nil (c : Char) : (Py.jsonEscape c).data ≠ [] := by
  apply Py.jsonEscape_cases (P := fun _ s => s.data ≠ [])
  all_goals intros; exact List.cons_ne_nil _ _

theorem readString_escaped (s rest : List Char) {fuel : Nat} (h : s.length < fuel) :
    readString fuel ((s.flatMap fun c => (Py.jsonEscape c).data) ++ '"' :: rest) =
      some (s, rest) := by
  induction s generalizing fuel with
  | nil =>
    obtain ⟨f, rfl⟩ : ∃ f, fuel = f + 1 := ⟨fuel - 1, by simp at h; omega⟩
    rfl
  | cons c s ih =>
    obtain ⟨f, rfl⟩ : ∃ f, fuel = f + 1 := ⟨fuel - 1, by simp at h; omega⟩
    simp only [List.flatMap_cons, List.append_assoc, readString, stringStep_jsonEscape,
      @ih f (by simp at h; omega)]
    rfl

/-- `json.dumps` of a string reads back as that string. -/
theorem readStringValue_jsonQuote (x : String) (rest : List Char) :
    readStringValue ((Py.jsonQuote x).data ++ rest) = some (x, rest) := by
  have hbody : (Py.jsonQuote x).data ++ rest =
      '"' :: ((x.data.flatMap fun c => (Py.jsonEscape c).data) ++ '"' :: rest) := by
    simp [Py.jsonQuote, Py.data_join, List.flatMap, Function.comp_def]
  have hlen : x.data.length <
      ((x.data.flatMap fun c => (Py.jsonEscape c).data) ++ '"' :: rest).length := by
    have := length_le_length_flatMap jsonEscape_ne_nil x.data
    simp only [List.length_append, List.length_cons]
    omega
  rw [hbody, readStringValue]
  simp only [show skipWs ('"' :: ((x.data.flatMap fun c => (Py.jsonEscape c).data) ++ '"' :: rest)) =
    '"' :: ((x.data.flatMap fun c => (Py.jsonEscape c).data) ++ '"' :: rest) from rfl, if_true,
    readString_escaped _ _ hlen]
  rfl

theorem readElements_tail (xs : List String) (rest : List Char) {fuel : Nat}
    (h : xs.length < fuel) :
    readElements fuel ((xs.flatMap fun x => ',' :: ' ' :: (Py.jsonQuote x).data) ++ ']' :: rest) =
      some (xs, rest) := by
  induction xs generalizing fuel with
  | nil =>
    obtain ⟨f, rfl⟩ : ∃ f, fuel = f + 1 := ⟨fuel - 1, by simp at h; omega⟩
    rfl
  | cons x xs ih =>
    obtain ⟨f, rfl⟩ : ∃ f, fuel = f + 1 := ⟨fuel - 1, by simp at h; omega⟩
    have hx : readStringValue (' ' :: ((Py.jsonQuote x).data ++
        ((xs.flatMap fun x => ',' :: ' ' :: (Py.jsonQuote x).data) ++ ']' :: rest))) =
        some (x, (xs.flatMap fun x => ',' :: ' ' :: (Py.jsonQuote x).data) ++ ']' :: rest) :=
      readStringValue_jsonQuote x _
    simp only [List.flatMap_cons, List.cons_append, List.append_assoc, readElements]
    simp only [show skipWs (',' :: ' ' :: ((Py.jsonQuote x).data ++
        ((xs.flatMap fun x => ',' :: ' ' :: (Py.jsonQuote x).data) ++ ']' :: rest))) =
      ',' :: ' ' :: ((Py.jsonQuote x).data ++
        ((xs.flatMap fun x => ',' :: ' ' :: (Py.jsonQuote x).data) ++ ']' :: rest)) from rfl,
      if_neg (by decide : ¬ (',' : Char) = ']'), if_true, hx, Option.some_bind,
      @ih f (by simp at h; omega), Option.map_some']

theorem jsonDumps_data (x : String) (xs : List String) :
    (Py.jsonDumps (x :: xs)).data = '[' :: ((Py.jsonQuote x).data ++
      ((xs.flatMap fun y => ',' :: ' ' :: (Py.jsonQuote y).data) ++ [']'])) := by
  simp [Py.jsonDumps, Py.data_intercalate_cons, List.flatMap, Function.comp_def]

/-- `json.dumps` of a list of strings decodes to that list. -/
theorem decodeStringArray_jsonDumps (xs : List String) :
    decodeStringArray (Py.jsonDumps xs).data = some xs := by
  cases xs with
  | nil => rfl
  | cons x xs =>
    obtain ⟨q, hq⟩ : ∃ q, (Py.jsonQuote x).data = '"' :: q := ⟨_, rfl⟩
    have hlen : xs.length <
        ((xs.flatMap fun y => ',' :: ' ' :: (Py.jsonQuote y).data) ++ [']']).length := by
      have := length_le_length_flatMap (fun y => List.cons_ne_nil ',' (' ' :: (Py.jsonQuote y).data)) xs
      simp only [List.length_append, List.length_singleton]
      omega
    have hhead : (skipWs ((Py.jsonQuote x).data ++
        ((xs.flatMap fun y => ',' :: ' ' :: (Py.jsonQuote y).data) ++ [']']))).head? = some '"' := by
      rw [hq]; rfl
    rw [jsonDumps_data]
    simp only [decodeStringArray, show skipWs ('[' :: ((Py.jsonQuote x).data ++
        ((xs.flatMap fun y => ',' :: ' ' :: (Py.jsonQuote y).data) ++ [']']))) =
      '[' :: ((Py.jsonQuote x).data ++
        ((xs.flatMap fun y => ',' :: ' ' :: (Py.jsonQuote y).data) ++ [']'])) from rfl,
      if_true, hhead, if_neg (by decide : ¬ (some '"' : Option Char) = some ']'),
      readStringValue_jsonQuote, Option.some_bind, readElements_tail xs [] hlen, Option.map_some']
    rfl

-- ---------------------------------------------------------------------------
-- ASCII
-- ---------------------------------------------------------------------------

theorem jsonEscape_ascii (c : Char) : ∀ ch ∈ (Py.jsonEscape c).data, ch.toNat < 0x80 := by
  refine Py.jsonEscape_cases (P := fun _ s => ∀ ch ∈ s.data, ch.toNat < 0x80)
    (by decide) (by decide) (by decide) (by decide) (by decide) (by decide) (by decide) ?_ ?_ ?_ c
  · intro c _ _ _ h126 ch hch
    have : c.toNat ≤ 126 := h126
    rw [show (c.toString).data = [c] from rfl, List.mem_singleton] at hch
    subst hch
    omega
  · rintro c hc ch (_ | ⟨_, _ | ⟨_, hch⟩⟩)
    any_goals decide
    exact (hex4_spec hc).2.2 ch hch
  · intro c hc
    have hvalid : c.toNat < 0xd800 ∨ (0xdfff < c.toNat ∧ c.toNat < 0x110000) := c.valid
    simp only [String.data_append, List.mem_append]
    have hhi : 0xD800 + (c.toNat - 0x10000) / 0x400 < 0x10000 := by omega
    have hlo : 0xDC00 + (c.toNat - 0x10000) % 0x400 < 0x10000 := by omega
    rintro ch (((h | h) | h) | h)
    · revert ch h; decide
    · exact (hex4_spec hhi).2.2 ch h
    · revert ch h; decide
    · exact (hex4_spec hlo).2.2 ch h

theorem jsonQuote_ascii (x : String) : ∀ ch ∈ (Py.jsonQuote x).data, ch.toNat < 0x80 := by
  simp only [Py.jsonQuote, String.data_append, Py.data_join, List.mem_append, List.mem_flatMap,
    List.mem_map]
  rintro ch ((h | ⟨_, ⟨c, -, rfl⟩, h⟩) | h)
  · revert ch h; decide
  · exact jsonEscape_ascii c ch h
  · revert ch h; decide

theorem jsonDumps_ascii (xs : List String) : ∀ ch ∈ (Py.jsonDumps xs).data, ch.toNat < 0x80 := by
  cases xs with
  | nil => decide
  | cons x xs =>
    rw [jsonDumps_data]
    simp only [List.mem_cons, List.mem_append, List.mem_flatMap, List.mem_singleton,
      List.not_mem_nil, or_false]
    rintro ch (rfl | h | ⟨y, -, rfl | rfl | h⟩ | rfl)
    · decide
    · exact jsonQuote_ascii x ch h
    · decide
    · decide
    · exact jsonQuote_ascii y ch h
    · decide

end Json

-- ---------------------------------------------------------------------------
-- SAMBACC_CONFIG
-- ---------------------------------------------------------------------------

/-- The `SAMBACC_CONFIG` variable of every config's Samba environment is ASCII text that
    a JSON reader decodes to `config_uris()`. -/
theorem sambaccConfig_decodes (cfg : Config) :
    ∃ v, (sambaEnvs cfg).get? "SAMBACC_CONFIG" = some v ∧ (∀ ch ∈ v.data, ch.toNat < 0x80) ∧
      Json.decodeStringArray v.data = some cfg.configUris := by
  refine ⟨Py.jsonDumps cfg.configUris, ?_, Json.jsonDumps_ascii _,
    Json.decodeStringArray_jsonDumps _⟩
  rw [PyDict.get?_def, sambaEnvs_items]
  simp [List.lookup_cons]

end CephadmSmb
