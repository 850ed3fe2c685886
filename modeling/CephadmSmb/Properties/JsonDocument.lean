-- SUMMARY: json.dump of the form's JSON values reads back: a JSON reader of strings, arrays and objects parses every text json.dump writes, the ctdb.json descriptor included, to the value written, and the text is ASCII.
import CephadmSmb.Properties.Encoding

/-!
# JSON documents

`_write_ctdb_stub_config` writes the cluster descriptor with `json.dump`, and sambacc
reads the file back as JSON. `Json.readValue` is a reader of JSON texts whose values
are strings, arrays and objects, written from the JSON grammar (whitespace around
every token, the string escapes), with a budget that bounds the nesting depth; it
reuses the string reader of `Encoding`. `Json.decodeValue` reads one value with the
text's length as the budget and accepts only trailing whitespace after it.

The round trip is proved by induction on the budget. A value's reader calls the
readers of the items and members after the first with one unit less of budget; those
read back, by induction on the list, from the round trip of every shorter value
(section `Budget`). Every value `json.dump` writes parses back to itself, and its text
is ASCII, for every string, list and dict, nested to any depth.
-/

namespace CephadmSmb

namespace Json

-- ---------------------------------------------------------------------------
-- A reader of JSON values
-- ---------------------------------------------------------------------------

/-- The items of an array after its first, each after a comma, up to the closing
    bracket; `n` bounds their number. -/
def readItems (read : List Char → Option (JsonValue × List Char)) :
    Nat → List Char → Option (List JsonValue × List Char)
  | 0, _ => none
  | n + 1, cs =>
    match skipWs cs with
    | ']' :: rest => some ([], rest)
    | ',' :: rest =>
      (read rest).bind fun (v, rest) => (readItems read n rest).map fun (vs, rest) => (v :: vs, rest)
    | _ => none

/-- One member of an object: a string, a colon and a value. -/
def readMember (read : List Char → Option (JsonValue × List Char)) (cs : List Char) :
    Option ((String × JsonValue) × List Char) :=
  (readStringValue cs).bind fun (k, rest) =>
    match skipWs rest with
    | ':' :: rest => (read rest).map fun (v, rest) => ((k, v), rest)
    | _ => none

/-- The members of an object after its first, each after a comma, up to the closing
    brace; `n` bounds their number. -/
def readMembers (read : List Char → Option (JsonValue × List Char)) :
    Nat → List Char → Option (List (String × JsonValue) × List Char)
  | 0, _ => none
  | n + 1, cs =>
    match skipWs cs with
    | '}' :: rest => some ([], rest)
    | ',' :: rest =>
      (readMember read rest).bind fun (m, rest) =>
        (readMembers read n rest).map fun (ms, rest) => (m :: ms, rest)
    | _ => none

/-- A JSON value after any whitespace, a string, an array or an object, and the text
    after it; `fuel` bounds the nesting depth. -/
def readValue : Nat → List Char → Option (JsonValue × List Char)
  | 0, _ => none
  | fuel + 1, cs =>
    match skipWs cs with
    | '"' :: _ => (readStringValue cs).map fun (s, rest) => (.str s, rest)
    | '[' :: rest =>
      match skipWs rest with
      | ']' :: rest => some (.list [], rest)
      | _ => (readValue fuel rest).bind fun (v, rest) =>
          (readItems (readValue fuel) rest.length rest).map fun (vs, rest) => (.list (v :: vs), rest)
    | '{' :: rest =>
      match skipWs rest with
      | '}' :: rest => some (.dict [], rest)
      | _ => (readMember (readValue fuel) rest).bind fun (m, rest) =>
          (readMembers (readValue fuel) rest.length rest).map fun (ms, rest) => (.dict (m :: ms), rest)
    | _ => none

/-- A JSON text holding one value, with whitespace around it: the value. -/
def decodeValue (cs : List Char) : Option JsonValue :=
  (readValue cs.length cs).bind fun (v, rest) => if skipWs rest = [] then some v else none

-- ---------------------------------------------------------------------------
-- The text json.dump writes
-- ---------------------------------------------------------------------------

/-- The text of a value starts with a quote, a bracket or a brace. -/
theorem jsonDump_data_head (v : JsonValue) :
    ∃ c t, (Py.jsonDump v).data = c :: t ∧ (c = '"' ∨ c = '[' ∨ c = '{') := by
  match v with
  | .str _ => exact ⟨_, _, rfl, .inl rfl⟩
  | .list [] => exact ⟨_, _, rfl, .inr (.inl rfl)⟩
  | .list (_ :: _) => exact ⟨_, _, Py.jsonDump_data_list_cons _ _, .inr (.inl rfl)⟩
  | .dict [] => exact ⟨_, _, rfl, .inr (.inr rfl)⟩
  | .dict ((_, _) :: _) => exact ⟨_, _, Py.jsonDump_data_dict_cons _ _ _, .inr (.inr rfl)⟩

theorem readValue_space (fuel : Nat) (cs : List Char) : readValue fuel (' ' :: cs) = readValue fuel cs := by
  cases fuel <;> rfl

theorem length_le_jsonDumpItems (vs : List JsonValue) : vs.length ≤ (Py.jsonDumpItems vs).data.length := by
  induction vs with
  | nil => exact le_rfl
  | cons v vs ih => simp only [Py.jsonDumpItems_data_cons, List.length_cons, List.length_append]; omega

theorem length_le_jsonDumpMembers (kvs : List (String × JsonValue)) :
    kvs.length ≤ (Py.jsonDumpMembers kvs).data.length := by
  induction kvs with
  | nil => exact le_rfl
  | cons kv kvs ih =>
    obtain ⟨k, v⟩ := kv
    simp only [Py.jsonDumpMembers_data_cons, List.length_cons, List.length_append]
    omega

theorem readMember_space (read : List Char → Option (JsonValue × List Char)) (cs : List Char) :
    readMember read (' ' :: cs) = readMember read cs :=
  rfl

/-- After a value's text the reader of an array goes on to the items. -/
theorem readValue_array_of_head {fuel : Nat} (v : JsonValue) (rest : List Char) :
    readValue (fuel + 1) ('[' :: ((Py.jsonDump v).data ++ rest)) =
      (readValue fuel ((Py.jsonDump v).data ++ rest)).bind fun (v, rest) =>
        (readItems (readValue fuel) rest.length rest).map fun (vs, rest) => (.list (v :: vs), rest) := by
  obtain ⟨c, t, hv, hc⟩ := jsonDump_data_head v
  rw [hv]
  rcases hc with rfl | rfl | rfl <;> rfl

/-- After a key's text the reader of an object goes on to the members. -/
theorem readValue_object_of_key {fuel : Nat} (k : String) (rest : List Char) :
    readValue (fuel + 1) ('{' :: ((Py.jsonQuote k).data ++ rest)) =
      (readMember (readValue fuel) ((Py.jsonQuote k).data ++ rest)).bind fun (m, rest) =>
        (readMembers (readValue fuel) rest.length rest).map fun (ms, rest) => (.dict (m :: ms), rest) :=
  rfl

/-- A key, its separator and a value that reads back read back as the member written. -/
theorem readMember_jsonDump {fuel : Nat} (k : String) {v : JsonValue}
    (hv : ∀ rest, readValue fuel ((Py.jsonDump v).data ++ rest) = some (v, rest)) (rest : List Char) :
    readMember (readValue fuel) ((Py.jsonQuote k).data ++ (':' :: ' ' :: ((Py.jsonDump v).data ++ rest))) =
      some ((k, v), rest) := by
  rw [readMember, readStringValue_jsonQuote, Option.some_bind]
  show (readValue fuel (' ' :: ((Py.jsonDump v).data ++ rest))).map _ = _
  rw [readValue_space, hv]
  rfl

-- ---------------------------------------------------------------------------
-- The round trip
-- ---------------------------------------------------------------------------

section Budget

variable {fuel : Nat}
  (ih : ∀ v rest, (Py.jsonDump v).data.length ≤ fuel → readValue fuel ((Py.jsonDump v).data ++ rest) = some (v, rest))
include ih

/-- With a budget that reads back every value short enough, the items after an array's
    first read back as written, up to the closing bracket. -/
theorem readItems_jsonDumpItems : ∀ (vs : List JsonValue) (n : Nat) (rest : List Char),
    (Py.jsonDumpItems vs).data.length ≤ fuel → vs.length < n →
      readItems (readValue fuel) n ((Py.jsonDumpItems vs).data ++ ']' :: rest) = some (vs, rest)
  | _, 0, _, _, hn => absurd hn (Nat.not_lt_zero _)
  | [], n + 1, rest, _, _ => rfl
  | v :: vs, n + 1, rest, h, hn => by
    simp only [Py.jsonDumpItems_data_cons, List.length_cons, List.length_append] at h hn
    simp only [Py.jsonDumpItems_data_cons, List.cons_append, List.append_assoc]
    show ((readValue fuel (' ' :: ((Py.jsonDump v).data ++ _))).bind _) = _
    rw [readValue_space, ih v _ (by omega), Option.some_bind]
    dsimp only
    rw [readItems_jsonDumpItems vs n rest (by omega) (by omega)]
    rfl

/-- With such a budget, the members after an object's first read back as written, up
    to the closing brace. -/
theorem readMembers_jsonDumpMembers : ∀ (kvs : List (String × JsonValue)) (n : Nat)
    (rest : List Char), (Py.jsonDumpMembers kvs).data.length ≤ fuel → kvs.length < n →
      readMembers (readValue fuel) n ((Py.jsonDumpMembers kvs).data ++ '}' :: rest) = some (kvs, rest)
  | _, 0, _, _, hn => absurd hn (Nat.not_lt_zero _)
  | [], n + 1, rest, _, _ => rfl
  | (k, v) :: kvs, n + 1, rest, h, hn => by
    simp only [Py.jsonDumpMembers_data_cons, List.length_cons, List.length_append] at h hn
    simp only [Py.jsonDumpMembers_data_cons, List.cons_append, List.append_assoc]
    show ((readMember (readValue fuel) (' ' :: _)).bind _) = _
    rw [readMember_space, readMember_jsonDump k (ih v · (by omega)) _, Option.some_bind]
    dsimp only
    rw [readMembers_jsonDumpMembers kvs n rest (by omega) (by omega)]
    rfl

end Budget

/-- A budget as large as the text reads back the value written, and stops at its end. -/
theorem readValue_jsonDump (v : JsonValue) (fuel : Nat) (rest : List Char)
    (h : (Py.jsonDump v).data.length ≤ fuel) :
    readValue fuel ((Py.jsonDump v).data ++ rest) = some (v, rest) := by
  induction fuel generalizing v rest with
  | zero =>
    obtain ⟨c, t, hv, -⟩ := jsonDump_data_head v
    rw [hv] at h
    exact absurd h (by simp)
  | succ fuel ih =>
    match v with
    | .str s =>
      show (readStringValue ((Py.jsonQuote s).data ++ rest)).map _ = _
      rw [readStringValue_jsonQuote]
      rfl
    | .list [] => rfl
    | .list (v :: vs) =>
      simp only [Py.jsonDump_data_list_cons, List.length_cons, List.length_append] at h
      simp only [Py.jsonDump_data_list_cons, List.cons_append, List.append_assoc, List.singleton_append,
        List.nil_append]
      rw [readValue_array_of_head, ih v _ (by omega), Option.some_bind]
      dsimp only
      rw [readItems_jsonDumpItems ih vs _ rest (by omega)
        (by have := length_le_jsonDumpItems vs; simp only [List.length_append, List.length_cons]; omega)]
      rfl
    | .dict [] => rfl
    | .dict ((k, v) :: kvs) =>
      simp only [Py.jsonDump_data_dict_cons, List.length_cons, List.length_append] at h
      simp only [Py.jsonDump_data_dict_cons, List.cons_append, List.append_assoc, List.singleton_append,
        List.nil_append]
      rw [readValue_object_of_key, readMember_jsonDump k (ih v · (by omega)) _, Option.some_bind]
      dsimp only
      rw [readMembers_jsonDumpMembers ih kvs _ rest (by omega)
        (by have := length_le_jsonDumpMembers kvs; simp only [List.length_append, List.length_cons]; omega)]
      rfl

theorem decodeValue_jsonDump (v : JsonValue) : decodeValue (Py.jsonDump v).data = some v := by
  have h := readValue_jsonDump v (Py.jsonDump v).data.length [] le_rfl
  rw [List.append_nil] at h
  rw [decodeValue, h]
  rfl

-- ---------------------------------------------------------------------------
-- ASCII
-- ---------------------------------------------------------------------------

mutual
theorem jsonDump_ascii : ∀ v : JsonValue, ∀ ch ∈ (Py.jsonDump v).data, ch.toNat < 0x80
  | .str s => by
    rw [Py.jsonDump_data_str]
    exact jsonQuote_ascii s
  | .list [] => by decide
  | .list (v :: vs) => by
    simp only [Py.jsonDump_data_list_cons, List.mem_cons, List.mem_append, List.not_mem_nil,
      or_false]
    rintro ch (rfl | h | h | rfl)
    · decide
    · exact jsonDump_ascii v ch h
    · exact jsonDumpItems_ascii vs ch h
    · decide
  | .dict [] => by decide
  | .dict ((k, v) :: kvs) => by
    simp only [Py.jsonDump_data_dict_cons, List.mem_cons, List.mem_append, List.not_mem_nil,
      or_false]
    rintro ch (rfl | h | rfl | rfl | h | h | rfl)
    · decide
    · exact jsonQuote_ascii k ch h
    · decide
    · decide
    · exact jsonDump_ascii v ch h
    · exact jsonDumpMembers_ascii kvs ch h
    · decide

theorem jsonDumpItems_ascii : ∀ vs : List JsonValue, ∀ ch ∈ (Py.jsonDumpItems vs).data, ch.toNat < 0x80
  | [] => nofun
  | v :: vs => by
    simp only [Py.jsonDumpItems_data_cons, List.mem_cons, List.mem_append]
    rintro ch (rfl | rfl | h | h)
    · decide
    · decide
    · exact jsonDump_ascii v ch h
    · exact jsonDumpItems_ascii vs ch h

theorem jsonDumpMembers_ascii :
    ∀ kvs : List (String × JsonValue), ∀ ch ∈ (Py.jsonDumpMembers kvs).data, ch.toNat < 0x80
  | [] => nofun
  | (k, v) :: kvs => by
    simp only [Py.jsonDumpMembers_data_cons, List.mem_cons, List.mem_append]
    rintro ch (rfl | rfl | h | rfl | rfl | h | h)
    · decide
    · decide
    · exact jsonQuote_ascii k ch h
    · decide
    · decide
    · exact jsonDump_ascii v ch h
    · exact jsonDumpMembers_ascii kvs ch h
end

-- ---------------------------------------------------------------------------
-- The documents the form writes
-- ---------------------------------------------------------------------------

/-- Every JSON value the form writes, strings, lists and dicts nested to any depth, the
    `ctdb.json` descriptor among them: `json.dump` writes ASCII text, and the reader
    parses it back to the value written, stopping exactly at its end whatever follows. -/
theorem jsonDump_reads_back (v : JsonValue) :
    (∀ ch ∈ (Py.jsonDump v).data, ch.toNat < 0x80) ∧
    decodeValue (Py.jsonDump v).data = some v ∧
    ∀ rest, readValue (Py.jsonDump v).data.length ((Py.jsonDump v).data ++ rest) = some (v, rest) :=
  ⟨jsonDump_ascii v, decodeValue_jsonDump v, fun rest => readValue_jsonDump v _ rest le_rfl⟩

end Json

end CephadmSmb
