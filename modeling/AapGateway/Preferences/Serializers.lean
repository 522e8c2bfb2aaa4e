import AapGateway.Foundations.PythonText

/-!
# Serializers of preferences

A preference's serializer turns its value into the text that is stored and a stored text into a
value. A submitted value goes the second way too: `str` of it, with every single quote replaced by a
double one, is what the serializer is given.

## Main definitions

* `Serializer`, `stringSerializer` and `jsonSerializer`;
* `converterArg`: the text a submitted value is converted from;
* `Survives`: the JSON values that come back from that text.

## Main results

* `toPython_converterArg_iff`: what `JSONSerializer` makes of a submitted value is that value
  exactly if the value survives.
-/

namespace AapGateway.Preferences

/-- A serializer. `none` is an exception. -/
structure Serializer where
  toPython : Option String → Option Json
  toDb : Json → Option String

/-- `StringSerializer` of the preferences library, the identity on strings. -/
def stringSerializer : Serializer where
  toPython value := some (.str (value.getD ""))
  toDb
    | .str s => some s
    | _ => none

section JSONSerializer

variable (py : Python)

/-- `JSONSerializer.to_python`. -/
def jsonToPython : Option String → Option Json
  | none => some .null
  | some value => (py.loads value).or (py.loads ("\"" ++ value ++ "\""))

/-- `JSONSerializer`. -/
def jsonSerializer : Serializer where
  toPython := jsonToPython py
  toDb value := some (Json.dumps value)

/-- The text that a submitted value is converted from: `str(new_value).replace("'", '"')`. -/
def converterArg : Json → Option String
  | .null => none
  | new_value => some (Python.doubleQuotes (py.str new_value))

/-- The JSON values that come back from `converter_arg`. A string must be of characters that mean
themselves between double quotes and must not be read as a value itself, and what is inside a list
or a `dict` must be plain. -/
def Survives : Json → Prop
  | .null => True
  | .bool _ => False
  | .num n => n.isFinite = true
  | .str s => Python.QuoteFree s ∧ '\\' ∉ s.toList ∧ py.loads s = none
  | v => py.Plain v

/-- What is stored for a value is read as it. -/
theorem jsonToPython_dumps {v : Json} (hv : py.IsValue v) :
    jsonToPython py (some (Json.dumps v)) = some v := by
  simp [jsonToPython, py.loads_dumps hv]

/-- What is read from a text is a Python value. -/
theorem isValue_of_jsonToPython {value : Option String} {v : Json}
    (h : jsonToPython py value = some v) : py.IsValue v := by
  cases value with
  | none =>
      cases h
      exact ⟨rfl, rfl⟩
  | some value =>
      rcases Option.or_eq_some_iff.mp h with h | ⟨-, h⟩
      · exact py.isValue_of_loads h
      · exact py.isValue_of_loads h

/-- What is read from a text between double quotes is a string. -/
theorem exists_str_of_loads_quoted {value : String} {v : Json}
    (h : py.loads ("\"" ++ value ++ "\"") = some v) :
    ∃ u, v = .str u ∧
      (u.toList.length = value.toList.length → '"' ∉ value.toList ∧ '\\' ∉ value.toList) ∧
      ('"' ∉ value.toList → '\\' ∉ value.toList → u = value) := by
  obtain ⟨w, hw, -, rfl⟩ := py.loads_eq_some_iff.mp h
  have htext : "\"" ++ value ++ "\"" = String.ofList ('"' :: (value.toList ++ ['"'])) := by
    apply String.toList_injective
    simp
  rw [htext] at hw
  obtain ⟨u, rfl, hlength, hsame⟩ := Json.loads_between_quotes hw
  exact ⟨u, rfl, hlength, fun hquote hbackslash =>
    String.toList_injective (hsame hquote hbackslash)⟩

/-- The replacement keeps the length. -/
theorem length_doubleQuotes (s : String) :
    (Python.doubleQuotes s).toList.length = s.toList.length := by
  rw [Python.doubleQuotes_eq, String.toList_ofList, List.length_map]

/-- The replacement does nothing to a string without single quotes, and only to such a one. -/
theorem doubleQuotes_eq_self_iff {s : String} :
    Python.doubleQuotes s = s ↔ '\'' ∉ s.toList := by
  rw [Python.doubleQuotes_eq, ← String.toList_inj, String.toList_ofList]
  constructor
  · intro h hmem
    rw [← h, List.mem_map] at hmem
    obtain ⟨c, -, hc⟩ := hmem
    unfold Python.swapQuote at hc
    split at hc
    · exact absurd hc (by decide)
    · contradiction
  · intro h
    refine (List.map_congr_left fun c hc => Python.swapQuote_of_ne ?_).trans (List.map_id _)
    rintro rfl
    exact h hc

/-- A submitted string comes back exactly if it has no quotes and no backslash and is not read as a
value of its own. -/
theorem toPython_doubleQuotes_iff {s : String} {w : Json}
    (h : jsonToPython py (some (Python.doubleQuotes s)) = some w) :
    w = .str s ↔ Python.QuoteFree s ∧ '\\' ∉ s.toList ∧ py.loads s = none := by
  rcases Option.or_eq_some_iff.mp h with hloads | ⟨hnone, hquoted⟩
  · constructor
    · rintro rfl
      -- A text that is read as a string is longer than the string.
      have hstr := py.loads_eq_str_iff.mp hloads
      exact absurd (Json.length_lt_of_loads hstr) (by rw [length_doubleQuotes]; exact lt_irrefl _)
    · rintro ⟨⟨hsingle, -⟩, -, hno⟩
      rw [doubleQuotes_eq_self_iff.mpr hsingle, hno] at hloads
      cases hloads
  · obtain ⟨u, rfl, hlength, hsame⟩ := exists_str_of_loads_quoted py hquoted
    constructor
    · intro heq
      obtain rfl : u = s := Json.str.inj heq
      -- Nothing was escaped, since the string is as long as the text it is read from.
      obtain ⟨hquote, hbackslash⟩ := hlength (length_doubleQuotes u).symm
      have hself : Python.doubleQuotes u = u := (hsame hquote hbackslash).symm
      rw [hself] at hquote hbackslash hnone
      exact ⟨⟨doubleQuotes_eq_self_iff.mp hself, hquote⟩, hbackslash, hnone⟩
    · rintro ⟨⟨hsingle, hdouble⟩, hbackslash, -⟩
      rw [doubleQuotes_eq_self_iff.mpr hsingle] at hsame
      rw [hsame hdouble hbackslash]

/-- What is made of a list or a `dict` is that value exactly if its parts are plain. -/
theorem toPython_swapped_iff {v w : Json} (b : Bool) (hv : py.IsValue v) (hstr : ∀ s, v ≠ .str s)
    (h : jsonToPython py (some (Python.doubleQuotes (py.str v))) = some w) :
    py.eqv b v w = true ↔ py.Plain v := by
  rw [py.doubleQuotes_str hstr] at h
  rcases Option.or_eq_some_iff.mp h with hloads | ⟨hnone, hquoted⟩
  · obtain ⟨u, hu, -, rfl⟩ := py.loads_eq_some_iff.mp hloads
    exact py.loads_swapped_iff b hv.ofJson_eq hu
  · obtain ⟨u, rfl, -⟩ := exists_str_of_loads_quoted py hquoted
    constructor
    · intro heqv
      -- The text is not read as it stands, and a string is no list.
      cases v with
      | str s => exact absurd rfl (hstr s)
      | _ => cases heqv
    · intro hplain
      rw [py.loads_of_isValue hv (py.loads_swapped_of_plain hplain)] at hnone
      cases hnone

/-- What `JSONSerializer` makes of a submitted value is that value exactly if the value survives. -/
theorem toPython_converterArg_iff {v w : Json} (b : Bool) (hv : py.IsValue v)
    (h : jsonToPython py (converterArg py v) = some w) :
    py.eqv b v w = true ↔ Survives py v := by
  cases v with
  | null =>
      cases h
      exact iff_of_true rfl trivial
  | bool _ =>
      exact (toPython_swapped_iff py b hv (by simp) h).trans (iff_of_false id id)
  | num n => exact toPython_swapped_iff py b hv (by simp) h
  | str s =>
      have hsame : py.eqv b (.str s) w = true ↔ w = .str s := by
        cases w <;> simp [Python.eqv, eq_comm]
      exact hsame.trans (toPython_doubleQuotes_iff py h)
  | arr vs => exact toPython_swapped_iff py b hv (by simp) h
  | obj kvs => exact toPython_swapped_iff py b hv (by simp) h

end JSONSerializer

end AapGateway.Preferences
