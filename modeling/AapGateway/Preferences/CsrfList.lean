import AapGateway.Foundations.Separated
import AapGateway.Preferences.CsrfOrigins
import AapGateway.Preferences.Serializers

/-!
# The list of trusted origins

The preference of the trusted origins is kept beside the setting of the same name. `CSRFSerializer`
takes the origins of the setting out of a list before it is stored, and puts the valid ones in front
of what is stored when it is read. So a value does not come back as it was: an invalid origin of the
setting is lost, and a valid one that was not in it is there.

## Main definitions

* `csrfToDb` and `csrfToPython`: the two ways of `CSRFSerializer`;
* `SetOrder`: the order in which a set of the modelled language is listed.

## Main results

* `csrfRoundTrip_eq`: the list that comes back, in any order of the set;
* `csrf_roundTrip`: its elements, and that a second round changes none of them.
-/

namespace AapGateway.Preferences

/-- The order in which the elements of a list are listed as a set. It may be any. -/
structure SetOrder where
  list : List String → List String
  perm : ∀ l, (list l).Perm l.eraseDups

section CSRFSerializer

variable (py : Python) (names : OriginNames) (csrfSettings : List String)

/-- `CSRFSerializer.to_db` of a list of strings. -/
def csrfToDb (order : SetOrder) (value : List String) : Option String :=
  let saveValues := order.list (value.filter (· ∉ csrfSettings))
  (jsonSerializer py).toDb (.arr (saveValues.map .str))

/-- The `valid_values` of the setting. -/
def validOrigins : List String :=
  csrfSettings.filter fun url => (checkCsrfOrigin names url).isNone

/-- The loop of `CSRFSerializer.to_python`, with its `seen_values`. -/
def mergeOrigins : List String → List Json → List Json
  | _, [] => []
  | seen, .str value :: values =>
      if value ∈ seen then mergeOrigins seen values
      else .str value :: mergeOrigins (value :: seen) values
  | seen, value :: values => value :: mergeOrigins seen values

/-- `CSRFSerializer.to_python`. What is no list counts as an empty one. -/
def csrfToPython (value : Option String) : Option Json :=
  match jsonToPython py value with
  | none => none
  | some ret =>
    let values :=
      match ret with
      | .arr values => values
      | _ => []
    some (.arr (mergeOrigins [] ((validOrigins names csrfSettings).map .str ++ values)))

/-- `to_python(to_db(value))`. -/
def csrfRoundTrip (order : SetOrder) (value : List String) : Option Json :=
  (csrfToDb py csrfSettings order value).bind fun text =>
    csrfToPython py names csrfSettings (some text)

end CSRFSerializer

section RoundTrip

variable {py : Python} {names : OriginNames} {csrfSettings : List String}

/-- The loop keeps the first of every string that it has not seen. -/
theorem mergeOrigins_map_str (seen values : List String) :
    mergeOrigins seen (values.map .str) = ((values.filter (· ∉ seen)).eraseDups).map .str := by
  induction values generalizing seen with
  | nil => rfl
  | cons value values ih =>
      rw [List.map_cons, mergeOrigins]
      by_cases hseen : value ∈ seen
      · rw [if_pos hseen, ih, List.filter_cons_of_neg (by simpa using hseen)]
      · rw [if_neg hseen, ih, List.filter_cons_of_pos (by simpa using hseen), List.eraseDups_cons,
          List.map_cons, List.filter_filter]
        -- A string that has been seen is not the new one, and was not seen before it.
        congr 4
        funext other
        by_cases hother : other = value <;> simp [hother]

/-- From the beginning nothing has been seen. -/
theorem mergeOrigins_nil_map_str (values : List String) :
    mergeOrigins [] (values.map .str) = values.eraseDups.map .str := by
  rw [mergeOrigins_map_str, List.filter_eq_self.mpr (by simp)]

/-- A list of strings is a value. -/
theorem isValue_strings (values : List String) : py.IsValue (.arr (values.map .str)) := by
  have helements : Json.readElements py.readNumber (values.map .str) = values.map .str := by
    induction values with
    | nil => rfl
    | cons value values ih => rw [List.map_cons, Json.readElements, ih, Json.read]
  have hnumbers : Json.numbersElements (values.map .str) = [] := by
    induction values with
    | nil => rfl
    | cons value values ih =>
        rw [List.map_cons, Json.numbersElements, ih (by simp_all [Json.readElements])]
        rfl
  constructor
  · rw [Python.ofJson, Json.read, helements]
  · rw [Json.fits, Json.numbers, hnumbers]
    rfl

/-- The list that comes back: the valid origins of the setting, and the others as the set lists
them, each once. -/
theorem csrfRoundTrip_eq (order : SetOrder) (value : List String) :
    csrfRoundTrip py names csrfSettings order value = some (.arr
      ((validOrigins names csrfSettings ++
        order.list (value.filter (· ∉ csrfSettings))).eraseDups.map .str)) := by
  unfold csrfRoundTrip csrfToDb csrfToPython jsonSerializer
  rw [Option.bind_some, jsonToPython_dumps py (isValue_strings _)]
  dsimp only
  rw [← List.map_append, mergeOrigins_nil_map_str]

/-- An element of the list that comes back. -/
theorem mem_roundTrip_iff (order : SetOrder) {value : List String} {url : String} :
    url ∈ (validOrigins names csrfSettings ++
        order.list (value.filter (· ∉ csrfSettings))).eraseDups ↔
      url ∈ validOrigins names csrfSettings ∨ url ∈ value ∧ url ∉ csrfSettings := by
  rw [List.mem_eraseDups, List.mem_append, (order.perm _).mem_iff, List.mem_eraseDups,
    List.mem_filter, decide_eq_true_iff]

/-- What comes back of a list of origins has no duplicates, begins with the distinct valid origins
of the setting in their order, and holds these and the given ones that are not in the setting. What
comes back of it once more has the same elements, whatever the order of the sets. -/
theorem csrf_roundTrip (py : Python) (names : OriginNames) (csrfSettings : List String)
    (order order' : SetOrder) (value : List String) :
    ∃ result : List String,
      csrfRoundTrip py names csrfSettings order value = some (.arr (result.map .str)) ∧
      result.Nodup ∧
      (validOrigins names csrfSettings).eraseDups <+: result ∧
      (∀ url, url ∈ result ↔
        url ∈ validOrigins names csrfSettings ∨ url ∈ value ∧ url ∉ csrfSettings) ∧
      ∃ again : List String,
        csrfRoundTrip py names csrfSettings order' result = some (.arr (again.map .str)) ∧
        ∀ url, url ∈ again ↔ url ∈ result := by
  refine ⟨_, csrfRoundTrip_eq order value, Separated.nodup_eraseDups _, ?_,
    fun url => mem_roundTrip_iff order, _, csrfRoundTrip_eq order' _, fun url => ?_⟩
  · rw [List.eraseDups_append]
    exact List.prefix_append _ _
  · rw [mem_roundTrip_iff order', mem_roundTrip_iff order]
    -- The valid origins are origins of the setting, so the second round takes them out first.
    have hvalid : url ∈ validOrigins names csrfSettings → url ∈ csrfSettings := fun h =>
      (List.mem_filter.mp h).1
    tauto

end RoundTrip

end AapGateway.Preferences
