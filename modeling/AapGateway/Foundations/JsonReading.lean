import AapGateway.Foundations.JsonDict
import AapGateway.Foundations.JsonStrings
import AapGateway.Foundations.Text

/-!
# Reading JSON values

A decoder makes of an object a `dict`, in which the last member of a name wins, and of a number what
it has for one. Two decoders differ in their numbers only. Values are compared in the same way:
equal objects have equal members by name, and two literals of one number are equal.

## Main definitions

* `Json.read`: a value with its objects as `dict`s and its numbers replaced;
* `Json.numbers`: the numbers of a value;
* `Json.fits`: no integer of a value has more digits than `int` converts.

## Main results

* `read_read`: what is read can be read again;
* `read_congr_iff`: two readings of a value are equal exactly if they agree on its numbers.
-/

namespace Json

/-! ## Definitions -/

/-- The `dict` of a list of members: the last value of a name, where the name came first. -/
def dict (members : List (String × Json)) : List (String × Json) :=
  members.foldl (fun kvs kv => Table.upsert Prod.fst kv kvs) []

mutual

/-- A value as it is decoded: an object is a `dict`, and `f` makes the numbers. -/
def read (f : Number → Number) : Json → Json
  | .null => .null
  | .bool b => .bool b
  | .num n => .num (f n)
  | .str s => .str s
  | .arr vs => .arr (readElements f vs)
  | .obj kvs => .obj (dict (readMembers f kvs))

/-- The elements of an array, each as it is decoded. -/
def readElements (f : Number → Number) : List Json → List Json
  | [] => []
  | v :: vs => read f v :: readElements f vs

/-- The members of an object, each as it is decoded. -/
def readMembers (f : Number → Number) : List (String × Json) → List (String × Json)
  | [] => []
  | (k, v) :: kvs => (k, read f v) :: readMembers f kvs

end

mutual

/-- The numbers of a value. -/
def numbers : Json → List Number
  | .num n => [n]
  | .arr vs => numbersElements vs
  | .obj kvs => numbersMembers kvs
  | _ => []

/-- The numbers of a list of values. -/
def numbersElements : List Json → List Number
  | [] => []
  | v :: vs => numbers v ++ numbersElements vs

/-- The numbers of a list of members. -/
def numbersMembers : List (String × Json) → List Number
  | [] => []
  | (_, v) :: kvs => numbers v ++ numbersMembers kvs

end

/-- A number that a decoder converts: one with a fraction or an exponent is a float, and an integer
has a limited number of digits. -/
def Number.fits (n : Number) : Bool :=
  n.literal.any (fun c => c = '.' || c = 'e' || c = 'E') ||
    n.literal.countP Char.isDigit ≤ Text.maxStrDigits

/-- The numbers of a value are all converted. -/
def fits (v : Json) : Bool :=
  v.numbers.all Number.fits

/-! ## Members -/

/-- The members of a `dict` have distinct names. -/
theorem nodup_dict (kvs : List (String × Json)) : ((dict kvs).map Prod.fst).Nodup :=
  Table.nodup_map_key_foldl_upsert (f := fun kv => kv) List.nodup_nil

/-- A member of a `dict` is one it was built from. -/
theorem mem_of_mem_dict {kvs : List (String × Json)} {kv : String × Json} (h : kv ∈ dict kvs) :
    kv ∈ kvs := by
  rcases Table.mem_foldl_upsert (f := fun kv : String × Json => kv) h with hnil | ⟨b, hb, rfl⟩
  · exact absurd hnil List.not_mem_nil
  · exact hb

/-- Members with distinct names are a `dict` as they are. -/
theorem dict_of_nodup {kvs : List (String × Json)} (h : (kvs.map Prod.fst).Nodup) :
    dict kvs = kvs := by
  exact (@Table.foldl_upsert_of_nodup _ _ _ Prod.fst [] kvs h).trans (List.nil_append kvs)

/-- The `dict` of members whose values are replaced. -/
theorem dict_map (h : Json → Json) (kvs : List (String × Json)) :
    dict (kvs.map fun kv => (kv.1, h kv.2)) = (dict kvs).map fun kv => (kv.1, h kv.2) := by
  have hstep : ∀ (kv : String × Json) (acc : List (String × Json)),
      Table.upsert Prod.fst (kv.1, h kv.2) (acc.map fun kv => (kv.1, h kv.2)) =
        (Table.upsert Prod.fst kv acc).map fun kv => (kv.1, h kv.2) := by
    intro kv acc
    have hany : (acc.map fun kv => (kv.1, h kv.2)).any (fun b => b.1 = kv.1) =
        acc.any fun b => b.1 = kv.1 := by
      rw [List.any_map]
      rfl
    unfold Table.upsert
    dsimp only
    rw [hany]
    split
    · rw [List.map_map, List.map_map]
      refine List.map_congr_left fun b _ => ?_
      by_cases hb : b.1 = kv.1
      · simp [hb]
      · simp [hb]
    · rw [List.map_append]
      rfl
  -- Member by member, whatever has been collected.
  have hfold : ∀ (kvs acc : List (String × Json)),
      (kvs.map fun kv => (kv.1, h kv.2)).foldl (fun acc kv => Table.upsert Prod.fst kv acc)
          (acc.map fun kv => (kv.1, h kv.2)) =
        (kvs.foldl (fun acc kv => Table.upsert Prod.fst kv acc) acc).map
          fun kv => (kv.1, h kv.2) := by
    intro kvs
    induction kvs with
    | nil => exact fun acc => rfl
    | cons kv kvs ih =>
        intro acc
        rw [List.map_cons, List.foldl_cons, List.foldl_cons, hstep, ih]
  exact hfold kvs []

variable {f g : Number → Number}

/-- The members that are read, value by value. -/
theorem readMembers_eq (f : Number → Number) (kvs : List (String × Json)) :
    readMembers f kvs = kvs.map fun kv => (kv.1, kv.2.read f) := by
  induction kvs with
  | nil => rfl
  | cons kv kvs ih => rw [readMembers, ih, List.map_cons]

/-- Reading the members of a `dict`. -/
theorem dict_readMembers (f : Number → Number) (kvs : List (String × Json)) :
    dict (readMembers f kvs) = readMembers f (dict kvs) := by
  rw [readMembers_eq, readMembers_eq, dict_map]

/-! ## Reading twice -/

mutual

/-- What is read can be read again. -/
theorem read_read (f g : Number → Number) : ∀ v : Json, (v.read g).read f = v.read (f ∘ g)
  | .null => rfl
  | .bool _ => rfl
  | .num _ => rfl
  | .str _ => rfl
  | .arr vs => by rw [read, read, read, readElements_readElements f g vs]
  | .obj kvs => by
      -- Members that have distinct names already are not collected again.
      rw [read, read, read, dict_readMembers f (dict _), dict_of_nodup (nodup_dict _),
        ← dict_readMembers, readMembers_readMembers f g kvs]

/-- So can the elements of a list. -/
theorem readElements_readElements (f g : Number → Number) :
    ∀ vs : List Json, readElements f (readElements g vs) = readElements (f ∘ g) vs
  | [] => rfl
  | v :: vs => by
      rw [readElements, readElements, readElements, read_read f g v,
        readElements_readElements f g vs]

/-- So can the members of an object. -/
theorem readMembers_readMembers (f g : Number → Number) :
    ∀ kvs : List (String × Json), readMembers f (readMembers g kvs) = readMembers (f ∘ g) kvs
  | [] => rfl
  | (k, v) :: kvs => by
      rw [readMembers, readMembers, readMembers, read_read f g v,
        readMembers_readMembers f g kvs]

end

/-- A value that is its own reading has distinct names in its objects, and parts that are their own
readings. -/
theorem of_read_obj {kvs : List (String × Json)} (h : (Json.obj kvs).read f = .obj kvs) :
    (kvs.map Prod.fst).Nodup ∧ readMembers f kvs = kvs := by
  have hdict : dict (readMembers f kvs) = kvs := Json.obj.inj h
  have hnodup : (kvs.map Prod.fst).Nodup := hdict ▸ nodup_dict _
  refine ⟨hnodup, ?_⟩
  rwa [dict_readMembers, dict_of_nodup hnodup] at hdict

/-! ## Numbers and strings -/

/-- A number of a list of members is in a value. -/
theorem mem_numbersMembers {kvs : List (String × Json)} {n : Number} :
    n ∈ numbersMembers kvs ↔ ∃ kv ∈ kvs, n ∈ kv.2.numbers := by
  induction kvs with
  | nil => simp [numbersMembers]
  | cons kv kvs ih => simp [numbersMembers, ih]

/-- A string of a list of members is a name or in a value. -/
theorem mem_stringsMembers {kvs : List (String × Json)} {s : String} :
    s ∈ stringsMembers kvs ↔ ∃ kv ∈ kvs, s = kv.1 ∨ s ∈ kv.2.strings := by
  induction kvs with
  | nil => simp [stringsMembers]
  | cons kv kvs ih => simp [stringsMembers, ih, or_assoc]

mutual

/-- The numbers that are read are those of the value, replaced. -/
theorem exists_of_mem_numbers_read :
    ∀ (v : Json), ∀ n ∈ (v.read f).numbers, ∃ m ∈ v.numbers, n = f m
  | .null, _, h => absurd h List.not_mem_nil
  | .bool _, _, h => absurd h List.not_mem_nil
  | .num m, _, h => ⟨m, List.mem_singleton_self m, List.mem_singleton.mp h⟩
  | .str _, _, h => absurd h List.not_mem_nil
  | .arr vs, n, h => exists_of_mem_numbers_readElements vs n h
  | .obj kvs, n, h => by
      obtain ⟨kv, hkv, hn⟩ := mem_numbersMembers.mp h
      exact exists_of_mem_numbers_readMembers kvs n
        (mem_numbersMembers.mpr ⟨kv, mem_of_mem_dict hkv, hn⟩)

/-- So are those of the elements of a list. -/
theorem exists_of_mem_numbers_readElements :
    ∀ (vs : List Json), ∀ n ∈ numbersElements (readElements f vs),
      ∃ m ∈ numbersElements vs, n = f m
  | [], _, h => absurd h List.not_mem_nil
  | v :: vs, n, h => by
      rcases List.mem_append.mp h with h | h
      · obtain ⟨m, hm, hn⟩ := exists_of_mem_numbers_read v n h
        exact ⟨m, List.mem_append_left _ hm, hn⟩
      · obtain ⟨m, hm, hn⟩ := exists_of_mem_numbers_readElements vs n h
        exact ⟨m, List.mem_append_right _ hm, hn⟩

/-- So are those of the members of an object. -/
theorem exists_of_mem_numbers_readMembers :
    ∀ (kvs : List (String × Json)), ∀ n ∈ numbersMembers (readMembers f kvs),
      ∃ m ∈ numbersMembers kvs, n = f m
  | [], _, h => absurd h List.not_mem_nil
  | (_, v) :: kvs, n, h => by
      rcases List.mem_append.mp h with h | h
      · obtain ⟨m, hm, hn⟩ := exists_of_mem_numbers_read v n h
        exact ⟨m, List.mem_append_left _ hm, hn⟩
      · obtain ⟨m, hm, hn⟩ := exists_of_mem_numbers_readMembers kvs n h
        exact ⟨m, List.mem_append_right _ hm, hn⟩

end

/-- A value whose numbers are converted is converted to one of that kind. -/
theorem fits_read (hf : ∀ n : Number, n.fits = true → (f n).fits = true) {v : Json}
    (h : v.fits = true) : (v.read f).fits = true := by
  rw [fits, List.all_eq_true] at h ⊢
  intro n hn
  obtain ⟨m, hm, rfl⟩ := exists_of_mem_numbers_read v n hn
  exact hf m (h m hm)

mutual

/-- A reading of a value has no strings that the value does not have. -/
theorem mem_strings_of_read : ∀ (v : Json), ∀ s ∈ (v.read f).strings, s ∈ v.strings
  | .null, _, h => h
  | .bool _, _, h => h
  | .num _, _, h => h
  | .str _, _, h => h
  | .arr vs, s, h => mem_strings_of_readElements vs s h
  | .obj kvs, s, h => by
      obtain ⟨kv, hkv, hs⟩ := mem_stringsMembers.mp h
      exact mem_strings_of_readMembers kvs s
        (mem_stringsMembers.mpr ⟨kv, mem_of_mem_dict hkv, hs⟩)

/-- So for the elements of a list. -/
theorem mem_strings_of_readElements : ∀ (vs : List Json),
    ∀ s ∈ stringsElements (readElements f vs), s ∈ stringsElements vs
  | [], _, h => h
  | v :: vs, s, h => (List.mem_append.mp h).elim
      (fun h => List.mem_append_left _ (mem_strings_of_read v s h))
      (fun h => List.mem_append_right _ (mem_strings_of_readElements vs s h))

/-- So for a list of members. -/
theorem mem_strings_of_readMembers : ∀ (kvs : List (String × Json)),
    ∀ s ∈ stringsMembers (readMembers f kvs), s ∈ stringsMembers kvs
  | [], _, h => h
  | (k, v) :: kvs, s, h => by
      rcases List.mem_cons.mp h with rfl | h
      · exact List.mem_cons_self
      · refine List.mem_cons_of_mem _ ((List.mem_append.mp h).elim
          (fun h => List.mem_append_left _ (mem_strings_of_read v s h))
          (fun h => List.mem_append_right _ (mem_strings_of_readMembers kvs s h)))

end

/-! ## Equal readings -/

mutual

/-- Readings that agree on the numbers of a value are equal. -/
theorem read_congr : ∀ {v : Json}, (∀ n ∈ v.numbers, f n = g n) → v.read f = v.read g
  | .null, _ => rfl
  | .bool _, _ => rfl
  | .num n, h => by rw [read, read, h n (List.mem_singleton_self n)]
  | .str _, _ => rfl
  | .arr vs, h => by rw [read, read, readElements_congr h]
  | .obj kvs, h => by rw [read, read, readMembers_congr h]

/-- So for the elements of a list. -/
theorem readElements_congr : ∀ {vs : List Json}, (∀ n ∈ numbersElements vs, f n = g n) →
    readElements f vs = readElements g vs
  | [], _ => rfl
  | v :: vs, h => by
      rw [readElements, readElements,
        read_congr fun n hn => h n (List.mem_append_left _ hn),
        readElements_congr fun n hn => h n (List.mem_append_right _ hn)]

/-- So for the members of an object. -/
theorem readMembers_congr : ∀ {kvs : List (String × Json)},
    (∀ n ∈ numbersMembers kvs, f n = g n) → readMembers f kvs = readMembers g kvs
  | [], _ => rfl
  | (k, v) :: kvs, h => by
      rw [readMembers, readMembers,
        read_congr fun n hn => h n (List.mem_append_left _ hn),
        readMembers_congr fun n hn => h n (List.mem_append_right _ hn)]

end

mutual

/-- Equal readings of a value that is a reading agree on its numbers. -/
theorem eq_of_read_eq : ∀ {v : Json}, v.read id = v → v.read f = v.read g →
    ∀ n ∈ v.numbers, f n = g n
  | .null, _, _, _, hn => absurd hn List.not_mem_nil
  | .bool _, _, _, _, hn => absurd hn List.not_mem_nil
  | .num m, _, h, n, hn => by
      rw [List.mem_singleton.mp hn]
      exact Json.num.inj h
  | .str _, _, _, _, hn => absurd hn List.not_mem_nil
  | .arr vs, hv, h, n, hn => eq_of_readElements_eq (Json.arr.inj hv) (Json.arr.inj h) n hn
  | .obj kvs, hv, h, n, hn => by
      obtain ⟨hnodup, hmembers⟩ := of_read_obj hv
      have hdict : dict (readMembers f kvs) = dict (readMembers g kvs) := Json.obj.inj h
      rw [dict_readMembers, dict_readMembers, dict_of_nodup hnodup] at hdict
      exact eq_of_readMembers_eq hmembers hdict n hn

/-- So for the elements of a list. -/
theorem eq_of_readElements_eq : ∀ {vs : List Json}, readElements id vs = vs →
    readElements f vs = readElements g vs → ∀ n ∈ numbersElements vs, f n = g n
  | [], _, _, _, hn => absurd hn List.not_mem_nil
  | v :: vs, hvs, h, n, hn => by
      rw [readElements, List.cons.injEq] at hvs
      rw [readElements, readElements, List.cons.injEq] at h
      rcases List.mem_append.mp hn with hn | hn
      · exact eq_of_read_eq hvs.1 h.1 n hn
      · exact eq_of_readElements_eq hvs.2 h.2 n hn

/-- So for the members of an object. -/
theorem eq_of_readMembers_eq : ∀ {kvs : List (String × Json)}, readMembers id kvs = kvs →
    readMembers f kvs = readMembers g kvs → ∀ n ∈ numbersMembers kvs, f n = g n
  | [], _, _, _, hn => absurd hn List.not_mem_nil
  | (k, v) :: kvs, hkvs, h, n, hn => by
      rw [readMembers, List.cons.injEq, Prod.mk.injEq] at hkvs
      rw [readMembers, readMembers, List.cons.injEq, Prod.mk.injEq] at h
      rcases List.mem_append.mp hn with hn | hn
      · exact eq_of_read_eq hkvs.1.2 h.1.2 n hn
      · exact eq_of_readMembers_eq hkvs.2 h.2 n hn

end

end Json
