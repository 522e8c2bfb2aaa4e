import AapGateway.Foundations.Json

/-!
# The strings of a JSON text

What reading a text says about the value it stands for. A text that a writer wrote is read as the
value that was written or not at all, if each part is; and a character that no part of a text stands
for occurs in no string of the value that is read.

## Main definitions

* `Json.strings`: the strings of a value, the names of its members included;
* `Json.Lacks`: no character and no escape of a text stands for a character.

## Main results

* `Json.Writer.Lawful.reads_of_loads`: what is read from a written text is what was written;
* `Json.notMem_of_loads`: a character that a text lacks is in no string that is read from it;
* `Json.loads_between_quotes`: what a text between double quotes is read as.
-/

namespace Json

mutual

/-- The strings of a value. -/
def strings : Json → List String
  | .str s => [s]
  | .arr vs => stringsElements vs
  | .obj kvs => stringsMembers kvs
  | _ => []

/-- The strings of a list of values. -/
def stringsElements : List Json → List String
  | [] => []
  | v :: vs => strings v ++ stringsElements vs

/-- The strings of a list of members. -/
def stringsMembers : List (String × Json) → List String
  | [] => []
  | (k, v) :: kvs => k :: (strings v ++ stringsMembers kvs)

end

/-! ## Written texts -/

namespace Writer

/-- A string literal is read back if it is read at all. -/
def DecidesLiteral (w : Writer) (s : String) : Prop :=
  ∀ rest r, stringLiteral (w.literal s ++ rest) = some r → w.ReadsLiteral s

/-- A word is read back if it is read at all. -/
structure Strict (w : Writer) : Prop where
  null : ∀ u, ofWord w.null = some u → u = .null
  bool : ∀ b u, ofWord (w.bool b) = some u → u = .bool b
  num : ∀ n u, ofWord (w.num n) = some u → u = .num n

/-- With the fuel, the text of a value is read as that value or not at all. -/
def ValuesOnly (w : Writer) (fuel : ℕ) : Prop :=
  ∀ v rest r, (∀ s ∈ strings v, w.DecidesLiteral s) → EndsWord rest →
    value fuel (w.text v ++ rest) = some r → w.Reads v ∧ r = (v, rest)

/-- With the fuel, so is the text of the elements of an array. -/
def ElementsOnly (w : Writer) (fuel : ℕ) : Prop :=
  ∀ v vs rest r, (∀ s ∈ stringsElements (v :: vs), w.DecidesLiteral s) →
    elements fuel (w.text v ++ (w.textElements vs ++ rest)) = some r →
      w.ReadsElements (v :: vs) ∧ r = (v :: vs, rest)

/-- With the fuel, so is the text of the members of an object. -/
def MembersOnly (w : Writer) (fuel : ℕ) : Prop :=
  ∀ k v kvs rest r, (∀ s ∈ stringsMembers ((k, v) :: kvs), w.DecidesLiteral s) →
    members fuel (w.literal k ++ ':' :: ' ' :: (w.text v ++ (w.textMembers kvs ++ rest))) = some r →
      w.ReadsMembers ((k, v) :: kvs) ∧ r = ((k, v) :: kvs, rest)

variable {w : Writer} {fuel : ℕ}

/-- A word that is read is what it was written for. -/
theorem IsWord.of_value {word rest : List Char} {v : Json} {r : Json × List Char}
    (hword : IsWord word) (hstrict : ∀ u, ofWord word = some u → u = v) (hrest : EndsWord rest)
    (h : Json.value (fuel + 1) (word ++ rest) = some r) : ofWord word = some v ∧ r = (v, rest) := by
  rw [hword.value hrest] at h
  obtain ⟨u, hu, rfl⟩ := Option.map_eq_some_iff.mp h
  obtain rfl := hstrict u hu
  exact ⟨hu, rfl⟩

/-- Values are read as they were written if elements and members are. -/
theorem ElementsOnly.value (hw : w.Lawful) (hstrict : w.Strict) (helements : ElementsOnly w fuel)
    (hmembers : MembersOnly w fuel) : ValuesOnly w (fuel + 1) := by
  intro v rest r hstrings hrest h
  match v, hstrings, h with
  | .null, _, h => exact hw.null.of_value hstrict.null hrest h
  | .bool b, _, h => exact (hw.bool b).of_value (hstrict.bool b) hrest h
  | .num n, _, h => exact (hw.num n).of_value (hstrict.num n) hrest h
  | .str s, hstrings, h =>
      rw [text, hw.value_literal] at h
      obtain ⟨p, hp, rfl⟩ := Option.map_eq_some_iff.mp h
      have hreads := hstrings s (by simp [strings]) rest p hp
      rw [hreads rest] at hp
      cases hp
      exact ⟨hreads, rfl⟩
  | .arr [], _, h =>
      cases h
      exact ⟨trivial, rfl⟩
  | .arr (v :: vs), hstrings, h =>
      rw [hw.value_arr] at h
      obtain ⟨p, hp, rfl⟩ := Option.map_eq_some_iff.mp h
      obtain ⟨hreads, rfl⟩ := helements v vs rest p hstrings hp
      exact ⟨hreads, rfl⟩
  | .obj [], _, h =>
      cases h
      exact ⟨trivial, rfl⟩
  | .obj ((k, v) :: kvs), hstrings, h =>
      rw [hw.value_obj] at h
      obtain ⟨p, hp, rfl⟩ := Option.map_eq_some_iff.mp h
      obtain ⟨hreads, rfl⟩ := hmembers k v kvs rest p hstrings hp
      exact ⟨hreads, rfl⟩

/-- Elements are read as they were written if values and the later elements are. -/
theorem ElementsOnly.succ (hw : w.Lawful) (hvalues : ValuesOnly w fuel)
    (helements : ElementsOnly w fuel) : ElementsOnly w (fuel + 1) := by
  intro v vs rest r hstrings h
  rw [stringsElements] at hstrings
  rw [elements] at h
  simp only [Option.bind_eq_bind, Option.bind_eq_some_iff] at h
  obtain ⟨p, hp, h⟩ := h
  obtain ⟨hv, rfl⟩ := hvalues v _ p (fun s hs => hstrings s (List.mem_append_left _ hs))
    (endsWord_textElements w vs rest) hp
  cases vs with
  | nil =>
      cases h
      exact ⟨⟨hv, trivial⟩, rfl⟩
  | cons u us =>
      simp only [textElements, List.cons_append, List.append_assoc, skipSpace_blank,
        hw.skipSpace_text, skipSpace_cons (c := ',') (by decide), Option.bind_eq_some_iff] at h
      obtain ⟨q, hq, h⟩ := h
      obtain ⟨hus, rfl⟩ := helements u us rest q
        (fun s hs => hstrings s (List.mem_append_right _ hs)) hq
      cases h
      exact ⟨⟨hv, hus⟩, rfl⟩

/-- Members are read as they were written if values and the later members are. -/
theorem MembersOnly.succ (hw : w.Lawful) (hvalues : ValuesOnly w fuel)
    (hmembers : MembersOnly w fuel) : MembersOnly w (fuel + 1) := by
  intro k v kvs rest r hstrings h
  rw [stringsMembers] at hstrings
  rw [members] at h
  simp only [Option.bind_eq_bind, Option.bind_eq_some_iff] at h
  obtain ⟨⟨name, afterName⟩, hname, h⟩ := h
  have hk := hstrings k List.mem_cons_self _ _ hname
  rw [hk] at hname
  cases hname
  simp only [skipSpace_cons (c := ':') (by decide), skipSpace_blank, hw.skipSpace_text,
    Option.bind_eq_some_iff] at h
  obtain ⟨p, hp, h⟩ := h
  obtain ⟨hv, rfl⟩ := hvalues v _ p
    (fun s hs => hstrings s (List.mem_cons_of_mem _ (List.mem_append_left _ hs)))
    (endsWord_textMembers w kvs rest) hp
  rcases kvs with _ | ⟨⟨l, u⟩, us⟩
  · cases h
    exact ⟨⟨hk, hv, trivial⟩, rfl⟩
  · simp only [textMembers, List.cons_append, List.append_assoc, skipSpace_blank,
      hw.skipSpace_literal, skipSpace_cons (c := ',') (by decide), Option.bind_eq_some_iff] at h
    obtain ⟨q, hq, h⟩ := h
    obtain ⟨hus, rfl⟩ := hmembers l u us rest q
      (fun s hs => hstrings s (List.mem_cons_of_mem _ (List.mem_append_right _ hs))) hq
    cases h
    exact ⟨⟨hk, hv, hus⟩, rfl⟩

/-- Whatever the fuel, a written text is read as what was written or not at all. -/
theorem Lawful.only (hw : w.Lawful) (hstrict : w.Strict) (fuel : ℕ) :
    ValuesOnly w fuel ∧ ElementsOnly w fuel ∧ MembersOnly w fuel := by
  induction fuel with
  | zero =>
      refine ⟨fun v rest r _ _ h => ?_, fun v vs rest r _ h => ?_, fun k v kvs rest r _ h => ?_⟩
      · simp [Json.value] at h
      · simp [elements] at h
      · simp [members] at h
  | succ fuel ih =>
      obtain ⟨hvalues, helements, hmembers⟩ := ih
      exact ⟨helements.value hw hstrict hmembers, helements.succ hw hvalues,
        hmembers.succ hw hvalues⟩

/-- What is read from a written text is what was written, and its parts are read back. -/
theorem Lawful.reads_of_loads (hw : w.Lawful) (hstrict : w.Strict) {v u : Json}
    (hstrings : ∀ s ∈ strings v, w.DecidesLiteral s)
    (h : loads (String.ofList (w.text v)) = some u) : w.Reads v ∧ u = v := by
  have hspace : skipSpace (w.text v) = w.text v := by
    simpa using hw.skipSpace_text v []
  rw [loads, String.toList_ofList, hspace] at h
  split at h
  · rename_i u' rest hvalue
    rw [← List.append_nil (w.text v)] at hvalue
    obtain ⟨hreads, heq⟩ := (hw.only hstrict _).1 v [] _ hstrings (by rintro c ⟨⟩) hvalue
    cases heq
    cases h
    exact ⟨hreads, rfl⟩
  · cases h

end Writer

/-! ## Characters that a text lacks -/

/-- No character of a text, taken with the escapes in it, stands for `a`. A quote that is not
escaped stands for no character. After a broken escape nothing is read. -/
inductive Lacks (a : Char) : List Char → Prop
  | nil : Lacks a []
  | plain {c : Char} {rest : List Char} (hc : c ≠ '\\') (ha : c = '"' ∨ c ≠ a)
      (h : Lacks a rest) : Lacks a (c :: rest)
  | escape {c : Char} {text rest : List Char} (hread : unescape text = some (c, rest))
      (hc : c ≠ a) (h : Lacks a rest) : Lacks a ('\\' :: text)
  | broken {text : List Char} (hread : unescape text = none) : Lacks a ('\\' :: text)

namespace Lacks

variable {a : Char}

/-- A text without the character and without escapes lacks it. -/
theorem append {word rest : List Char} (hword : ∀ c ∈ word, c ≠ '\\' ∧ (c = '"' ∨ c ≠ a))
    (h : Lacks a rest) : Lacks a (word ++ rest) := by
  induction word with
  | nil => exact h
  | cons c word ih =>
      obtain ⟨hc, ha⟩ := hword c List.mem_cons_self
      exact .plain hc ha (ih fun c hc => hword c (List.mem_cons_of_mem _ hc))

/-- What follows a character other than a backslash lacks the character too. -/
theorem tail {c : Char} {rest : List Char} (h : Lacks a (c :: rest)) (hc : c ≠ '\\') :
    Lacks a rest := by
  cases h with
  | plain _ _ h => exact h
  | escape _ _ _ => exact absurd rfl hc
  | broken _ => exact absurd rfl hc

/-- What is left when characters other than backslashes are dropped lacks the character too. -/
theorem dropWhile {p : Char → Bool} (hp : p '\\' = false) {text : List Char} (h : Lacks a text) :
    Lacks a (text.dropWhile p) := by
  induction text with
  | nil => exact h
  | cons c rest ih =>
      rw [List.dropWhile_cons]
      split
      · rename_i hc
        refine ih (h.tail ?_)
        rintro rfl
        rw [hp] at hc
        cases hc
      · exact h

/-- So does what follows white space. -/
theorem skipSpace {text : List Char} (h : Lacks a text) : Lacks a (skipSpace text) :=
  h.dropWhile (by decide)

/-- The inside of a string literal does not have the character. -/
theorem of_stringBody {fuel : ℕ} {text : List Char} (h : Lacks a text)
    {r : List Char × List Char} (hread : stringBody fuel text = some r) :
    a ∉ r.1 ∧ Lacks a r.2 := by
  induction fuel generalizing text r with
  | zero => cases hread
  | succ fuel ih =>
      match text, h, hread with
      | [], _, hread => cases hread
      | c :: rest, h, hread =>
          rw [stringBody] at hread
          by_cases hquote : c = '"'
          · rw [if_pos hquote] at hread
            cases hread
            exact ⟨List.not_mem_nil, h.tail (by rw [hquote]; decide)⟩
          · rw [if_neg hquote] at hread
            by_cases hbackslash : c = '\\'
            · rw [if_pos hbackslash] at hread
              obtain ⟨e, he, hread⟩ := Option.bind_eq_some_iff.mp hread
              obtain ⟨p, hp, rfl⟩ := Option.map_eq_some_iff.mp hread
              -- The escape that is read is the one that the text has there.
              subst hbackslash
              cases h with
              | plain hc _ _ => exact absurd rfl hc
              | broken hnone => rw [he] at hnone; cases hnone
              | escape hsome hc hrest =>
                  rw [he] at hsome
                  cases hsome
                  obtain ⟨hp, hrest⟩ := ih hrest hp
                  exact ⟨by simp [hc.symm, hp], hrest⟩
            · rw [if_neg hbackslash] at hread
              split at hread
              · cases hread
              · obtain ⟨p, hp, rfl⟩ := Option.map_eq_some_iff.mp hread
                cases h with
                | plain _ ha hrest =>
                    obtain ⟨hp, hrest⟩ := ih hrest hp
                    have hca : c ≠ a := ha.resolve_left hquote
                    exact ⟨by simp [hca.symm, hp], hrest⟩
                | escape _ _ _ => exact absurd rfl hbackslash
                | broken _ => exact absurd rfl hbackslash

/-- A string literal does not have the character. -/
theorem of_stringLiteral {text : List Char} (h : Lacks a text) {r : String × List Char}
    (hread : stringLiteral text = some r) : a ∉ r.1.toList ∧ Lacks a r.2 := by
  unfold stringLiteral at hread
  split at hread
  · obtain ⟨p, hp, rfl⟩ := Option.map_eq_some_iff.mp hread
    rw [String.toList_ofList]
    exact (h.tail (by decide)).of_stringBody hp
  · cases hread

/-- The strings of a value do not have the character. -/
def Values (a : Char) (fuel : ℕ) : Prop :=
  ∀ text r, Lacks a text → value fuel text = some r →
    (∀ s ∈ strings r.1, a ∉ s.toList) ∧ Lacks a r.2

/-- The strings of the elements of an array do not have it. -/
def Elements (a : Char) (fuel : ℕ) : Prop :=
  ∀ text r, Lacks a text → elements fuel text = some r →
    (∀ s ∈ stringsElements r.1, a ∉ s.toList) ∧ Lacks a r.2

/-- The strings of the members of an object do not have it. -/
def Members (a : Char) (fuel : ℕ) : Prop :=
  ∀ text r, Lacks a text → members fuel text = some r →
    (∀ s ∈ stringsMembers r.1, a ∉ s.toList) ∧ Lacks a r.2

/-- A word has no strings. -/
theorem strings_of_ofWord {word : List Char} {v : Json} (h : ofWord word = some v) :
    strings v = [] := by
  unfold ofWord at h
  split_ifs at h <;> cases h <;> rfl

/-- A value does not have the character if its elements and members do not. -/
theorem Elements.value {fuel : ℕ} (helements : Elements a fuel) (hmembers : Members a fuel) :
    Values a (fuel + 1) := by
  intro text r h hread
  rw [Json.value.eq_def] at hread
  dsimp only at hread
  split at hread
  · obtain ⟨p, hp, rfl⟩ := Option.map_eq_some_iff.mp hread
    obtain ⟨hs, hrest⟩ := h.of_stringLiteral hp
    exact ⟨by simpa [strings] using hs, hrest⟩
  · rename_i rest
    have hinside := (h.tail (by decide)).skipSpace
    split at hread
    · rename_i rest' heq
      rw [heq] at hinside
      cases hread
      exact ⟨by simp [strings, stringsElements], hinside.tail (by decide)⟩
    · obtain ⟨p, hp, rfl⟩ := Option.map_eq_some_iff.mp hread
      exact helements _ p hinside hp
  · rename_i rest
    have hinside := (h.tail (by decide)).skipSpace
    split at hread
    · rename_i rest' heq
      rw [heq] at hinside
      cases hread
      exact ⟨by simp [strings, stringsMembers], hinside.tail (by decide)⟩
    · obtain ⟨p, hp, rfl⟩ := Option.map_eq_some_iff.mp hread
      exact hmembers _ p hinside hp
  · obtain ⟨v, hv, rfl⟩ := Option.map_eq_some_iff.mp hread
    refine ⟨?_, h.dropWhile (by decide)⟩
    rw [strings_of_ofWord hv]
    exact fun s hs => absurd hs List.not_mem_nil

/-- Elements do not have it if values and the later elements do not. -/
theorem Elements.succ {fuel : ℕ} (hvalues : Values a fuel) (helements : Elements a fuel) :
    Elements a (fuel + 1) := by
  intro text r h hread
  rw [elements] at hread
  simp only [Option.bind_eq_bind, Option.bind_eq_some_iff] at hread
  obtain ⟨p, hp, hread⟩ := hread
  obtain ⟨hv, hrest⟩ := hvalues text p h hp
  have hnext := hrest.skipSpace
  split at hread
  · rename_i rest heq
    rw [heq] at hnext
    cases hread
    exact ⟨by simpa [stringsElements] using hv, hnext.tail (by decide)⟩
  · rename_i rest heq
    rw [heq] at hnext
    obtain ⟨q, hq, hread⟩ := Option.bind_eq_some_iff.mp hread
    obtain ⟨hvs, hrest'⟩ := helements _ q (hnext.tail (by decide)).skipSpace hq
    cases hread
    refine ⟨fun s hs => ?_, hrest'⟩
    rcases List.mem_append.mp hs with hs | hs
    · exact hv s hs
    · exact hvs s hs
  · cases hread

/-- Members do not have it if values and the later members do not. -/
theorem Members.succ {fuel : ℕ} (hvalues : Values a fuel) (hmembers : Members a fuel) :
    Members a (fuel + 1) := by
  intro text r h hread
  rw [members] at hread
  simp only [Option.bind_eq_bind, Option.bind_eq_some_iff] at hread
  obtain ⟨k, hk, hread⟩ := hread
  obtain ⟨hname, hafter⟩ := h.of_stringLiteral hk
  have hcolon := hafter.skipSpace
  split at hread
  · rename_i rest heq
    rw [heq] at hcolon
    obtain ⟨p, hp, hread⟩ := Option.bind_eq_some_iff.mp hread
    obtain ⟨hv, hrest⟩ := hvalues _ p (hcolon.tail (by decide)).skipSpace hp
    have hnext := hrest.skipSpace
    split at hread
    · rename_i rest' heq'
      rw [heq'] at hnext
      cases hread
      refine ⟨fun s hs => ?_, hnext.tail (by decide)⟩
      rw [stringsMembers, stringsMembers, List.append_nil] at hs
      rcases List.mem_cons.mp hs with rfl | hs
      · exact hname
      · exact hv s hs
    · rename_i rest' heq'
      rw [heq'] at hnext
      obtain ⟨q, hq, hread⟩ := Option.bind_eq_some_iff.mp hread
      obtain ⟨hkvs, hrest'⟩ := hmembers _ q (hnext.tail (by decide)).skipSpace hq
      cases hread
      refine ⟨fun s hs => ?_, hrest'⟩
      rw [stringsMembers] at hs
      rcases List.mem_cons.mp hs with rfl | hs
      · exact hname
      · rcases List.mem_append.mp hs with hs | hs
        · exact hv s hs
        · exact hkvs s hs
    · cases hread
  · cases hread

/-- Whatever the fuel, no string that is read has the character. -/
theorem values (a : Char) (fuel : ℕ) : Values a fuel ∧ Elements a fuel ∧ Members a fuel := by
  induction fuel with
  | zero =>
      refine ⟨fun text r _ h => ?_, fun text r _ h => ?_, fun text r _ h => ?_⟩
      · simp [Json.value] at h
      · simp [elements] at h
      · simp [members] at h
  | succ fuel ih =>
      obtain ⟨hvalues, helements, hmembers⟩ := ih
      exact ⟨helements.value hmembers, helements.succ hvalues, hmembers.succ hvalues⟩

end Lacks

/-- A character that a text lacks is in no string that is read from it. -/
theorem notMem_of_loads {a : Char} {text : String} (h : Lacks a text.toList) {v : Json}
    (hread : loads text = some v) : ∀ s ∈ strings v, a ∉ s.toList := by
  unfold loads at hread
  split at hread
  · rename_i u rest hvalue
    split at hread
    · cases hread
      exact ((Lacks.values a _).1 _ _ h.skipSpace hvalue).1
    · cases hread
  · cases hread

/-- The brackets and separators of a written text. -/
def marks : List Char := ['[', ']', '{', '}', ',', ':', ' ']

namespace Writer

/-- The writer that changes every character of the parts. -/
def map (f : Char → Char) (w : Writer) : Writer where
  null := w.null.map f
  bool b := (w.bool b).map f
  num n := (w.num n).map f
  literal s := (w.literal s).map f

variable {w : Writer} {f : Char → Char}

mutual

/-- Changing every character of a text changes those of its parts, if brackets and separators stay
as they are. -/
theorem map_text (hf : ∀ c ∈ marks, f c = c) : ∀ v : Json, (w.text v).map f = (w.map f).text v
  | .null => rfl
  | .bool _ => rfl
  | .num _ => rfl
  | .str _ => rfl
  | .arr [] => by simp [text, hf _ (show '[' ∈ marks by decide), hf _ (show ']' ∈ marks by decide)]
  | .arr (v :: vs) => by
      simp only [text, List.map_cons, List.map_append, map_text hf v, map_textElements hf vs,
        hf _ (show '[' ∈ marks by decide)]
  | .obj [] => by simp [text, hf _ (show '{' ∈ marks by decide), hf _ (show '}' ∈ marks by decide)]
  | .obj ((k, v) :: kvs) => by
      simp only [text, List.map_cons, List.map_append, map_text hf v, map_textMembers hf kvs,
        hf _ (show '{' ∈ marks by decide), hf _ (show ':' ∈ marks by decide),
        hf _ (show ' ' ∈ marks by decide)]
      rfl

/-- So for the later elements of an array. -/
theorem map_textElements (hf : ∀ c ∈ marks, f c = c) :
    ∀ vs : List Json, (w.textElements vs).map f = (w.map f).textElements vs
  | [] => by simp [textElements, hf _ (show ']' ∈ marks by decide)]
  | v :: vs => by
      simp only [textElements, List.map_cons, List.map_append, map_text hf v,
        map_textElements hf vs, hf _ (show ',' ∈ marks by decide),
        hf _ (show ' ' ∈ marks by decide)]

/-- So for the later members of an object. -/
theorem map_textMembers (hf : ∀ c ∈ marks, f c = c) :
    ∀ kvs : List (String × Json), (w.textMembers kvs).map f = (w.map f).textMembers kvs
  | [] => by simp [textMembers, hf _ (show '}' ∈ marks by decide)]
  | (k, v) :: kvs => by
      simp only [textMembers, List.map_cons, List.map_append, map_text hf v,
        map_textMembers hf kvs, hf _ (show ',' ∈ marks by decide),
        hf _ (show ':' ∈ marks by decide), hf _ (show ' ' ∈ marks by decide)]
      rfl

end

end Writer

/-- A bracket or separator stands for no other character. -/
theorem Lacks.mark {a c : Char} {rest : List Char} (hc : c ∈ marks) (ha : a ∉ marks)
    (h : Lacks a rest) : Lacks a (c :: rest) := by
  refine .plain ?_ (Or.inr ?_) h
  · rintro rfl
    exact absurd hc (by decide)
  · rintro rfl
    exact ha hc

namespace Writer

variable {w : Writer} {a : Char}

/-- A word lacks what is no character of a word. -/
theorem IsWord.lacks {word rest : List Char} (hword : IsWord word) (ha : isWordChar a = false)
    (h : Lacks a rest) : Lacks a (word ++ rest) := by
  refine Lacks.append (fun c hc => ?_) h
  have hwordChar : isWordChar c = true := List.all_eq_true.mp hword.2 c hc
  constructor
  · rintro rfl
    exact absurd hwordChar (by decide)
  · right
    rintro rfl
    rw [ha] at hwordChar
    cases hwordChar

/-- A string literal lacks a character, whatever follows. -/
def LacksLiteral (w : Writer) (a : Char) (s : String) : Prop :=
  ∀ rest, Lacks a rest → Lacks a (w.literal s ++ rest)

mutual

/-- A written text lacks a character that its strings lack. -/
theorem Lawful.lacks_text (hw : w.Lawful) (ha : isWordChar a = false) (hmark : a ∉ marks) :
    ∀ (v : Json) (rest : List Char),
    (∀ s ∈ strings v, w.LacksLiteral a s) → Lacks a rest → Lacks a (w.text v ++ rest)
  | .null, rest, _, h => hw.null.lacks ha h
  | .bool b, rest, _, h => (hw.bool b).lacks ha h
  | .num n, rest, _, h => (hw.num n).lacks ha h
  | .str s, rest, hstrings, h => hstrings s (by simp [strings]) rest h
  | .arr [], rest, _, h => .mark (by decide) hmark (.mark (by decide) hmark h)
  | .arr (v :: vs), rest, hstrings, h => by
      have hvs := hw.lacks_textElements ha hmark vs rest
        (fun s hs => hstrings s (List.mem_append_right _ hs)) h
      have hv := hw.lacks_text ha hmark v _ (fun s hs => hstrings s (List.mem_append_left _ hs)) hvs
      rw [text, List.cons_append, List.append_assoc]
      exact .mark (by decide) hmark hv
  | .obj [], rest, _, h => .mark (by decide) hmark (.mark (by decide) hmark h)
  | .obj ((k, v) :: kvs), rest, hstrings, h => by
      have hkvs := hw.lacks_textMembers ha hmark kvs rest
        (fun s hs => hstrings s (List.mem_cons_of_mem _ (List.mem_append_right _ hs))) h
      have hv := hw.lacks_text ha hmark v _
        (fun s hs => hstrings s (List.mem_cons_of_mem _ (List.mem_append_left _ hs))) hkvs
      rw [text, List.cons_append, List.append_assoc, List.cons_append, List.cons_append,
        List.append_assoc]
      exact .mark (by decide) hmark (hstrings k List.mem_cons_self _
        (.mark (by decide) hmark (.mark (by decide) hmark hv)))

/-- So does the text of the later elements of an array. -/
theorem Lawful.lacks_textElements (hw : w.Lawful) (ha : isWordChar a = false)
    (hmark : a ∉ marks) : ∀ (vs : List Json) (rest : List Char),
    (∀ s ∈ stringsElements vs, w.LacksLiteral a s) → Lacks a rest →
      Lacks a (w.textElements vs ++ rest)
  | [], rest, _, h => .mark (by decide) hmark h
  | v :: vs, rest, hstrings, h => by
      have hvs := hw.lacks_textElements ha hmark vs rest
        (fun s hs => hstrings s (List.mem_append_right _ hs)) h
      have hv := hw.lacks_text ha hmark v _ (fun s hs => hstrings s (List.mem_append_left _ hs)) hvs
      rw [textElements, List.cons_append, List.cons_append, List.append_assoc]
      exact .mark (by decide) hmark (.mark (by decide) hmark hv)

/-- So does the text of the later members of an object. -/
theorem Lawful.lacks_textMembers (hw : w.Lawful) (ha : isWordChar a = false)
    (hmark : a ∉ marks) : ∀ (kvs : List (String × Json)) (rest : List Char),
    (∀ s ∈ stringsMembers kvs, w.LacksLiteral a s) → Lacks a rest →
      Lacks a (w.textMembers kvs ++ rest)
  | [], rest, _, h => .mark (by decide) hmark h
  | (k, v) :: kvs, rest, hstrings, h => by
      have hkvs := hw.lacks_textMembers ha hmark kvs rest
        (fun s hs => hstrings s (List.mem_cons_of_mem _ (List.mem_append_right _ hs))) h
      have hv := hw.lacks_text ha hmark v _
        (fun s hs => hstrings s (List.mem_cons_of_mem _ (List.mem_append_left _ hs))) hkvs
      rw [textMembers, List.cons_append, List.cons_append, List.append_assoc, List.cons_append,
        List.cons_append, List.append_assoc]
      exact .mark (by decide) hmark (.mark (by decide) hmark (hstrings k List.mem_cons_self _
        (.mark (by decide) hmark (.mark (by decide) hmark hv))))

end

end Writer

/-! ## Texts that are read as a string -/

/-- What is left of a text after the number of an escape is shorter. -/
theorem length_of_unicodeValue {text rest : List Char} {n : ℕ}
    (h : unicodeValue text = some (n, rest)) : rest.length < text.length := by
  unfold unicodeValue at h
  split at h
  · simp only [Option.bind_eq_bind, Option.bind_eq_some_iff, Option.pure_def, Option.some.injEq,
      Prod.mk.injEq] at h
    obtain ⟨-, -, -, -, -, -, -, -, -, rfl⟩ := h
    simp only [List.length_cons]
    omega
  · cases h

/-- So it is after the character of a Unicode escape. -/
theorem length_of_unicodeChar {text rest : List Char} {c : Char}
    (h : unicodeChar text = some (c, rest)) : rest.length < text.length := by
  unfold unicodeChar at h
  split at h
  · cases h
  · rename_i n tail hvalue
    have htail := length_of_unicodeValue hvalue
    split at h
    · split at h
      · rename_i low
        split at h
        · cases h
        · rename_i m lowTail hlow
          have hlowTail := length_of_unicodeValue hlow
          split at h
          · obtain ⟨c', -, heq⟩ := Option.map_eq_some_iff.mp h
            cases heq
            simp only [List.length_cons] at htail
            omega
          · cases h
      · cases h
    · obtain ⟨c', -, heq⟩ := Option.map_eq_some_iff.mp h
      cases heq
      exact htail

/-- So it is after any escape. -/
theorem length_of_unescape {text rest : List Char} {c : Char}
    (h : unescape text = some (c, rest)) : rest.length < text.length := by
  unfold unescape at h
  split at h
  all_goals first
    | exact length_of_unicodeChar h
    | cases h
      exact Nat.lt_succ_self _

/-- The inside of a literal is no longer than its text, and it is as long only if the text is what
it stands for. -/
theorem stringBody_eq_or_lt {fuel : ℕ} {text : List Char} {r : List Char × List Char}
    (h : stringBody fuel text = some r) :
    text = r.1 ++ '"' :: r.2 ∧ '"' ∉ r.1 ∧ '\\' ∉ r.1 ∨
      r.1.length + r.2.length + 1 < text.length := by
  induction fuel generalizing text r with
  | zero => cases h
  | succ fuel ih =>
      match text, h with
      | [], h => cases h
      | c :: rest, h =>
          rw [stringBody] at h
          by_cases hquote : c = '"'
          · rw [if_pos hquote] at h
            cases h
            exact Or.inl ⟨by rw [hquote]; rfl, by simp⟩
          · rw [if_neg hquote] at h
            by_cases hbackslash : c = '\\'
            · -- An escape takes two characters at least.
              rw [if_pos hbackslash] at h
              obtain ⟨e, he, h⟩ := Option.bind_eq_some_iff.mp h
              obtain ⟨p, hp, rfl⟩ := Option.map_eq_some_iff.mp h
              have hshort := length_of_unescape he
              refine Or.inr ?_
              rcases ih hp with ⟨heq, -⟩ | hlt
              · have hlength := congrArg List.length heq
                simp only [List.length_append, List.length_cons] at hlength ⊢
                omega
              · simp only [List.length_cons]
                omega
            · rw [if_neg hbackslash] at h
              split at h
              · cases h
              · obtain ⟨p, hp, rfl⟩ := Option.map_eq_some_iff.mp h
                rcases ih hp with ⟨heq, hquotes, hbackslashes⟩ | hlt
                · refine Or.inl ⟨by rw [heq]; rfl, ?_, ?_⟩
                  · simp [Ne.symm hquote, hquotes]
                  · simp [Ne.symm hbackslash, hbackslashes]
                · refine Or.inr ?_
                  simp only [List.length_cons]
                  omega

/-- The inside of a literal without quotes and escapes is what it stands for. -/
theorem of_stringBody_plain {cs : List Char} (hquote : '"' ∉ cs) (hbackslash : '\\' ∉ cs)
    {fuel : ℕ} {rest : List Char} {r : List Char × List Char}
    (h : stringBody fuel (cs ++ '"' :: rest) = some r) : r = (cs, rest) := by
  induction cs generalizing fuel r with
  | nil =>
      cases fuel with
      | zero => cases h
      | succ fuel =>
          cases h
          rfl
  | cons c cs ih =>
      rw [List.mem_cons, not_or] at hquote hbackslash
      cases fuel with
      | zero => cases h
      | succ fuel =>
          rw [List.cons_append, stringBody, if_neg (Ne.symm hquote.1),
            if_neg (Ne.symm hbackslash.1)] at h
          split at h
          · cases h
          · obtain ⟨p, hp, rfl⟩ := Option.map_eq_some_iff.mp h
            rw [ih hquote.2 hbackslash.2 hp]

/-- Only a literal is read as a string. -/
theorem exists_literal_of_value {fuel : ℕ} {text rest : List Char} {u : String}
    (h : value fuel text = some (.str u, rest)) :
    ∃ body, text = '"' :: body ∧ stringBody body.length body = some (u.toList, rest) := by
  cases fuel with
  | zero => simp [value] at h
  | succ fuel =>
      rw [Json.value.eq_def] at h
      dsimp only at h
      split at h
      · rename_i body
        obtain ⟨p, hp, heq⟩ := Option.map_eq_some_iff.mp h
        obtain ⟨q, hq, rfl⟩ := Option.map_eq_some_iff.mp hp
        cases heq
        exact ⟨body, rfl, by rw [String.toList_ofList, hq]⟩
      · split at h
        · cases h
        · obtain ⟨p, -, heq⟩ := Option.map_eq_some_iff.mp h
          cases heq
      · split at h
        · cases h
        · obtain ⟨p, -, heq⟩ := Option.map_eq_some_iff.mp h
          cases heq
      · obtain ⟨v, hv, heq⟩ := Option.map_eq_some_iff.mp h
        cases heq
        -- No word is a string.
        unfold ofWord at hv
        split_ifs at hv
        all_goals cases hv

/-- A string is shorter than a text that is read as it. -/
theorem length_lt_of_loads {text u : String} (h : loads text = some (.str u)) :
    u.toList.length < text.toList.length := by
  unfold loads at h
  split at h
  · rename_i v rest hvalue
    split at h
    · cases h
      obtain ⟨body, htext, hbody⟩ := exists_literal_of_value hvalue
      have hspace : (skipSpace text.toList).length ≤ text.toList.length :=
        (List.dropWhile_suffix _).length_le
      rw [htext, List.length_cons] at hspace
      rcases stringBody_eq_or_lt hbody with ⟨heq, -⟩ | hlt
      · have hlength := congrArg List.length heq
        simp only [List.length_append, List.length_cons] at hlength
        omega
      · dsimp only at hlt
        omega
    · cases h
  · cases h

/-- A text between double quotes is read as a string, if it is read. The string is the text itself
if there are no quotes and no escapes in it, and it is as long as the text only then. -/
theorem loads_between_quotes {cs : List Char} {v : Json}
    (h : loads (String.ofList ('"' :: (cs ++ ['"']))) = some v) :
    ∃ u, v = .str u ∧ (u.toList.length = cs.length → '"' ∉ cs ∧ '\\' ∉ cs) ∧
      ('"' ∉ cs → '\\' ∉ cs → u.toList = cs) := by
  have hspace : skipSpace ('"' :: (cs ++ ['"'])) = '"' :: (cs ++ ['"']) :=
    skipSpace_cons (by decide)
  rw [loads, String.toList_ofList, hspace, Writer.value_quoted] at h
  split at h
  · rename_i v' rest hvalue
    obtain ⟨p, hp, heq⟩ := Option.map_eq_some_iff.mp hvalue
    obtain ⟨q, hq, rfl⟩ := Option.map_eq_some_iff.mp hp
    cases heq
    split at h
    · cases h
      refine ⟨_, rfl, ?_, ?_⟩
      · rw [String.toList_ofList]
        intro hlength
        rcases stringBody_eq_or_lt hq with ⟨heq, hquote, hbackslash⟩ | hlt
        · -- The closing quote that is read is the last character of the text.
          have hsame : q.1 = cs := List.append_inj_left heq.symm hlength
          rw [hsame] at hquote hbackslash
          exact ⟨hquote, hbackslash⟩
        · rw [List.length_append, List.length_singleton] at hlt
          omega
      · intro hquote hbackslash
        rw [String.toList_ofList, of_stringBody_plain hquote hbackslash hq]
    · cases h
  · cases h

end Json
