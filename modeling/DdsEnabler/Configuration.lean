import DdsEnabler.Json

/-!
The configuration of the enabler, given as JSON and converted to YAML.

`convert_json_to_yaml` goes over the items of a value as if it were an object. On an object these
are its members; on an array they have the indices as keys, and on any other value there is one
with an empty key. It is entered again for the elements of arrays, so only the elements that are
objects keep their structure.
-/

namespace DdsEnabler

/-! ### YAML -/

/-- A scalar. Its text is that of a value, which stands for it. -/
inductive Scalar
  | str (s : Str)
  | int (n : Int)
  | real (q : Rat)
  | bool (b : Bool)
  deriving DecidableEq

/-- A `YAML::Node`. -/
inductive Yaml
  | null
  | scalar (v : Scalar)
  | seq (l : List Yaml)
  | map (l : List (Str × Yaml))

namespace Yaml

/-- Set the value of a key: in its place, or at the end. -/
def insert (k : Str) (v : Yaml) : List (Str × Yaml) → List (Str × Yaml)
  | [] => [(k, v)]
  | m :: l => if m.1 = k then (k, v) :: l else m :: insert k v l

/-- `node[key] = value`, which turns a new node into a map. -/
def set (y : Yaml) (k : Str) (v : Yaml) : Yaml :=
  match y with
  | .map l => .map (insert k v l)
  | _ => .map [(k, v)]

/-- `push_back`, which turns a new node into a sequence. -/
def pushBack (y v : Yaml) : Yaml :=
  match y with
  | .seq l => .seq (l ++ [v])
  | _ => .seq [v]

/-- A key is set, or skipped where there is no value for it. -/
def assign (y : Yaml) (k : Str) : Option Yaml → Yaml
  | some v => y.set k v
  | none => y

/-- A new node to which the members have been assigned. -/
def ofMembers : List (Str × Yaml) → Yaml
  | [] => .null
  | l => .map l

/-- A new node to which the elements have been pushed. -/
def ofItems : List Yaml → Yaml
  | [] => .null
  | l => .seq l

lemma insert_fresh {k : Str} {v : Yaml} {l : List (Str × Yaml)} (h : k ∉ l.map (·.1)) :
    insert k v l = l ++ [(k, v)] := by
  induction l with
  | nil => rfl
  | cons m l ih =>
    rw [List.map_cons, List.mem_cons, not_or] at h
    rw [insert, if_neg (Ne.symm h.1), ih h.2, List.cons_append]

lemma set_ofMembers {k : Str} {v : Yaml} {l : List (Str × Yaml)} (h : k ∉ l.map (·.1)) :
    (ofMembers l).set k v = ofMembers (l ++ [(k, v)]) := by
  cases l with
  | nil => rfl
  | cons m l => exact congrArg Yaml.map (insert_fresh h)

lemma set_ne_seq (y : Yaml) (k : Str) (v : Yaml) (r : List Yaml) : y.set k v ≠ .seq r := by
  cases y <;> simp [set]

lemma pushBack_ofItems (l : List Yaml) (v : Yaml) :
    (ofItems l).pushBack v = ofItems (l ++ [v]) := by
  cases l with
  | nil => rfl
  | cons m l => rfl

@[simp] lemma ofMembers_eq_map {l l' : List (Str × Yaml)} :
    ofMembers l = .map l' ↔ l ≠ [] ∧ l = l' := by
  cases l <;> simp [ofMembers]

@[simp] lemma ofItems_eq_seq {l l' : List Yaml} : ofItems l = .seq l' ↔ l ≠ [] ∧ l = l' := by
  cases l <;> simp [ofItems]

end Yaml

/-! ### The conversion -/

/-- The value assigned for an item that is neither an object nor an array; nothing for null. An
integer is cast to `int`. -/
def convertPrimitive : Json → Option Yaml
  | .str s => some (.scalar (.str s))
  | .int n => some (.scalar (.int (n.bmod (2 ^ 32))))
  | .real q => some (.scalar (.real q))
  | .bool b => some (.scalar (.bool b))
  | _ => none

mutual

/-- `convert_json_to_yaml`: a loop over the items of a value. -/
def convertJsonToYaml : Json → Yaml
  | .obj l => convertMembers .null l
  | .arr l => convertIndexed .null 0 l
  | j => Yaml.null.assign [] (convertPrimitive j)

/-- The value that the loop assigns for an item. -/
def convertValue : Json → Option Yaml
  | .obj l => some (convertMembers .null l)
  | .arr l => some (convertItems .null l)
  | j => convertPrimitive j

/-- The loop over the items of an object. -/
def convertMembers (y : Yaml) : List (Str × Json) → Yaml
  | [] => y
  | (k, v) :: l => convertMembers (y.assign k (convertValue v)) l

/-- The loop over the items of an array, from an index on. -/
def convertIndexed (y : Yaml) (i : Nat) : List Json → Yaml
  | [] => y
  | v :: l => convertIndexed (y.assign (toString i).toList (convertValue v)) (i + 1) l

/-- The inner loop, over the elements of an array. -/
def convertItems (y : Yaml) : List Json → Yaml
  | [] => y
  | v :: l => convertItems (y.pushBack (convertJsonToYaml v)) l

end

/-- The object under `dds.ddsmodule`; none where it is missing, or is not an object. -/
def ddsModule : Json → Option (List (Str × Json))
  | .obj l =>
    match l.lookup "dds".toList with
    | some (.obj d) =>
      match d.lookup "ddsmodule".toList with
      | some (.obj m) => some m
      | _ => none
    | _ => none
  | _ => none

section Load

variable {C : Type} (load : Yaml → Option C) (parseYaml : Str → Option Yaml)

/-- `load_ddsenabler_configuration_from_json_file_`, where `load` reads the configuration in a node;
none stands for a `ConfigurationException`. -/
def loadFromJson (json : Json) : Option C :=
  (ddsModule json).bind fun m => load (convertJsonToYaml (.obj m))

/-- The constructor of `EnablerConfiguration`, on the text of a file: one that is not a JSON text is
taken for YAML. -/
def enablerConfiguration : JsonText → Option C
  | .doc json => loadFromJson load json
  | .other text => (parseYaml text).bind load

end Load

/-! ### The same configuration -/

mutual

/-- The YAML tree of the same structure, without the members whose value is null. -/
def toYaml : Json → Yaml
  | .null => .null
  | .bool b => .scalar (.bool b)
  | .int n => .scalar (.int n)
  | .real q => .scalar (.real q)
  | .str s => .scalar (.str s)
  | .arr l => .seq (toYamlItems l)
  | .obj l => .map (toYamlMembers l)

def toYamlItems : List Json → List Yaml
  | [] => []
  | v :: l => toYaml v :: toYamlItems l

def toYamlMembers : List (Str × Json) → List (Str × Yaml)
  | [] => []
  | (_, .null) :: l => toYamlMembers l
  | (k, v) :: l => (k, toYaml v) :: toYamlMembers l

end

/-- A value that is null. -/
def Json.isNull : Json → Bool
  | .null => true
  | _ => false

/-- A value whose items are the members of an object, if it has any. -/
def Json.hasMembers : Json → Bool
  | .null | .obj _ => true
  | _ => false

mutual

/-- What keeps its structure as the value of a member: integers of 32 bits, objects with a value
and arrays with elements, if the elements of arrays are objects or null. -/
def kept : Json → Bool
  | .int n => decide (-2 ^ 31 ≤ n ∧ n < 2 ^ 31)
  | .arr l => !l.isEmpty && keptItems l
  | .obj l => l.any (fun m => !m.2.isNull) && keptMembers l
  | _ => true

def keptItems : List Json → Bool
  | [] => true
  | v :: l => v.hasMembers && kept v && keptItems l

def keptMembers : List (Str × Json) → Bool
  | [] => true
  | (_, v) :: l => kept v && keptMembers l

end

mutual

/-- The keys of every object in the tree are distinct. -/
def Json.Distinct : Json → Prop
  | .arr l => distinctItems l
  | .obj l => (l.map (·.1)).Nodup ∧ distinctMembers l
  | _ => True

def distinctItems : List Json → Prop
  | [] => True
  | v :: l => v.Distinct ∧ distinctItems l

def distinctMembers : List (Str × Json) → Prop
  | [] => True
  | (_, v) :: l => v.Distinct ∧ distinctMembers l

end

/-! ### The loops -/

/-- The members that the loop over an object assigns. -/
def assigned (l : List (Str × Json)) : List (Str × Yaml) :=
  l.filterMap fun m => (convertValue m.2).map fun v => (m.1, v)

lemma convertMembers_ofMembers {acc : List (Str × Yaml)} {l : List (Str × Json)}
    (h : (acc.map (·.1) ++ l.map (·.1)).Nodup) :
    convertMembers (.ofMembers acc) l = .ofMembers (acc ++ assigned l) := by
  induction l generalizing acc with
  | nil => simp [convertMembers, assigned]
  | cons m l ih =>
    obtain ⟨k, v⟩ := m
    simp only [List.map_cons] at h
    unfold convertMembers
    rcases hv : convertValue v with _ | z
    · have hl : (acc.map (·.1) ++ l.map (·.1)).Nodup :=
        h.sublist ((List.sublist_cons_self _ _).append_left _)
      simp only [Yaml.assign, ih hl, assigned, List.filterMap_cons, hv, Option.map_none]
    · have hk : k ∉ acc.map (·.1) := fun hk =>
        (List.nodup_append.mp h).2.2 k hk k List.mem_cons_self rfl
      have hl : ((acc ++ [(k, z)]).map (·.1) ++ l.map (·.1)).Nodup := by
        simpa using h
      simp only [Yaml.assign, Yaml.set_ofMembers hk, ih hl, assigned, List.filterMap_cons, hv,
        Option.map_some, List.append_assoc, List.singleton_append]

lemma convertItems_ofItems (acc : List Yaml) (l : List Json) :
    convertItems (.ofItems acc) l = .ofItems (acc ++ l.map convertJsonToYaml) := by
  induction l generalizing acc with
  | nil => simp [convertItems]
  | cons v l ih =>
    unfold convertItems
    rw [Yaml.pushBack_ofItems, ih, List.map_cons, List.append_assoc, List.singleton_append]

/-- The loop over an array makes a map of it, if anything. -/
lemma convertIndexed_ne_seq {y : Yaml} (hy : ∀ r, y ≠ .seq r) (i : Nat) (l : List Json)
    (r : List Yaml) : convertIndexed y i l ≠ .seq r := by
  induction l generalizing y i with
  | nil => exact hy r
  | cons v l ih =>
    unfold convertIndexed
    refine ih (fun r => ?_) _
    rcases convertValue v with _ | z
    · exact hy r
    · exact Yaml.set_ne_seq _ _ _ r

/-! ### When the structure is kept -/

lemma bmod_eq_self_iff (n : Int) : n.bmod (2 ^ 32) = n ↔ -2 ^ 31 ≤ n ∧ n < 2 ^ 31 := by
  constructor
  · intro h
    have hle := Int.le_bmod (x := n) (m := 2 ^ 32) (by norm_num)
    have hlt := Int.bmod_lt (x := n) (m := 2 ^ 32) (by norm_num)
    rw [h] at hle hlt
    norm_num at hle hlt
    omega
  · rintro ⟨hl, hu⟩
    refine Int.bmod_eq_of_le ?_ ?_
    · norm_num
      omega
    · norm_num
      omega

lemma convertValue_eq_none {v : Json} : convertValue v = none ↔ v.isNull := by
  cases v <;> simp [convertValue, convertPrimitive, Json.isNull]

lemma assigned_eq_nil {l : List (Str × Json)} :
    assigned l = [] ↔ l.any (fun m => !m.2.isNull) = false := by
  simp [assigned, convertValue_eq_none]

lemma toYamlMembers_cons {k : Str} {v : Json} {l : List (Str × Json)} (h : v.isNull = false) :
    toYamlMembers ((k, v) :: l) = (k, toYaml v) :: toYamlMembers l := by
  cases v with
  | null => cases h
  | _ => rfl

lemma convertJsonToYaml_obj {l : List (Str × Json)} (h : (l.map (·.1)).Nodup) :
    convertJsonToYaml (.obj l) = .ofMembers (assigned l) := by
  rw [convertJsonToYaml, show Yaml.null = .ofMembers [] from rfl,
    convertMembers_ofMembers (by simpa using h), List.nil_append]

mutual

lemma convertValue_iff : ∀ {v : Json}, v.Distinct → v.isNull = false →
    (convertValue v = some (toYaml v) ↔ kept v)
  | .null, _, h => by cases h
  | .bool b, _, _ => by simp [convertValue, convertPrimitive, toYaml, kept]
  | .int n, _, _ => by
    simpa [convertValue, convertPrimitive, toYaml, kept] using bmod_eq_self_iff n
  | .real q, _, _ => by simp [convertValue, convertPrimitive, toYaml, kept]
  | .str s, _, _ => by simp [convertValue, convertPrimitive, toYaml, kept]
  | .arr l, h, _ => by
    rw [convertValue, show Yaml.null = .ofItems [] from rfl, convertItems_ofItems, List.nil_append,
      Option.some.injEq, toYaml, Yaml.ofItems_eq_seq, kept, Bool.and_eq_true,
      convertItems_iff h]
    simp
  | .obj l, h, _ => by
    rw [convertValue, Option.some.injEq, ← convertJsonToYaml, convertJsonToYaml_iff h]

lemma convertJsonToYaml_iff : ∀ {l : List (Str × Json)}, (Json.obj l).Distinct →
    (convertJsonToYaml (.obj l) = toYaml (.obj l) ↔ kept (.obj l)) := by
  intro l h
  rw [convertJsonToYaml_obj h.1, toYaml, Yaml.ofMembers_eq_map, ne_eq, assigned_eq_nil, kept,
    Bool.and_eq_true, convertMembers_iff h.2]
  simp

lemma convertItem_iff : ∀ {v : Json}, v.Distinct →
    (convertJsonToYaml v = toYaml v ↔ v.hasMembers && kept v)
  | .null, _ => by
    simp [convertJsonToYaml, convertPrimitive, Yaml.assign, toYaml, Json.hasMembers, kept]
  | .bool b, _ => by
    simp [convertJsonToYaml, convertPrimitive, Yaml.assign, Yaml.set, toYaml, Json.hasMembers]
  | .int n, _ => by
    simp [convertJsonToYaml, convertPrimitive, Yaml.assign, Yaml.set, toYaml, Json.hasMembers]
  | .real q, _ => by
    simp [convertJsonToYaml, convertPrimitive, Yaml.assign, Yaml.set, toYaml, Json.hasMembers]
  | .str s, _ => by
    simp [convertJsonToYaml, convertPrimitive, Yaml.assign, Yaml.set, toYaml, Json.hasMembers]
  | .arr l, _ => by
    have hne := convertIndexed_ne_seq (y := .null) (by simp) 0 l (toYamlItems l)
    simpa [convertJsonToYaml, toYaml, Json.hasMembers] using hne
  | .obj l, h => by simpa [Json.hasMembers] using convertJsonToYaml_iff h

lemma convertItems_iff : ∀ {l : List Json}, distinctItems l →
    (l.map convertJsonToYaml = toYamlItems l ↔ keptItems l)
  | [], _ => by simp [toYamlItems, keptItems]
  | v :: l, h => by
    rw [List.map_cons, toYamlItems, List.cons.injEq, convertItem_iff h.1, convertItems_iff h.2,
      keptItems, Bool.and_eq_true (_ && _)]

lemma convertMembers_iff : ∀ {l : List (Str × Json)}, distinctMembers l →
    (assigned l = toYamlMembers l ↔ keptMembers l)
  | [], _ => by simp [assigned, toYamlMembers, keptMembers]
  | (k, v) :: l, h => by
    have ih := convertMembers_iff h.2
    rcases hv : convertValue v with _ | z
    · cases v with
      | null =>
        rw [show assigned ((k, .null) :: l) = assigned l from rfl, toYamlMembers, ih, keptMembers]
        simp [kept]
      | _ => cases convertValue_eq_none.mp hv
    · have hnull : v.isNull = false := by
        rw [Bool.eq_false_iff, ne_eq, ← convertValue_eq_none, hv]
        simp
      have hkept := convertValue_iff h.1 hnull
      rw [hv, Option.some.injEq] at hkept
      rw [toYamlMembers_cons hnull, keptMembers, Bool.and_eq_true, ← hkept, ← ih]
      simp [assigned, hv]

end

/-! ### Configurations -/

/-- The configuration in `m` becomes the YAML tree of the same structure; and a JSON file that
has it under `dds.ddsmodule` loads like a YAML file with that tree. -/
structure ConvertsFaithfully (m : List (Str × Json)) : Prop where
  converted : convertJsonToYaml (.obj m) = toYaml (.obj m)
  loaded : ∀ {C : Type} (load : Yaml → Option C) (parseYaml : Str → Option Yaml) (json : Json)
    (text : Str), ddsModule json = some m → parseYaml text = some (toYaml (.obj m)) →
    enablerConfiguration load parseYaml (.doc json) =
      enablerConfiguration load parseYaml (.other text)

/-- **Configurations keep their structure** if and only if their integers have 32 bits, every
object has a value and every array an element, and the elements of arrays are objects or null. -/
theorem converts_faithfully_iff {m : List (Str × Json)} (h : (Json.obj m).Distinct) :
    ConvertsFaithfully m ↔ kept (.obj m) := by
  rw [← convertJsonToYaml_iff h]
  refine ⟨fun hc => hc.converted, fun hc => ⟨hc, ?_⟩⟩
  intro C load parseYaml json text hm htext
  simp [enablerConfiguration, loadFromJson, hm, htext, hc]

/-- The domain and the topics that are allowed. -/
def simpleConfiguration : List (Str × Json) :=
  [("domain".toList, .int 4),
    ("allowlist".toList, .arr [.obj [("name".toList, .str "rt/chatter".toList)]])]

theorem converts_faithfully_iff_simple :
    ConvertsFaithfully simpleConfiguration ↔ kept (.obj simpleConfiguration) :=
  converts_faithfully_iff ⟨by decide, trivial, ⟨⟨by decide, trivial, trivial⟩, trivial⟩, trivial⟩

/-- The interfaces of the whitelist are strings, and each becomes a map with an empty key. -/
def whitelistConfiguration : List (Str × Json) :=
  [("whitelist-interfaces".toList, .arr [.str "127.0.0.1".toList])]

theorem whitelist_lost :
    (Json.obj whitelistConfiguration).Distinct ∧ ¬ ConvertsFaithfully whitelistConfiguration := by
  have h : (Json.obj whitelistConfiguration).Distinct :=
    ⟨by decide, ⟨trivial, trivial⟩, trivial⟩
  refine ⟨h, fun hc => ?_⟩
  have hkept := (convertJsonToYaml_iff h).mp hc.converted
  revert hkept
  decide

end DdsEnabler
