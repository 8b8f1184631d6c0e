import DdsEnabler.Schemas

/-!
Types that are persisted and reloaded.

`register_type_nts_` reads a collection back in the order in which it was written, the dependencies
of a type before the type itself. What was left out of it is not reloaded.
-/

namespace DdsEnabler

open Exec

/-- Coding is undone by decoding where it succeeds, a type is refused by an
`InconsistencyException` only, and the registry accepts the objects it has. -/
structure LawfulPersistence (c : Persistence) : Prop where
  base64 : ∀ s, c.types.base64Decode (c.base64Encode s) = .ok s
  identifier : ∀ i s, c.serializeIdentifier i = .ok s → c.types.deserializeIdentifier s = .ok i
  object : ∀ o s, c.serializeObject o = .ok s → c.types.deserializeObject s = .ok o
  collection : ∀ l b, c.serializeDynamicTypes l = some b →
    c.types.deserializeDynamicTypes b = some l
  identifier_error : ∀ i e, c.serializeIdentifier i = .error e → e = .inconsistency
  object_error : ∀ o e, c.serializeObject o = .error e → e = .inconsistency
  accepts : ∀ i o, c.types.getTypeObject i = some o → c.types.registerTypeObject i o = true

/-! ### What is written -/

namespace Persistence

variable (c : Persistence)

/-- A type and its object can be coded. -/
def Codes (typeId typeObject : Nat) : Prop :=
  (∃ s, c.serializeIdentifier typeId = .ok s) ∧ ∃ s, c.serializeObject typeObject = .ok s

variable {c} in
lemma codes_iff_entry {i o : Nat} (name : Str) : c.Codes i o ↔ ∃ d, c.entry i o name = .ok d := by
  unfold Codes entry
  rcases c.serializeIdentifier i with e | x
  · simp [bind, Except.bind]
  · rcases c.serializeObject o with e | y
    · simp [bind, Except.bind]
    · simp [bind, Except.bind, pure, Except.pure]

/-- The entry that is written for a type under a name, if it can be. -/
def written (typeName : Str) (typeId : Nat) : List SerializedType :=
  match c.types.getTypeObject typeId with
  | none => []
  | some o =>
    match c.entry typeId o typeName with
    | .ok d => [d]
    | .error _ => []

/-- The entries that are written for a list of dependencies. -/
def writtenDependencies (typeName : Str) : List Nat → Nat → List SerializedType
  | [], _ => []
  | i :: deps, k =>
    c.written (dependencyName typeName k) i ++
      writtenDependencies typeName deps ((k + 1) % 2 ^ 32)

/-- An entry is one of a type. -/
def Encodes (typeId : Nat) (d : SerializedType) : Prop :=
  ∃ o, c.types.getTypeObject typeId = some o ∧ c.entry typeId o d.typeName = .ok d

section Law

variable {c} (law : LawfulPersistence c)

include law

lemma deserialize_entry {i o : Nat} {name : Str} {d : SerializedType}
    (h : c.entry i o name = .ok d) :
    deserializeDynamicType c.types d = .ok (some (name, i, o)) := by
  unfold entry at h
  rcases hi : c.serializeIdentifier i with e | x
  · simp [hi, bind, Except.bind] at h
  · rcases ho : c.serializeObject o with e | y
    · simp [hi, ho, bind, Except.bind] at h
    · simp only [hi, ho, bind, Except.bind, pure, Except.pure, Except.ok.injEq] at h
      subst h
      simp [deserializeDynamicType, law.base64, law.identifier i x hi, law.object o y ho, bind,
        Except.bind, pure, Except.pure]

lemma entry_error {i o : Nat} {name : Str} {e : Exc} (h : c.entry i o name = .error e) :
    e = .inconsistency := by
  unfold entry at h
  rcases hi : c.serializeIdentifier i with e' | x
  · simp only [hi, bind, Except.bind, Except.error.injEq] at h
    exact h ▸ law.identifier_error i e' hi
  · rcases ho : c.serializeObject o with e' | y
    · simp only [hi, ho, bind, Except.bind, Except.error.injEq] at h
      exact h ▸ law.object_error o e' ho
    · simp [hi, ho, bind, Except.bind, pure, Except.pure] at h

lemma serializeEntry_eq {i o : Nat} (ho : c.types.getTypeObject i = some o) (name : Str)
    (l : List SerializedType) :
    c.serializeEntry i o name l = .ok (!(c.written name i).isEmpty, l ++ c.written name i) := by
  unfold serializeEntry written
  rcases he : c.entry i o name with e | d
  · have hinc := entry_error law he
    subst hinc
    simp [ho, he]
  · simp [ho, he]

/-- The loop writes what it can, if the objects of all dependencies are known. -/
lemma serializeDependencies_eq (T : Str) {deps : List Nat}
    (h : ∀ i ∈ deps, (c.types.getTypeObject i).isSome) (k : Nat) (l : List SerializedType) :
    c.serializeDependencies T deps k l = .ok (true, l ++ c.writtenDependencies T deps k) := by
  induction deps generalizing k l with
  | nil => simp [serializeDependencies, writtenDependencies]
  | cons i deps ih =>
    have hi := h i List.mem_cons_self
    have hrest := ih fun j hj => h j (List.mem_cons_of_mem i hj)
    obtain ⟨o, ho⟩ := Option.isSome_iff_exists.mp hi
    simp only [serializeDependencies, ho, serializeEntry_eq law ho, bind, Except.bind, hrest,
      writtenDependencies, List.append_assoc]

lemma serializeDependencies_missing (T : Str) {deps : List Nat}
    (h : ¬ ∀ i ∈ deps, (c.types.getTypeObject i).isSome) (k : Nat) (l : List SerializedType) :
    ∃ l', c.serializeDependencies T deps k l = .ok (false, l') := by
  induction deps generalizing k l with
  | nil => exact absurd (by simp) h
  | cons i deps ih =>
    unfold serializeDependencies
    rcases ho : c.types.getTypeObject i with _ | o
    · exact ⟨l, rfl⟩
    · have hrest : ¬ ∀ i ∈ deps, (c.types.getTypeObject i).isSome := by
        intro hall
        refine h fun j hj => ?_
        rcases List.mem_cons.mp hj with rfl | hj
        · simp [ho]
        · exact hall j hj
      simp only [serializeEntry_eq law ho, bind, Except.bind]
      exact ih hrest _ _

lemma serializeDynamicType_true_iff {T : Str} {i : Nat} {l : List SerializedType} :
    c.serializeDynamicType T i [] = .ok (true, l) ↔
      ∃ deps d, c.getTypeInformation i = some deps ∧
        (∀ j ∈ deps, (c.types.getTypeObject j).isSome) ∧ c.written T i = [d] ∧
        l = c.writtenDependencies T deps 0 ++ [d] := by
  unfold serializeDynamicType
  rcases c.getTypeInformation i with _ | deps
  · simp
  · simp only [Option.some.injEq, exists_and_left, exists_eq_left']
    by_cases hdeps : ∀ j ∈ deps, (c.types.getTypeObject j).isSome
    · rw [serializeDependencies_eq law T hdeps]
      simp only [bind, Except.bind, List.nil_append]
      rcases ho : c.types.getTypeObject i with _ | o
      · simp [written, ho, pure, Except.pure]
      · simp only [serializeEntry_eq law ho]
        rcases he : c.entry i o T with e | d
        · simp [written, ho, he]
        · have hw : c.written T i = [d] := by simp [written, ho, he]
          rw [hw]
          constructor
          · rintro ⟨⟩
            exact ⟨hdeps, d, rfl, rfl⟩
          · rintro ⟨-, d', hd, rfl⟩
            rw [hd]
            rfl
    · obtain ⟨l', hl'⟩ := serializeDependencies_missing law T hdeps 0 []
      simp [hl', bind, Except.bind, pure, Except.pure, hdeps]

/-! ### What is read back -/

lemma deserialize_encodes {i : Nat} {d : SerializedType} (h : c.Encodes i d) :
    ∃ o, c.types.getTypeObject i = some o ∧ c.types.registerTypeObject i o = true ∧
      deserializeDynamicType c.types d = .ok (some (d.typeName, i, o)) := by
  obtain ⟨o, ho, hd⟩ := h
  exact ⟨o, ho, law.accepts i o ho, deserialize_entry law hd⟩

lemma registered_snoc {deps : List Nat} {l : List SerializedType}
    (h : List.Forall₂ c.Encodes deps l) {i o : Nat} {d : SerializedType} (hd : c.Encodes i d)
    (ho : c.types.getTypeObject i = some o) (last : Str × Nat × Nat) :
    c.types.registered (l ++ [d]) last = .ok (some (d.typeName, i, o)) ∧
      c.types.registeredIds (l ++ [d]) = deps ++ [i] := by
  induction h generalizing last with
  | nil =>
    obtain ⟨o', ho', hreg, hread⟩ := deserialize_encodes law hd
    rw [ho] at ho'
    cases ho'
    simp [TypeSupport.registered, TypeSupport.registeredIds, hread, hreg]
  | @cons j dj deps l hj _ ih =>
    obtain ⟨oj, -, hreg, hread⟩ := deserialize_encodes law hj
    obtain ⟨hlast, hids⟩ := ih (dj.typeName, j, oj)
    simp [TypeSupport.registered, TypeSupport.registeredIds, hread, hreg, hlast, hids]

end Law

/-! ### Reloading -/

/-- What is written of a type that is reported as written has an entry for each of its
dependencies, in order, and then its own; and the type is registered from it after them, with its
identifier and its object. -/
def Reloads (T : Str) (i : Nat) : Prop :=
  ∀ l, c.serializeDynamicType T i [] = .ok (true, l) →
    ∃ deps l' d o, c.getTypeInformation i = some deps ∧ c.types.getTypeObject i = some o ∧
      l = l' ++ [d] ∧ List.Forall₂ c.Encodes deps l' ∧ c.Encodes i d ∧ d.typeName = T ∧
      ∀ bytes, c.serializeDynamicTypes l = some bytes → ∀ s : State,
        (registerType c.types T bytes).run s =
          .ok (some (i, o)) (s.log ((deps ++ [i]).map .typeRegistered))

/-- A type that is reported as written has dependencies that can all be coded. -/
def CodesDependencies (i : Nat) : Prop :=
  ∀ deps o, c.getTypeInformation i = some deps →
    (∀ j ∈ deps, (c.types.getTypeObject j).isSome) → c.types.getTypeObject i = some o →
    c.Codes i o → ∀ j ∈ deps, ∀ oj, c.types.getTypeObject j = some oj → c.Codes j oj

variable {c}

lemma typeName_entry {i o : Nat} {name : Str} {d : SerializedType}
    (h : c.entry i o name = .ok d) : d.typeName = name := by
  unfold entry at h
  rcases hi : c.serializeIdentifier i with e | x
  · simp [hi, bind, Except.bind] at h
  · rcases ho : c.serializeObject o with e | y
    · simp [hi, ho, bind, Except.bind] at h
    · simp only [hi, ho, bind, Except.bind, pure, Except.pure, Except.ok.injEq] at h
      rw [← h]

lemma encodes_of_written {T : Str} {i : Nat} {d : SerializedType} (h : c.written T i = [d]) :
    c.Encodes i d ∧ d.typeName = T := by
  unfold written at h
  rcases ho : c.types.getTypeObject i with _ | o
  · simp [ho] at h
  · rcases hd : c.entry i o T with e | d'
    · simp [ho, hd] at h
    · simp only [ho, hd, List.cons.injEq, and_true] at h
      subst h
      have hname := typeName_entry hd
      exact ⟨⟨o, ho, hname.symm ▸ hd⟩, hname⟩

lemma Encodes.codes {i o : Nat} {d : SerializedType} (h : c.Encodes i d)
    (ho : c.types.getTypeObject i = some o) : c.Codes i o := by
  obtain ⟨o', ho', hd⟩ := h
  rw [ho] at ho'
  cases ho'
  exact (codes_iff_entry _).mpr ⟨d, hd⟩

lemma written_of_codes {i o : Nat} (ho : c.types.getTypeObject i = some o) (hc : c.Codes i o)
    (T : Str) : ∃ d, c.written T i = [d] := by
  obtain ⟨d, hd⟩ := (codes_iff_entry T).mp hc
  exact ⟨d, by simp [written, ho, hd]⟩

lemma forall₂_writtenDependencies (T : Str) {deps : List Nat}
    (h : ∀ j ∈ deps, ∃ oj, c.types.getTypeObject j = some oj ∧ c.Codes j oj) (k : Nat) :
    List.Forall₂ c.Encodes deps (c.writtenDependencies T deps k) := by
  induction deps generalizing k with
  | nil => exact .nil
  | cons j deps ih =>
    obtain ⟨oj, hoj, hc⟩ := h j List.mem_cons_self
    obtain ⟨d, hd⟩ := written_of_codes hoj hc (dependencyName T k)
    unfold writtenDependencies
    rw [hd]
    exact .cons (encodes_of_written hd).1 (ih (fun m hm => h m (List.mem_cons_of_mem j hm)) _)

end Persistence

open Persistence in
/-- **Persisted types can be reloaded** if and only if no dependency of the type is one that cannot
be coded, where the type itself is written. -/
theorem reloads_iff (c : Persistence) (law : LawfulPersistence c) (T : Str) (i : Nat) :
    c.Reloads T i ↔ c.CodesDependencies i := by
  constructor
  · intro h deps o hdeps hobjects ho hc j hj oj hoj
    obtain ⟨d, hd⟩ := written_of_codes ho hc T
    have hwritten := (serializeDynamicType_true_iff law).mpr ⟨deps, d, hdeps, hobjects, hd, rfl⟩
    obtain ⟨deps', l', d', o', hdeps', -, -, hl', -⟩ := h _ hwritten
    rw [hdeps] at hdeps'
    cases hdeps'
    have hcodes := hl'.imp fun j' e he =>
      (⟨fun o'' ho'' => he.codes ho'', he⟩ :
        (∀ o'', c.types.getTypeObject j' = some o'' → c.Codes j' o'') ∧ c.Encodes j' e)
    exact (List.forall₂_and_left _ _ |>.mp hcodes).1 j hj oj hoj
  · intro h l hl
    obtain ⟨deps, d, hdeps, hobjects, hd, rfl⟩ := (serializeDynamicType_true_iff law).mp hl
    obtain ⟨hencodes, hname⟩ := encodes_of_written hd
    obtain ⟨o, ho, -⟩ := id hencodes
    have hentries := forall₂_writtenDependencies (c := c) T (k := 0) fun j hj => by
      obtain ⟨oj, hoj⟩ := Option.isSome_iff_exists.mp (hobjects j hj)
      exact ⟨oj, hoj, h deps o hdeps hobjects ho (hencodes.codes ho) j hj oj hoj⟩
    refine ⟨deps, _, d, o, hdeps, ho, rfl, hentries, hencodes, hname, fun bytes hbytes s => ?_⟩
    obtain ⟨hlast, hids⟩ := registered_snoc law hentries hencodes ho ([], 0, 0)
    rw [registerType_run_of_collection _ s T (law.collection _ _ hbytes), hids,
      TypeSupport.registeredType, law.collection _ _ hbytes]
    simp [hlast, hname]

/-! Two types can be coded, and a third one cannot. -/

deriving instance DecidableEq for SerializedType

def codeText : Nat → Except Exc Str
  | 0 => .ok "abc".toList
  | 1 => .ok "abd".toList
  | _ => .error .inconsistency

def decodeText (s : Str) : Except Exc Nat :=
  if s = "abc".toList then .ok 0
  else if s = "abd".toList then .ok 1
  else .error .cdrException

lemma decodeText_codeText {i : Nat} {s : Str} (h : codeText i = .ok s) :
    decodeText s = .ok i := by
  match i, h with
  | 0, h => cases h; rfl
  | 1, h => cases h; rfl
  | _ + 2, h => cases h

lemma codeText_error {i : Nat} {e : Exc} (h : codeText i = .error e) : e = .inconsistency := by
  match i, h with
  | 0, h => cases h
  | 1, h => cases h
  | _ + 2, h => cases h; rfl

/-- The base64 texts of the two codes, and back. -/
def base64Texts : Equiv.Perm Str :=
  Equiv.swap "abc".toList "YWJj".toList * Equiv.swap "abd".toList "YWJk".toList

/-- The entries of a type and of its only dependency. -/
def chatterEntries : List SerializedType :=
  [⟨"chatter_0".toList, "YWJj".toList, "YWJj".toList⟩,
    ⟨"chatter".toList, "YWJk".toList, "YWJk".toList⟩]

/-- The second type depends on the one that is given. -/
def dependingOn (dependency : Nat) : Persistence where
  types :=
    { Env.silent.types with
      getTypeObject := some
      registerTypeObject := fun _ _ => true
      deserializeDynamicTypes := fun b =>
        if b = [2] then some chatterEntries
        else if b = [1] then some chatterEntries.tail else none
      base64Decode := fun s => .ok (base64Texts.symm s)
      deserializeIdentifier := decodeText
      deserializeObject := decodeText }
  getTypeInformation := fun i => if i = 1 then some [dependency] else some []
  base64Encode := base64Texts
  serializeIdentifier := codeText
  serializeObject := codeText
  serializeDynamicTypes := fun l =>
    if l = chatterEntries then some [2] else if l = chatterEntries.tail then some [1] else none

lemma lawful_dependingOn (dependency : Nat) : LawfulPersistence (dependingOn dependency) where
  base64 s := by simp [dependingOn]
  identifier _ _ h := decodeText_codeText h
  object _ _ h := decodeText_codeText h
  collection l b h := by
    simp only [dependingOn] at h ⊢
    split at h
    · rename_i hl
      cases h
      simp [hl]
    · split at h
      · rename_i hl
        cases h
        simp [hl]
      · cases h
  identifier_error _ _ h := codeText_error h
  object_error _ _ h := codeText_error h
  accepts _ _ _ := rfl

theorem reloads_iff_chatter :
    (dependingOn 0).serializeDynamicType "chatter".toList 1 [] = .ok (true, chatterEntries) ∧
      ((dependingOn 0).Reloads "chatter".toList 1 ↔ (dependingOn 0).CodesDependencies 1) :=
  ⟨by decide, reloads_iff _ (lawful_dependingOn 0) "chatter".toList 1⟩

/-- The dependency cannot be coded, and the type is written without it. -/
theorem dependency_dropped :
    LawfulPersistence (dependingOn 2) ∧
      (dependingOn 2).serializeDynamicType "chatter".toList 1 [] =
        .ok (true, chatterEntries.tail) ∧
      ¬ (dependingOn 2).Reloads "chatter".toList 1 := by
  have hrun : (dependingOn 2).serializeDynamicType "chatter".toList 1 [] =
      .ok (true, chatterEntries.tail) := by decide
  refine ⟨lawful_dependingOn 2, hrun, fun h => ?_⟩
  obtain ⟨deps, l', d, o, hdeps, -, hl, hl', -⟩ := h _ hrun
  cases hdeps
  have hlength : 1 = l'.length := hl'.length_eq
  have htail : 1 = (l' ++ [d]).length := congrArg List.length hl
  rw [List.length_append, ← hlength] at htail
  cases htail

end DdsEnabler
