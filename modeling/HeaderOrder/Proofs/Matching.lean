import HeaderOrder.Matching

/-!
# Matching against the declarations of a header

Every entry of a header's declarations has the signature that its qualified name makes with some
parameters.  A signature therefore has a parameter list, and the question which declaration a
definition belongs to always has an answer: the one with its own signature, or else the first that
is `similar`, if there is one.
-/

namespace HeaderOrder

/-- An entry after an insertion is the inserted one, or was there before. -/
theorem Entries.mem_put {κ α : Type} [DecidableEq κ] {key : κ} {value : α}
    {entries : List (κ × α)} {entry : κ × α} (member : entry ∈ put key value entries) :
    entry = (key, value) ∨ entry ∈ entries := by
  induction entries with
  | nil => exact Or.inl (List.mem_singleton.1 member)
  | cons first rest ih =>
      simp only [put] at member
      split at member
      · next same =>
          rcases List.mem_cons.1 member with replaced | later
          · exact Or.inl (same ▸ replaced)
          · exact Or.inr (List.mem_cons_of_mem _ later)
      · rcases List.mem_cons.1 member with here | later
        · exact Or.inr (here ▸ List.mem_cons_self ..)
        · cases ih later with
          | inl inserted => exact Or.inl inserted
          | inr before => exact Or.inr (List.mem_cons_of_mem _ before)

/-- A key has a value exactly if it is the key of an entry. -/
theorem Entries.isSome_lookup {κ α : Type} [DecidableEq κ] {key : κ} {entries : List (κ × α)} :
    (lookup key entries).isSome = true ↔ key ∈ entries.map (·.1) := by
  induction entries with
  | nil => simp [lookup]
  | cons first rest ih =>
      rw [lookup, List.map_cons, List.mem_cons]
      split
      · next same => simp [same]
      · next differ => rw [ih, or_iff_right fun equal => differ equal.symm]

theorem Entries.mem_map_fst_of_lookup {κ α : Type} [DecidableEq κ] {key : κ} {value : α}
    {entries : List (κ × α)} (found : lookup key entries = some value) :
    key ∈ entries.map (·.1) :=
  isSome_lookup.1 (Option.isSome_of_eq_some found)

theorem Catalog.isSome_get? {κ α : Type} [DecidableEq κ] {catalog : Catalog κ α} {key : κ} :
    (catalog.get? key).isSome = true ↔ key ∈ catalog.keys :=
  Entries.isSome_lookup

/-- A signature has a parameter list. -/
theorem Signature.exists_params? (name params : Text) :
    ∃ found, Signature.params? (Signature.of name params) = some found := by
  have shape : Signature.of name params = name ++ '(' :: (Params.normalize params ++ [')']) := by
    simp [Signature.of]
  have cut := List.splitOn_append_cons_self (a := '(') name (Params.normalize params ++ [')'])
  have before := List.splitOn_ne_nil '(' name
  have after := List.splitOn_ne_nil '(' (Params.normalize params ++ [')'])
  rw [Signature.params?, shape, cut]
  cases beforeCut : name.splitOn '(' with
  | nil => exact absurd beforeCut before
  | cons first others =>
      cases afterCut : (Params.normalize params ++ [')']).splitOn '(' with
      | nil => exact absurd afterCut after
      | cons next further =>
          cases others with
          | nil => exact ⟨next, rfl⟩
          | cons second rest => exact ⟨second, rfl⟩

/-- A signature holds no more of the parameters than their normal form. -/
theorem Signature.of_congr {left right : Text}
    (equal : Params.normalize left = Params.normalize right) (name : Text) :
    Signature.of name left = Signature.of name right := by
  rw [Signature.of, Signature.of, equal]

theorem Signature.of_inj {name left right : Text}
    (equal : Signature.of name left = Signature.of name right) :
    Params.normalize left = Params.normalize right := by
  rw [Signature.of, Signature.of] at equal
  exact List.append_cancel_left (List.append_cancel_right equal)

namespace Declarations

/-- Whether every signature is made of the qualified name that it is recorded with. -/
def FromNames (declarations : Declarations) : Prop :=
  ∀ entry ∈ declarations.entries, ∃ params, entry.1 = Signature.of entry.2 params

theorem fromNames_record {declarations : Declarations} (fromNames : declarations.FromNames)
    (scope : Scope) (line : Text) : (declarations.record scope line).FromNames := by
  intro entry member
  simp only [record] at member
  split at member
  · next name params _ =>
      cases Entries.mem_put member with
      | inl inserted => exact ⟨params, by rw [inserted]⟩
      | inr before => exact fromNames entry before
  · exact fromNames entry member

theorem fromNames_readLines {declarations : Declarations} (fromNames : declarations.FromNames)
    (scope : Scope) (lines : List Text) : (readLines scope declarations lines).FromNames := by
  induction lines generalizing scope declarations with
  | nil => exact fromNames
  | cons line rest ih => exact ih (fromNames_record fromNames _ line) _

/-- The declarations of a header are recorded under signatures of their names. -/
theorem fromNames_ofHeader (header : Text) : (ofHeader header).FromNames := by
  apply fromNames_readLines
  intro entry member
  cases member

/-- Whether the simple name of an entry is `name` and its signature has the same parameters. -/
def similar (name params : Text) (entry : Text × Text) : Bool :=
  simpleName entry.2 == name && (Signature.params? entry.1).any (Params.same · params)

/-- If every signature has a parameter list, then the first similar entry is found. -/
theorem firstSimilar_eq_find? (name params : Text) {entries : List (Text × Text)}
    (listed : ∀ entry ∈ entries, (Signature.params? entry.1).isSome = true) :
    firstSimilar name params entries = .ok ((entries.find? (similar name params)).map (·.1)) := by
  induction entries with
  | nil => rfl
  | cons entry rest ih =>
      have later := ih fun other member => listed other (List.mem_cons_of_mem _ member)
      obtain ⟨declaredParams, found⟩ :=
        Option.isSome_iff_exists.1 (listed entry (List.mem_cons_self ..))
      obtain ⟨signature, declared⟩ := entry
      dsimp only at found
      by_cases named : simpleName declared = name
      · by_cases same : Params.same declaredParams params = true
        · simp [firstSimilar, similar, named, found, same]
        · simp [firstSimilar, similar, named, found, same, later]
      · simp [firstSimilar, similar, named, later]

/-- A definition belongs to the declaration with its own signature, or else to the first similar
one. -/
theorem signatureFor_ofHeader (header name params : Text) :
    (ofHeader header).signatureFor name params =
      .ok (if Signature.of name params ∈ (ofHeader header).keys then some (Signature.of name params)
        else ((ofHeader header).entries.find? (similar name params)).map (·.1)) := by
  have listed : ∀ entry ∈ (ofHeader header).entries, (Signature.params? entry.1).isSome = true := by
    intro entry member
    obtain ⟨declaredParams, made⟩ := fromNames_ofHeader header entry member
    obtain ⟨_, found⟩ := Signature.exists_params? entry.2 declaredParams
    rw [made, found]
    rfl
  rw [signatureFor]
  split
  · next direct => rw [if_pos (Catalog.isSome_get?.1 (Option.isSome_of_eq_some direct))]
  · next absent =>
      have unknown := mt Catalog.isSome_get?.2 (Option.not_isSome_iff_eq_none.2 absent)
      rw [if_neg unknown, firstSimilar_eq_find? name params listed]

/-- Which declaration of a header a definition belongs to can always be told. -/
theorem exists_signatureFor (header name params : Text) :
    ∃ found, (ofHeader header).signatureFor name params = .ok found :=
  ⟨_, signatureFor_ofHeader header name params⟩

theorem firstSimilar_congr {left right : Text}
    (equal : Params.normalize left = Params.normalize right) (name : Text)
    (entries : List (Text × Text)) :
    firstSimilar name left entries = firstSimilar name right entries := by
  have compared : ∀ other, Params.same other left = Params.same other right := by
    intro other
    rw [Params.same, Params.same, equal]
  induction entries with
  | nil => rfl
  | cons entry rest ih =>
      obtain ⟨signature, declared⟩ := entry
      rw [firstSimilar, firstSimilar, ih]
      simp only [compared]

/-- Which declaration a definition belongs to depends on the normal form of its parameters only. -/
theorem signatureFor_congr (declarations : Declarations) {left right : Text}
    (equal : Params.normalize left = Params.normalize right) (name : Text) :
    declarations.signatureFor name left = declarations.signatureFor name right := by
  rw [signatureFor, signatureFor, Signature.of_congr equal, firstSimilar_congr equal]

theorem signatureFor_of_mem {declarations : Declarations} {name params : Text}
    (declared : Signature.of name params ∈ declarations.keys) :
    declarations.signatureFor name params = .ok (some (Signature.of name params)) := by
  obtain ⟨value, found⟩ := Option.isSome_iff_exists.1 (Catalog.isSome_get?.2 declared)
  rw [signatureFor, found]

theorem mem_map_fst_of_firstSimilar {name params signature : Text} {entries : List (Text × Text)}
    (found : firstSimilar name params entries = .ok (some signature)) :
    signature ∈ entries.map (·.1) := by
  induction entries with
  | nil => cases found
  | cons entry rest ih =>
      obtain ⟨other, declared⟩ := entry
      simp only [firstSimilar] at found
      split at found
      · split at found
        · cases found
        · split at found
          · cases found
            exact List.mem_cons_self ..
          · exact List.mem_cons_of_mem _ (ih found)
      · exact List.mem_cons_of_mem _ (ih found)

/-- A definition belongs to one of the declarations, by its signature. -/
theorem mem_keys_of_signatureFor {declarations : Declarations} {name params signature : Text}
    (found : declarations.signatureFor name params = .ok (some signature)) :
    signature ∈ declarations.keys := by
  simp only [signatureFor] at found
  split at found
  · next value direct =>
      cases found
      exact Catalog.isSome_get?.1 (Option.isSome_of_eq_some direct)
  · exact mem_map_fst_of_firstSimilar found

end Declarations

end HeaderOrder
