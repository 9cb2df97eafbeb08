import HeaderOrder.Proofs.GreedyBlocks
import HeaderOrder.Proofs.Signatures

/-!
# Definitions without a declaration of their own signature

A definition whose signature no declaration has is compared with the declarations one by one, by
simple names and by parameters.  The parameters of a declaration are what stands between the first
two opening parentheses of its signature.  If there is only one, they include the closing
parenthesis at the end; normal forms keep it, and the parameters of a definition have none.

So the comparison succeeds only where the parameters of a declaration open a second parenthesis,
and then not all of them are compared.  A declaration in a namespace is never found by its simple
name and its own parameters, and for a header without a second parenthesis in any signature a
definition belongs to the declaration with its own signature or to none.
-/

namespace HeaderOrder

open Text

/-! ## Simple names -/

theorem simpleNameFrom_of_notMem (current : Text) {name : Text} (simple : ':' ∉ name) :
    simpleNameFrom current name = current.reverse ++ name := by
  fun_induction simpleNameFrom current name with
  | case1 current rest ih => simp at simple
  | case2 current character rest _ ih => simp [ih (List.not_mem_of_not_mem_cons simple)]
  | case3 current => simp

theorem simpleNameFrom_qualified (current : Text) {qualifier : Text} (simple : ':' ∉ qualifier)
    (name : Text) : simpleNameFrom current (qualified qualifier name) = simpleNameFrom [] name := by
  induction qualifier generalizing current with
  | nil => rfl
  | cons character rest ih =>
      have other : character ≠ ':' := fun equal => simple (equal ▸ List.mem_cons_self ..)
      have later := ih (character :: current) (List.not_mem_of_not_mem_cons simple)
      rw [qualified, List.cons_append, List.cons_append, simpleNameFrom]
      · exact later
      · exact fun _ equal => absurd equal other

theorem mem_of_mem_simpleNameFrom {current name : Text} {character : Char}
    (member : character ∈ simpleNameFrom current name) :
    character ∈ current ∨ character ∈ name := by
  fun_induction simpleNameFrom current name with
  | case1 current rest ih =>
      have later := (ih member).resolve_left List.not_mem_nil
      exact Or.inr (List.mem_cons_of_mem _ (List.mem_cons_of_mem _ later))
  | case2 current first rest _ ih =>
      rcases ih member with read | later
      · rcases List.mem_cons.1 read with rfl | before
        · exact Or.inr (List.mem_cons_self ..)
        · exact Or.inl before
      · exact Or.inr (List.mem_cons_of_mem _ later)
  | case3 current => exact Or.inl (List.mem_reverse.1 member)

/-- The simple name under one qualifier is the name. -/
theorem simpleName_qualified {qualifier name : Text} (outer : ':' ∉ qualifier)
    (inner : ':' ∉ name) : simpleName (qualified qualifier name) = name := by
  rw [simpleName, simpleNameFrom_qualified [] outer, simpleNameFrom_of_notMem [] inner]
  rfl

/-! ## The parameters in a signature -/

namespace Signature

theorem params?_eq_head? {name : Text} (closed : '(' ∉ name) (rest : Text) :
    params? (name ++ '(' :: rest) = (rest.splitOn '(').head? := by
  rw [params?, List.splitOn_append_cons_self, List.splitOn_eq_singleton closed]
  cases cut : rest.splitOn '(' with
  | nil => exact absurd cut (List.splitOn_ne_nil '(' rest)
  | cons first others => rfl

/-- Whether a signature opens a second parenthesis right behind parameters with the normal form of
the given ones. -/
def Reopened (signature name params : Text) : Prop :=
  ∃ front more, signature = name ++ '(' :: (front ++ '(' :: more) ∧ '(' ∉ front ∧
    Params.normalize front = Params.normalize params

/-- The parameters that are read off a signature agree with parameters that hold no closing
parenthesis exactly if a second opening parenthesis cuts them short there. -/
theorem Parts.any_same_iff {signature name declared params : Text}
    (parts : Parts signature name declared) (closed : ')' ∉ params) :
    (params? signature).any (Params.same · params) = true ↔ Reopened signature name params := by
  constructor
  · intro agrees
    rw [parts.whole, params?_eq_head? parts.nameClosed] at agrees
    by_cases opens : '(' ∈ declared
    · obtain ⟨front, more, rfl, first⟩ := List.eq_append_cons_of_mem opens
      refine ⟨front, more ++ [')'], by simp [parts.whole], first, ?_⟩
      rw [List.append_assoc, List.cons_append, List.splitOn_append_cons_self,
        List.splitOn_eq_singleton first] at agrees
      exact (Params.same_eq_true front params).1 agrees
    · -- The closing parenthesis is compared as well, and only one side has it.
      have single : '(' ∉ declared ++ [')'] := by simp [opens]
      rw [List.splitOn_eq_singleton single] at agrees
      have same : Params.normalize (declared ++ [')']) = Params.normalize params :=
        (Params.same_eq_true _ params).1 agrees
      have kept : ')' ∈ Params.normalize (declared ++ [')']) :=
        (Params.mem_normalize_of_isDelimiter rfl _).2 (by simp)
      rw [same] at kept
      exact absurd ((Params.mem_normalize_of_isDelimiter rfl params).1 kept) closed
  · rintro ⟨front, more, whole, first, same⟩
    rw [whole, params?_eq_head? parts.nameClosed, List.splitOn_append_cons_self,
      List.splitOn_eq_singleton first]
    exact (Params.same_eq_true front params).2 same

theorem Reopened.count_ne_one {signature name params : Text}
    (reopened : Reopened signature name params) : signature.count '(' ≠ 1 := by
  obtain ⟨front, more, rfl, -, -⟩ := reopened
  simp only [List.count_append, List.count_cons_self]
  omega

/-- A signature that opens a second parenthesis behind some parameters is not made of these. -/
theorem Reopened.ne_of {signature name params : Text} (reopened : Reopened signature name params) :
    signature ≠ of name params := by
  obtain ⟨front, more, rfl, first, same⟩ := reopened
  intro equal
  rw [of, ← same, List.append_assoc, List.append_assoc, List.singleton_append,
    List.append_cancel_left_eq, List.cons.injEq] at equal
  have second : '(' ∈ Params.normalize front ++ [')'] := equal.2 ▸ by simp
  rcases List.mem_append.1 second with inFront | last
  · exact first ((Params.normalize_sublist front).subset inFront)
  · exact absurd (List.mem_singleton.1 last) (by decide)

end Signature

/-! ## The declaration of a definition -/

namespace Declarations

/-- A signature of a header is recorded with the name that it begins with. -/
theorem mem_entries_of_mem_keys {header signature : Text}
    (known : signature ∈ (ofHeader header).keys) :
    (signature, Signature.name signature) ∈ (ofHeader header).entries := by
  obtain ⟨⟨_, name⟩, member, rfl⟩ := List.mem_map.1 known
  obtain ⟨_, parts⟩ := shaped_ofHeader header _ member
  rw [parts.name_eq]
  exact member

/-- The declaration on a line is recorded under its name in the scope of the line. -/
theorem mem_entries_of_captures? {header line name params : Text} {before after : List Text}
    {scope : Scope} (cut : Text.lines header = before ++ line :: after)
    (reached : Scope.outermost.after (before ++ [line]) = scope)
    (declares : Grammar.declaration.captures? line = some [name, params]) :
    (Signature.of (scope.qualify name) params, scope.qualify name) ∈ (ofHeader header).entries := by
  have grown : (readLines Scope.outermost Catalog.empty (before ++ [line])).entries <+:
      (ofHeader header).entries :=
    entries_prefix_ofHeader (by rw [cut, List.append_assoc, List.singleton_append])
  have known : Signature.of (scope.qualify name) params ∈
      (readLines Scope.outermost Catalog.empty (before ++ [line])).keys := by
    rw [Scope.after_append, Scope.after_cons, Scope.after_nil] at reached
    rw [readLines_append, readLines, readLines, record, declares, reached]
    apply Catalog.isSome_get?.1
    rw [Catalog.get?_insert, if_pos rfl]
    rfl
  have named := Scope.named_after (fun _ word => word) (Scope.named_outermost _) (before ++ [line])
  have recorded := mem_entries_of_mem_keys ((grown.map (·.1)).subset known)
  rwa [(Signature.parts_of_captures? (reached ▸ named) declares).name_eq] at recorded

theorem similar_iff {header : Text} {entry : Text × Text}
    (member : entry ∈ (ofHeader header).entries) (name : Text) {params : Text}
    (closed : ')' ∉ params) :
    similar name params entry = true ↔
      simpleName entry.2 = name ∧ Signature.Reopened entry.1 entry.2 params := by
  obtain ⟨_, parts⟩ := shaped_ofHeader header entry member
  rw [similar, Bool.and_eq_true, beq_iff_eq, parts.any_same_iff closed]

/-- A definition belongs to no declaration of a header exactly if its signature is not declared
and no signature of its simple name opens a second parenthesis behind its parameters. -/
theorem signatureFor_eq_none_iff (header name : Text) {params : Text} (closed : ')' ∉ params) :
    (ofHeader header).signatureFor name params = .ok none ↔
      Signature.of name params ∉ (ofHeader header).keys ∧
        ∀ entry ∈ (ofHeader header).entries, simpleName entry.2 = name →
          ¬ Signature.Reopened entry.1 entry.2 params := by
  rw [signatureFor_ofHeader, Except.ok.injEq]
  split
  · next known => simp [known]
  · next unknown =>
      rw [Option.map_eq_none_iff, List.find?_eq_none]
      constructor
      · intro noneSimilar
        refine ⟨unknown, fun entry member named reopened => ?_⟩
        exact noneSimilar entry member ((similar_iff member name closed).2 ⟨named, reopened⟩)
      · rintro ⟨-, noneReopened⟩ entry member alike
        obtain ⟨named, reopened⟩ := (similar_iff member name closed).1 alike
        exact noneReopened entry member named reopened

/-- A declaration without an opening parenthesis in its parameters is found for a definition of
the same name exactly if the parameters have the same normal form. -/
theorem signatureFor_eq_declared_iff {header name declared params : Text}
    (known : Signature.of name declared ∈ (ofHeader header).keys) (single : '(' ∉ declared)
    (closed : ')' ∉ params) :
    (ofHeader header).signatureFor name params = .ok (some (Signature.of name declared)) ↔
      Params.normalize declared = Params.normalize params := by
  constructor
  · intro found
    rw [signatureFor_ofHeader, Except.ok.injEq] at found
    split at found
    · exact (Signature.of_inj (Option.some.inj found)).symm
    · -- A similar declaration opens a second parenthesis, and neither name nor parameters have one.
      obtain ⟨⟨_, qualifiedName⟩, first, rfl⟩ := Option.map_eq_some_iff.1 found
      have member := List.mem_of_find?_eq_some first
      obtain ⟨simple, reopened⟩ := (similar_iff member name closed).1 (List.find?_some first)
      obtain ⟨_, parts⟩ := shaped_ofHeader header _ member
      have plainName : '(' ∉ name := fun opens =>
        parts.nameClosed
          ((mem_of_mem_simpleNameFrom (simple ▸ opens)).resolve_left List.not_mem_nil)
      have plainParams : '(' ∉ Params.normalize declared := fun opens =>
        single ((Params.normalize_sublist declared).subset opens)
      refine absurd ?_ reopened.count_ne_one
      simp [Signature.of, List.count_eq_zero_of_not_mem plainName,
        List.count_eq_zero_of_not_mem plainParams]
  · intro equal
    rw [← signatureFor_congr _ equal]
    exact signatureFor_of_mem known

/-- An identifier with parameters is matched with a declaration of the same parameters exactly if
it is itself declared with them. -/
theorem signatureFor_sameParams_iff (header : Text) {name params : Text}
    (valid : isIdentifier name = true) (closed : ')' ∉ params) :
    (∃ entry ∈ (ofHeader header).entries,
      (ofHeader header).signatureFor name params = .ok (some entry.1) ∧ simpleName entry.2 = name ∧
        entry.1 = Signature.of entry.2 params) ↔
      Signature.of name params ∈ (ofHeader header).keys := by
  rw [signatureFor_ofHeader]
  constructor
  · rintro ⟨entry, member, found, -, made⟩
    by_contra unknown
    rw [if_neg unknown, Except.ok.injEq, Option.map_eq_some_iff] at found
    obtain ⟨other, first, same⟩ := found
    have inHeader := List.mem_of_find?_eq_some first
    obtain ⟨-, reopened⟩ := (similar_iff inHeader name closed).1 (List.find?_some first)
    -- Both entries have the same signature, so they have the same name.
    obtain ⟨_, parts⟩ := shaped_ofHeader header entry member
    obtain ⟨_, otherParts⟩ := shaped_ofHeader header other inHeader
    have names : other.2 = entry.2 := by rw [← parts.name_eq, ← otherParts.name_eq, same]
    rw [same, names] at reopened
    exact reopened.ne_of made
  · intro known
    have member := mem_entries_of_mem_keys known
    rw [Signature.name_of (notMem_of_isIdentifier valid '(' (by decide))] at member
    refine ⟨_, member, by rw [if_pos known], ?_, rfl⟩
    exact simpleNameFrom_of_notMem [] (notMem_of_isIdentifier valid ':' (by decide))

end Declarations

/-- A declaration in a namespace and in no class is recorded under its name with the namespace in
front, of which the declared name is the simple name.  By the declared name and its parameters a
declaration of these parameters is found exactly if they are also declared outside of every
namespace and class.  No declaration is found exactly if they are not, and no signature of this
simple name opens a second parenthesis right behind such parameters. -/
theorem unqualified_match_iff {header line name params innermost : Text} {before after : List Text}
    {scope : Scope} (cut : Text.lines header = before ++ line :: after)
    (reached : Scope.outermost.after (before ++ [line]) = scope)
    (inNamespace : scope.namespaces.head? = some innermost) (noClass : scope.inClass = none)
    (declares : Grammar.declaration.captures? line = some [name, params]) :
    ((Signature.of (qualified innermost name) params, qualified innermost name) ∈
        (Declarations.ofHeader header).entries ∧
      simpleName (qualified innermost name) = name) ∧
    ((∃ entry ∈ (Declarations.ofHeader header).entries,
      (Declarations.ofHeader header).signatureFor name params = .ok (some entry.1) ∧
        simpleName entry.2 = name ∧ entry.1 = Signature.of entry.2 params) ↔
      Signature.of name params ∈ (Declarations.ofHeader header).keys) ∧
    ((Declarations.ofHeader header).signatureFor name params = .ok none ↔
      Signature.of name params ∉ (Declarations.ofHeader header).keys ∧
        ∀ entry ∈ (Declarations.ofHeader header).entries, simpleName entry.2 = name →
          ¬ Signature.Reopened entry.1 entry.2 params) := by
  obtain ⟨valid, closed⟩ := Grammar.of_captures?_declaration declares
  refine ⟨?_, Declarations.signatureFor_sameParams_iff header valid closed,
    Declarations.signatureFor_eq_none_iff header name closed⟩
  have recorded := Declarations.mem_entries_of_captures? cut reached declares
  rw [Scope.qualify_eq, inNamespace, noClass] at recorded
  have named := Scope.named_after (fun _ word => word) (Scope.named_outermost _) (before ++ [line])
  rw [reached] at named
  have outer : ':' ∉ innermost := fun colon =>
    absurd (named.namespaces innermost (List.mem_of_mem_head? inNamespace) ':' colon) (by decide)
  exact ⟨recorded, simpleName_qualified outer (notMem_of_isIdentifier valid ':' (by decide))⟩

def namespacedHeader : Text :=
  "namespace N \x7b\nvoid f(int x);\n\x7d".toList

theorem unqualified_match_iff_namespaced :
    ("N::f(intx)".toList, "N::f".toList) ∈ (Declarations.ofHeader namespacedHeader).entries ∧
      simpleName "N::f".toList = "f".toList ∧
      (Declarations.ofHeader namespacedHeader).signatureFor "f".toList "int x".toList =
        .ok none := by
  have cut : Text.lines namespacedHeader =
      ["namespace N \x7b".toList] ++ "void f(int x);".toList :: ["\x7d".toList] := by
    decide +kernel
  have entries : (Declarations.ofHeader namespacedHeader).entries =
      [("N::f(intx)".toList, "N::f".toList)] := by
    decide +kernel
  have reached : Scope.outermost.after (["namespace N \x7b".toList] ++ ["void f(int x);".toList]) =
      ⟨["N".toList], none⟩ := by
    decide +kernel
  have declares : Grammar.declaration.captures? "void f(int x);".toList =
      some ["f".toList, "int x".toList] := by
    decide +kernel
  obtain ⟨⟨recorded, simple⟩, -, unmatched⟩ := unqualified_match_iff cut reached rfl rfl declares
  refine ⟨recorded, simple, unmatched.2 ⟨by rw [Catalog.keys, entries]; decide, ?_⟩⟩
  intro entry member _ reopened
  rw [entries, List.mem_singleton] at member
  rw [member] at reopened
  exact reopened.count_ne_one (by decide)

/-! ## Headers without a second parenthesis -/

theorem Head.closing_notMem_params {line : Text} {head : Head} (read : ofLine? line = some head) :
    ')' ∉ head.params := by
  rcases Option.or_eq_some_iff.1 read with isMember | ⟨-, isFree⟩
  · rw [member?] at isMember
    split at isMember
    · next qualifier name params captured =>
        obtain ⟨_, _, _, -, found⟩ := Pattern.matches_of_captures? captured
        obtain ⟨_, listed, _, -, closed, same⟩ := Grammar.of_matches_memberHead found
        obtain ⟨-, -, rfl⟩ : _ ∧ _ ∧ params = listed := by simpa using same
        cases isMember
        exact closed
    · cases isMember
  · rw [free?] at isFree
    split at isFree
    · next name params captured =>
        obtain ⟨_, _, _, -, found⟩ := Pattern.matches_of_captures? captured
        obtain ⟨_, _, _, listed, _, -, -, -, -, closed, same⟩ := Grammar.of_matches_freeHead found
        obtain ⟨-, rfl⟩ : _ ∧ params = listed := by simpa using same
        cases isFree
        exact closed
    · cases isFree

/-- If no signature of a header opens a second parenthesis, then a definition belongs to the
declaration with its own signature or to none. -/
theorem Declarations.signatureFor_of_single {header : Text}
    (single : ∀ signature ∈ (ofHeader header).keys, signature.count '(' = 1) (name : Text)
    {params : Text} (closed : ')' ∉ params) :
    (ofHeader header).signatureFor name params =
      .ok (if Signature.of name params ∈ (ofHeader header).keys then some (Signature.of name params)
        else none) := by
  split
  · next known => rw [signatureFor_ofHeader, if_pos known]
  · next unknown =>
      refine (signatureFor_eq_none_iff header name closed).2 ⟨unknown, ?_⟩
      intro entry member _ reopened
      exact reopened.count_ne_one (single entry.1 (List.mem_map_of_mem member))

/-- No signature of a header opens a second parenthesis.  Then parameters as a head has them,
without a closing parenthesis, are matched by looking up the signature that they make with the
name; and the signature of every definition in a file is the one that the head on its first line
makes. -/
theorem matching_is_exact_lookup {header : Text}
    (single : ∀ signature ∈ (Declarations.ofHeader header).keys, signature.count '(' = 1) :
    (∀ name params, ')' ∉ params →
      (Declarations.ofHeader header).signatureFor name params =
        .ok (if Signature.of name params ∈ (Declarations.ofHeader header).keys then
          some (Signature.of name params) else none)) ∧
    (∀ line head, Head.ofLine? line = some head → ')' ∉ head.params) ∧
    ∀ source, ∃ definitions,
      Definition.ofSource (Declarations.ofHeader header) source = .ok definitions ∧
      ∀ definition ∈ definitions, ∃ head,
        Head.ofLine? (definition.startLine source) = some head ∧ definition.name = head.name ∧
          definition.signature = Signature.of head.name head.params ∧
          definition.signature ∈ (Declarations.ofHeader header).keys := by
  refine ⟨fun name params closed => Declarations.signatureFor_of_single single name closed,
    fun line head read => Head.closing_notMem_params read, fun source => ?_⟩
  obtain ⟨spans, -, found⟩ := Definition.ofSource_eq_filterMap header source
  refine ⟨_, found, fun definition member => ?_⟩
  obtain ⟨span, -, made⟩ := List.mem_filterMap.1 member
  obtain ⟨first, head, signature, here, begins, belongs, rfl⟩ := Definition.of_ofSpan? made
  have known := Declarations.mem_keys_of_signatureFor belongs
  rw [Declarations.signatureFor_of_single single _ (Head.closing_notMem_params begins)] at belongs
  split at belongs
  · cases belongs
    refine ⟨head, ?_, rfl, rfl, known⟩
    rw [Definition.startLine]
    simp [List.getD_eq_getElem?_getD, here, begins]
  · cases belongs

/-- A file that defines the function of the namespace, with its qualifier and without. -/
def namespacedSource : Text :=
  "void N::f(int x = 2) \x7b\n\x7d\nvoid f(int x) \x7b\n\x7d".toList

theorem matching_is_exact_lookup_namespaced :
    (∀ signature ∈ (Declarations.ofHeader namespacedHeader).keys, signature.count '(' = 1) ∧
      (Declarations.ofHeader namespacedHeader).signatureFor "N::f".toList "int x = 2".toList =
        .ok (some "N::f(intx)".toList) ∧
      (Declarations.ofHeader namespacedHeader).signatureFor "f".toList "int x".toList = .ok none ∧
      Definition.ofSource (Declarations.ofHeader namespacedHeader) namespacedSource =
        .ok [⟨"N::f".toList, "N::f(intx)".toList, "void N::f(int x = 2) \x7b\n\x7d".toList, 0⟩] ∧
      ∃ head, Head.ofLine? "void N::f(int x = 2) \x7b".toList = some head ∧
        "N::f(intx)".toList = Signature.of head.name head.params := by
  have keys : (Declarations.ofHeader namespacedHeader).keys = ["N::f(intx)".toList] := by
    decide +kernel
  have single : ∀ signature ∈ (Declarations.ofHeader namespacedHeader).keys,
      signature.count '(' = 1 := by
    rw [keys]
    decide
  have found : Definition.ofSource (Declarations.ofHeader namespacedHeader) namespacedSource =
      .ok [⟨"N::f".toList, "N::f(intx)".toList, "void N::f(int x = 2) \x7b\n\x7d".toList, 0⟩] := by
    decide +kernel
  obtain ⟨lookup, -, signed⟩ := matching_is_exact_lookup single
  obtain ⟨definitions, listed, fromHead⟩ := signed namespacedSource
  obtain rfl := Except.ok.inj (found.symm.trans listed)
  obtain ⟨head, read, -, made, -⟩ := fromHead _ (List.mem_singleton_self _)
  have first : Definition.startLine namespacedSource
      ⟨"N::f".toList, "N::f(intx)".toList, "void N::f(int x = 2) \x7b\n\x7d".toList, 0⟩ =
        "void N::f(int x = 2) \x7b".toList := by
    decide +kernel
  have qualifiedMatch := lookup "N::f".toList "int x = 2".toList (by decide)
  have plainMatch := lookup "f".toList "int x".toList (by decide)
  rw [keys] at qualifiedMatch plainMatch
  exact ⟨single, qualifiedMatch, plainMatch, found, head, first ▸ read, made⟩

end HeaderOrder
