import HeaderOrder.Proofs.HeaderLines

/-!
# Headers in the usual layout

A header in the usual layout is a list of items: lines that declare a function, lines that mean
nothing to the reader, classes that hold such lines, and namespaces that hold further items, to any
depth.  Every construct has its own lines, indented at will.

Reading a rendered header gives its declarations back.  The proof follows the items.  The scope
after an item is the scope before it, so each item does nothing but insert its own declarations;
and since a signature determines the qualified name that it was made of, inserting a signature
again changes nothing.
-/

namespace HeaderOrder

/-! ## Insertions one after the other -/

/-- The entries without those whose key came before. -/
def Entries.firsts {κ α : Type} [DecidableEq κ] : List (κ × α) → List (κ × α)
  | [] => []
  | entry :: rest => entry :: (firsts rest).filter (·.1 ≠ entry.1)

namespace Entries

variable {κ α : Type} [DecidableEq κ]

theorem put_of_notMem {key : κ} (value : α) {entries : List (κ × α)}
    (absent : key ∉ entries.map (·.1)) : put key value entries = entries ++ [(key, value)] := by
  induction entries with
  | nil => rfl
  | cons entry rest ih =>
      rw [List.map_cons, List.mem_cons, not_or] at absent
      rw [put, if_neg (fun same => absent.1 same.symm), ih absent.2, List.cons_append]

/-- Putting a value at a key that has it already changes nothing. -/
theorem put_eq_self {key : κ} {value : α} {entries : List (κ × α)}
    (present : key ∈ entries.map (·.1))
    (same : ∀ entry ∈ entries, entry.1 = key → entry.2 = value) :
    put key value entries = entries := by
  induction entries with
  | nil => cases present
  | cons entry rest ih =>
      rw [put]
      split
      · next here => rw [← same entry (List.mem_cons_self ..) here]
      · next other =>
          have later : key ∈ rest.map (·.1) :=
            (List.mem_cons.1 present).resolve_left fun equal => other equal.symm
          rw [ih later fun entry member => same entry (List.mem_cons_of_mem _ member)]

end Entries

namespace Catalog

variable {κ α : Type} [DecidableEq κ]

def insertAll (catalog : Catalog κ α) (pairs : List (κ × α)) : Catalog κ α :=
  pairs.foldl (fun catalog pair => catalog.insert pair.1 pair.2) catalog

@[simp] theorem insertAll_nil (catalog : Catalog κ α) : catalog.insertAll [] = catalog := rfl

@[simp] theorem insertAll_cons (catalog : Catalog κ α) (pair : κ × α) (rest : List (κ × α)) :
    catalog.insertAll (pair :: rest) = (catalog.insert pair.1 pair.2).insertAll rest := rfl

theorem insertAll_append (catalog : Catalog κ α) (left right : List (κ × α)) :
    catalog.insertAll (left ++ right) = (catalog.insertAll left).insertAll right :=
  List.foldl_append

/-- A key that is only ever inserted with one value has that value. -/
theorem get?_insertAll {catalog : Catalog κ α} {key : κ} {value : α} {pairs : List (κ × α)}
    (same : ∀ pair ∈ pairs, pair.1 = key → pair.2 = value)
    (inserted : catalog.get? key = some value ∨ key ∈ pairs.map (·.1)) :
    (catalog.insertAll pairs).get? key = some value := by
  induction pairs generalizing catalog with
  | nil => exact inserted.resolve_right List.not_mem_nil
  | cons pair rest ih =>
      rw [insertAll_cons]
      apply ih fun other member => same other (List.mem_cons_of_mem _ member)
      rw [get?_insert]
      by_cases here : pair.1 = key
      · exact Or.inl (by rw [if_pos here, same pair (List.mem_cons_self ..) here])
      · rw [if_neg here]
        exact inserted.imp_right fun member =>
          (List.mem_cons.1 member).resolve_left fun equal => here equal.symm

/-- If each value is determined by its key, insertions add the first entry of each new key and
change nothing else. -/
theorem entries_insertAll {catalog : Catalog κ α} {pairs : List (κ × α)} (value : κ → α)
    (fits : ∀ entry ∈ catalog.entries, entry.2 = value entry.1)
    (fitting : ∀ entry ∈ pairs, entry.2 = value entry.1) :
    (catalog.insertAll pairs).entries =
      catalog.entries ++ (Entries.firsts pairs).filter (·.1 ∉ catalog.keys) := by
  induction pairs generalizing catalog with
  | nil => simp [Entries.firsts]
  | cons pair rest ih =>
      have here := fitting pair (List.mem_cons_self ..)
      have later : ∀ entry ∈ rest, entry.2 = value entry.1 := fun entry member =>
        fitting entry (List.mem_cons_of_mem _ member)
      rw [insertAll_cons, Entries.firsts]
      by_cases known : pair.1 ∈ catalog.keys
      · have unchanged : catalog.insert pair.1 pair.2 = catalog := by
          obtain ⟨entries, nodup⟩ := catalog
          have same := Entries.put_eq_self known fun entry member key =>
            (fits entry member).trans (key ▸ here.symm)
          simp only [insert, same]
        have dropped : ∀ entry ∈ Entries.firsts rest,
            (decide (entry.1 ∉ catalog.keys) && decide (entry.1 ≠ pair.1)) =
              decide (entry.1 ∉ catalog.keys) := by
          intro entry _
          by_cases same : entry.1 = pair.1
          · simp [same, known]
          · simp [same]
        rw [unchanged, ih fits later, List.filter_cons_of_neg (by simp [known]),
          List.filter_filter, List.filter_congr dropped]
      · have added : (catalog.insert pair.1 pair.2).entries = catalog.entries ++ [pair] :=
          Entries.put_of_notMem pair.2 known
        have keys : (catalog.insert pair.1 pair.2).keys = catalog.keys ++ [pair.1] := by
          rw [keys_insert, if_neg known]
        have fitsAdded : ∀ entry ∈ (catalog.insert pair.1 pair.2).entries,
            entry.2 = value entry.1 := by
          rw [added]
          intro entry member
          rcases List.mem_append.1 member with old | new
          · exact fits entry old
          · exact List.mem_singleton.1 new ▸ here
        have dropped : ∀ entry ∈ Entries.firsts rest,
            (decide (entry.1 ∉ catalog.keys) && decide (entry.1 ≠ pair.1)) =
              decide (entry.1 ∉ catalog.keys ++ [pair.1]) := by
          intro entry _
          simp
        rw [ih fitsAdded later, added, keys, List.filter_cons_of_pos (by simp [known]),
          List.filter_filter, List.filter_congr dropped, List.append_assoc, List.singleton_append]

end Catalog

/-! ## Items and their lines -/

/-- A line of a class, or one outside of any class. -/
inductive Member where
  | declaration (line : DeclarationLine)
  | neutral (line : NeutralLine)

/-- A construct of a header. -/
inductive Item where
  | single (member : Member)
  | classBlock (head : ClassLine) (members : List Member) (closing : Indent)
  | namespaceBlock (head : NamespaceLine) (items : List Item) (closing : Indent)

def Member.line : Member → Text
  | .declaration line => line.text
  | .neutral line => line.text

mutual

def Item.lines : Item → List Text
  | .single member => [member.line]
  | .classBlock head members closing =>
      head.text :: (members.map Member.line ++ [closing.closing [';']])
  | .namespaceBlock head items closing =>
      head.text :: (Item.linesOf items ++ [closing.closing []])

def Item.linesOf : List Item → List Text
  | [] => []
  | item :: rest => item.lines ++ Item.linesOf rest

end

def Item.render (items : List Item) : Text :=
  Text.unlines (Item.linesOf items)

/-! ## What the items declare -/

/-- A name under a qualifier, if there is one. -/
def qualifiedBy : Option Text → Text → Text
  | some qualifier, name => qualified qualifier name
  | none, name => name

/-- What a member declares inside a class and an innermost namespace, if there are such. -/
def Member.declared (innermost inClass : Option Text) : Member → List (Text × Text)
  | .declaration line =>
      let name := qualifiedBy innermost (qualifiedBy inClass line.name.text)
      [(Signature.of name line.params, name)]
  | .neutral _ => []

mutual

/-- What an item declares inside an innermost namespace, if there is one. -/
def Item.declared (innermost : Option Text) : Item → List (Text × Text)
  | .single member => member.declared innermost none
  | .classBlock head members _ =>
      members.flatMap (Member.declared innermost (some head.name.text))
  | .namespaceBlock head items _ => Item.declaredBy (some head.name.text) items

/-- What items declare, in their order. -/
def Item.declaredBy (innermost : Option Text) : List Item → List (Text × Text)
  | [] => []
  | item :: rest => item.declared innermost ++ Item.declaredBy innermost rest

end

/-! ## Reading a rendered header -/

theorem Scope.qualify_eq (scope : Scope) (name : Text) :
    scope.qualify name =
      qualifiedBy scope.namespaces.head? (qualifiedBy scope.inClass name) := by
  obtain ⟨namespaces, inClass⟩ := scope
  cases namespaces <;> cases inClass <;> rfl

namespace Declarations

theorem record_eq_self {line : Text} (declarations : Declarations) (scope : Scope)
    (silent : Grammar.declaration.captures? line = none) :
    declarations.record scope line = declarations := by
  rw [record, silent]

theorem record_declaration (declarations : Declarations) (scope : Scope) (line : DeclarationLine) :
    declarations.record scope line.text =
      declarations.insert (Signature.of (scope.qualify line.name.text) line.params)
        (scope.qualify line.name.text) := by
  rw [record, line.captures?_text]

/-- A member leaves the scope as it is and inserts what it declares. -/
theorem readLines_member (scope : Scope) (declarations : Declarations) (member : Member)
    (rest : List Text) :
    readLines scope declarations (member.line :: rest) =
      readLines scope
        (declarations.insertAll (member.declared scope.namespaces.head? scope.inClass)) rest := by
  cases member with
  | declaration line =>
      rw [readLines, Member.line, scope.advance_declaration, record_declaration, scope.qualify_eq]
      rfl
  | neutral line =>
      have silent := Pattern.captures?_eq_none_of_occursIn line.noDeclaration
      rw [readLines, Member.line, scope.advance_plainLine, record_eq_self _ _ silent]
      rfl

theorem readLines_members (scope : Scope) (declarations : Declarations) (members : List Member)
    (rest : List Text) :
    readLines scope declarations (members.map Member.line ++ rest) =
      readLines scope (declarations.insertAll
        (members.flatMap (Member.declared scope.namespaces.head? scope.inClass))) rest := by
  induction members generalizing declarations with
  | nil => rfl
  | cons member others ih =>
      rw [List.map_cons, List.cons_append, readLines_member, ih, List.flatMap_cons,
        Catalog.insertAll_append]

mutual

/-- Outside of a class, an item leaves the scope as it is and inserts what it declares. -/
theorem readLines_item (namespaces : List Text) (declarations : Declarations) (item : Item)
    (rest : List Text) :
    readLines ⟨namespaces, none⟩ declarations (item.lines ++ rest) =
      readLines ⟨namespaces, none⟩ (declarations.insertAll (item.declared namespaces.head?))
        rest := by
  cases item with
  | single member =>
      rw [Item.lines, List.singleton_append, readLines_member, Item.declared]
  | classBlock head members closing =>
      have noOpening := Grammar.captures?_declaration_eq_none head.parenthesis_notMem
      have noClosing := Grammar.captures?_declaration_eq_none
        (closing.notMem_closing [';'] '(' (by decide) (by decide))
      rw [Item.lines, List.cons_append, List.append_assoc, readLines, Scope.advance_classLine,
        record_eq_self _ _ noOpening, readLines_members, List.singleton_append, readLines,
        Scope.advance_classEnd, record_eq_self _ _ noClosing, Item.declared]
  | namespaceBlock head items closing =>
      have noOpening := Grammar.captures?_declaration_eq_none head.parenthesis_notMem
      have noClosing := Grammar.captures?_declaration_eq_none
        (closing.notMem_closing [] '(' (by decide) (by decide))
      rw [Item.lines, List.cons_append, List.append_assoc, readLines, Scope.advance_namespaceLine,
        record_eq_self _ _ noOpening, readLines_items, List.singleton_append, readLines,
        Scope.advance_namespaceEnd, record_eq_self _ _ noClosing, Item.declared]
      rfl

theorem readLines_items (namespaces : List Text) (declarations : Declarations) (items : List Item)
    (rest : List Text) :
    readLines ⟨namespaces, none⟩ declarations (Item.linesOf items ++ rest) =
      readLines ⟨namespaces, none⟩ (declarations.insertAll (Item.declaredBy namespaces.head? items))
        rest := by
  cases items with
  | nil => rfl
  | cons item others =>
      rw [Item.linesOf, List.append_assoc, readLines_item, readLines_items, Item.declaredBy,
        Catalog.insertAll_append]

end

end Declarations

/-! ## Lines and names of items -/

theorem Member.newline_notMem (member : Member) : '\n' ∉ member.line := by
  cases member with
  | declaration line => exact line.newline_notMem
  | neutral line => exact line.plain

mutual

theorem Item.newline_notMem_of_mem_lines (item : Item) : ∀ line ∈ item.lines, '\n' ∉ line := by
  cases item with
  | single member =>
      intro line inItem
      rw [Item.lines, List.mem_singleton] at inItem
      exact inItem ▸ member.newline_notMem
  | classBlock head members closing =>
      rw [Item.lines, List.forall_mem_cons, List.forall_mem_append, List.forall_mem_singleton]
      refine ⟨head.newline_notMem, ?_, closing.newline_notMem_closing [';'] (by decide)⟩
      intro line inMembers
      obtain ⟨member, _, rfl⟩ := List.mem_map.1 inMembers
      exact member.newline_notMem
  | namespaceBlock head items closing =>
      rw [Item.lines, List.forall_mem_cons, List.forall_mem_append, List.forall_mem_singleton]
      exact ⟨head.newline_notMem, Item.newline_notMem_of_mem_linesOf items,
        closing.newline_notMem_closing [] (by decide)⟩

theorem Item.newline_notMem_of_mem_linesOf (items : List Item) :
    ∀ line ∈ Item.linesOf items, '\n' ∉ line := by
  cases items with
  | nil => exact nofun
  | cons item rest =>
      rw [Item.linesOf, List.forall_mem_append]
      exact ⟨Item.newline_notMem_of_mem_lines item, Item.newline_notMem_of_mem_linesOf rest⟩

end

/-- The name that a signature was made of: all that stands before the first parenthesis. -/
def Signature.name (signature : Text) : Text :=
  signature.takeWhile (· != '(')

theorem Signature.name_of {name : Text} (closed : '(' ∉ name) (params : Text) :
    Signature.name (Signature.of name params) = name := by
  have shape : Signature.of name params = name ++ '(' :: (Params.normalize params ++ [')']) := by
    simp [Signature.of]
  rw [Signature.name, shape]
  apply takeWhile_append_of_head
  · intro character member
    exact bne_iff_ne.2 fun equal => closed (equal ▸ member)
  · simp

theorem parenthesis_notMem_qualifiedBy {qualifier : Option Text} {name : Text}
    (outer : ∀ text ∈ qualifier, '(' ∉ text) (inner : '(' ∉ name) :
    '(' ∉ qualifiedBy qualifier name := by
  cases qualifier with
  | none => exact inner
  | some text => simp [qualifiedBy, qualified, qualifierMark, outer text rfl, inner]

theorem Member.name_of_mem_declared {innermost inClass : Option Text}
    (outer : ∀ text ∈ innermost, '(' ∉ text) (inner : ∀ text ∈ inClass, '(' ∉ text)
    (member : Member) :
    ∀ entry ∈ member.declared innermost inClass, entry.2 = Signature.name entry.1 := by
  cases member with
  | declaration line =>
      rw [Member.declared, List.forall_mem_singleton, Signature.name_of]
      exact parenthesis_notMem_qualifiedBy outer
        (parenthesis_notMem_qualifiedBy inner (line.name.notMem '(' (by decide)))
  | neutral line => exact nofun

mutual

theorem Item.name_of_mem_declared {innermost : Option Text}
    (outer : ∀ text ∈ innermost, '(' ∉ text) (item : Item) :
    ∀ entry ∈ item.declared innermost, entry.2 = Signature.name entry.1 := by
  cases item with
  | single member => exact member.name_of_mem_declared outer (by simp)
  | classBlock head members closing =>
      intro entry inClass
      obtain ⟨member, _, declared⟩ := List.mem_flatMap.1 inClass
      refine member.name_of_mem_declared outer ?_ entry declared
      intro text same
      exact Option.some.inj same ▸ head.name.notMem '(' (by decide)
  | namespaceBlock head items closing =>
      apply Item.name_of_mem_declaredBy
      intro text same
      exact Option.some.inj same ▸ head.name.notMem '(' (by decide)

theorem Item.name_of_mem_declaredBy {innermost : Option Text}
    (outer : ∀ text ∈ innermost, '(' ∉ text) (items : List Item) :
    ∀ entry ∈ Item.declaredBy innermost items, entry.2 = Signature.name entry.1 := by
  cases items with
  | nil => exact nofun
  | cons item rest =>
      rw [Item.declaredBy, List.forall_mem_append]
      exact ⟨Item.name_of_mem_declared outer item, Item.name_of_mem_declaredBy outer rest⟩

end

/-- Reading a rendered header inserts what its items declare, in their order. -/
theorem Declarations.ofHeader_eq_insertAll (items : List Item) :
    Declarations.ofHeader (Item.render items) =
      Catalog.empty.insertAll (Item.declaredBy none items) := by
  have read := Declarations.readLines_items [] Catalog.empty items []
  rw [List.append_nil] at read
  rw [Declarations.ofHeader, Item.render]
  by_cases empty : Item.linesOf items = []
  · -- Without a line the text is empty, which is one empty line.
    rw [empty] at read ⊢
    exact read
  · rw [Text.lines_unlines (Item.newline_notMem_of_mem_linesOf items) empty]
    exact read

/-- The declarations read from a rendered header are those of its items in their order, each under
the innermost namespace and the class around it, without those whose signature came before. -/
theorem entries_ofHeader_render (items : List Item) :
    (Declarations.ofHeader (Item.render items)).entries =
      Entries.firsts (Item.declaredBy none items) := by
  have fits : ∀ entry ∈ (Catalog.empty : Declarations).entries,
      entry.2 = Signature.name entry.1 := nofun
  rw [Declarations.ofHeader_eq_insertAll, Catalog.entries_insertAll Signature.name fits
    (Item.name_of_mem_declaredBy (by simp) items)]
  simp [Catalog.empty, Catalog.keys]

end HeaderOrder
