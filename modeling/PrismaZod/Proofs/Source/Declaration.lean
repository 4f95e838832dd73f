import PrismaZod.Proofs.Source.Validator
import PrismaZod.Schema.Declaration

/-!
# Reading declarations back

The source of a declaration whose names are words, and whose values hold no
quote, determines the declaration, also within a longer text.  So does a text of
several declarations with blank lines around them.
-/

namespace PrismaZod

open Text

/-- The source of the property shows where each of its parts ends. -/
def Property.Legible (property : Property) : Prop :=
  IsWord property.name ∧ property.validator.Legible

/-- The source of the body shows where each of its parts ends. -/
def Body.Legible : Body → Prop
  | enumeration values => ∀ value ∈ values, Free '\'' value
  | object properties => ∀ property ∈ properties, property.Legible

/-- The source of the declaration shows where each of its parts ends. -/
def Declaration.Legible (declaration : Declaration) : Prop :=
  IsWord declaration.name ∧ declaration.body.Legible

theorem Property.source_unique {first second : Property} {rest other : List Char}
    (firstLegible : first.Legible) (secondLegible : second.Legible)
    (equal : first.source.toList ++ rest = second.source.toList ++ other) :
    first = second ∧ rest = other := by
  have spelled :
      first.name.toList ++ ':' :: ' ' :: (first.validator.source.toList ++ ',' :: '\n' :: rest) =
        second.name.toList ++
          ':' :: ' ' :: (second.validator.source.toList ++ ',' :: '\n' :: other) := by
    simpa [source] using equal
  have names := free_unique (firstLegible.1.free ':' (by decide))
    (secondLegible.1.free ':' (by decide)) spelled
  have validators := first.validator.readsBack second.validator _ _ firstLegible.2
    secondLegible.2 (by trivial) (by trivial) (List.cons.inj names.2).2
  have same : first = second := by
    cases first
    cases second
    simp only [Property.mk.injEq]
    exact ⟨names.1, validators.1⟩
  exact ⟨same, by simpa using validators.2⟩

private theorem properties_unique {first second : List Property} {rest other : List Char}
    (firstLegible : ∀ property ∈ first, property.Legible)
    (secondLegible : ∀ property ∈ second, property.Legible)
    (equal : first.flatMap (·.source.toList) ++ '}' :: rest =
      second.flatMap (·.source.toList) ++ '}' :: other) :
    first = second ∧ rest = other := by
  induction first generalizing second with
  | nil =>
      cases second with
      | nil => simpa using equal
      | cons head tail => simp [Property.source] at equal
  | cons head tail ih =>
      cases second with
      | nil => simp [Property.source] at equal
      | cons otherHead otherTail =>
          rw [List.forall_mem_cons] at firstLegible secondLegible
          simp only [List.flatMap_cons, List.append_assoc] at equal
          obtain ⟨rfl, tails⟩ :=
            Property.source_unique firstLegible.1 secondLegible.1 equal
          obtain ⟨rfl, rests⟩ := ih firstLegible.2 secondLegible.2 tails
          exact ⟨rfl, rests⟩

/-- A value between its quotes. -/
private def quote (value : String) : String :=
  "'" ++ value ++ "'"

private theorem quote_unique {first second : String} {rest other : List Char}
    (firstFree : Free '\'' first) (secondFree : Free '\'' second)
    (equal : (quote first).toList ++ rest = (quote second).toList ++ other) :
    first = second ∧ rest = other :=
  free_unique firstFree secondFree (by simpa [quote] using equal)

private theorem furtherValues_unique {first second : List String} {rest other : List Char}
    (firstFree : ∀ value ∈ first, Free '\'' value)
    (secondFree : ∀ value ∈ second, Free '\'' value)
    (equal : first.flatMap (fun value => (", " ++ quote value).toList) ++ ']' :: rest =
      second.flatMap (fun value => (", " ++ quote value).toList) ++ ']' :: other) :
    first = second ∧ rest = other := by
  induction first generalizing second with
  | nil =>
      cases second with
      | nil => simpa using equal
      | cons head tail => simp at equal
  | cons head tail ih =>
      cases second with
      | nil => simp at equal
      | cons otherHead otherTail =>
          rw [List.forall_mem_cons] at firstFree secondFree
          have spelled :
              (quote head).toList ++
                  (tail.flatMap (fun value => (", " ++ quote value).toList) ++ ']' :: rest) =
                (quote otherHead).toList ++
                  (otherTail.flatMap (fun value => (", " ++ quote value).toList) ++
                    ']' :: other) := by
            simpa using equal
          obtain ⟨rfl, tails⟩ := quote_unique firstFree.1 secondFree.1 spelled
          obtain ⟨rfl, rests⟩ := ih firstFree.2 secondFree.2 tails
          exact ⟨rfl, rests⟩

/-- The text of values is the first one, followed by the others. -/
private theorem values_toList (value : String) (values : List String) :
    (", ".intercalate ((value :: values).map quote)).toList =
      (quote value).toList ++ values.flatMap fun value => (", " ++ quote value).toList := by
  rw [List.map_cons, intercalate_cons]
  simp [List.flatMap_map]

private theorem values_unique {first second : List String} {rest other : List Char}
    (firstFree : ∀ value ∈ first, Free '\'' value)
    (secondFree : ∀ value ∈ second, Free '\'' value)
    (equal : (", ".intercalate (first.map quote)).toList ++ ']' :: rest =
      (", ".intercalate (second.map quote)).toList ++ ']' :: other) :
    first = second ∧ rest = other := by
  cases first with
  | nil =>
      cases second with
      | nil => simpa using equal
      | cons head tail =>
          rw [values_toList] at equal
          simp [quote] at equal
  | cons head tail =>
      rw [values_toList, List.append_assoc] at equal
      cases second with
      | nil => simp [quote] at equal
      | cons otherHead otherTail =>
          rw [values_toList, List.append_assoc] at equal
          rw [List.forall_mem_cons] at firstFree secondFree
          obtain ⟨rfl, tails⟩ := quote_unique firstFree.1 secondFree.1 equal
          obtain ⟨rfl, rests⟩ := furtherValues_unique firstFree.2 secondFree.2 tails
          exact ⟨rfl, rests⟩

private theorem enumeration_source (values : List String) :
    (Body.enumeration values).source =
      "z.enum([" ++ ", ".intercalate (values.map quote) ++ "])" :=
  rfl

theorem Body.source_unique {first second : Body} {rest other : List Char}
    (firstLegible : first.Legible) (secondLegible : second.Legible)
    (equal : first.source.toList ++ rest = second.source.toList ++ other) :
    first = second ∧ rest = other := by
  cases first with
  | enumeration values =>
      cases second with
      | enumeration otherValues =>
          have spelled :
              (", ".intercalate (values.map quote)).toList ++ ']' :: ')' :: rest =
                (", ".intercalate (otherValues.map quote)).toList ++ ']' :: ')' :: other := by
            simpa [enumeration_source] using equal
          have parts := values_unique firstLegible secondLegible spelled
          exact ⟨congrArg _ parts.1, (List.cons.inj parts.2).2⟩
      | object properties => simp [source] at equal
  | object properties =>
      cases second with
      | enumeration values => simp [source] at equal
      | object otherProperties =>
          have spelled :
              properties.flatMap (·.source.toList) ++ '}' :: ')' :: rest =
                otherProperties.flatMap (·.source.toList) ++ '}' :: ')' :: other := by
            simpa [source, List.flatMap_map] using equal
          have parts := properties_unique firstLegible secondLegible spelled
          exact ⟨congrArg _ parts.1, (List.cons.inj parts.2).2⟩

namespace Declaration

/-- What follows the body of a declaration with a name. -/
def closing (name : String) : String :=
  ";\n" ++ "export type " ++ name ++ " = z.infer<typeof " ++ schemaName name ++ ">;"

/-- A declaration is its opening with the name, its body and its closing. -/
theorem source_eq (declaration : Declaration) :
    declaration.source = "export const " ++ (schemaName declaration.name ++ (" = " ++
      (declaration.body.source ++ closing declaration.name))) := by
  unfold source ident closing
  simp only [String.append_assoc]

theorem source_unique {first second : Declaration} {rest other : List Char}
    (firstLegible : first.Legible) (secondLegible : second.Legible)
    (equal : first.source.toList ++ rest = second.source.toList ++ other) :
    first = second ∧ rest = other := by
  have identFree {word : String} (isWord : IsWord word) : Free ' ' (schemaName word) := by
    have free := isWord.free ' ' (by decide)
    simpa [Free, schemaName] using free
  simp only [source_eq, String.toList_append, List.append_assoc] at equal
  have idents := free_unique (identFree firstLegible.1) (identFree secondLegible.1)
    (List.append_cancel_left equal)
  have names : first.name = second.name := by
    simpa [schemaName, String.toList_inj] using congrArg String.toList idents.1
  have bodyTexts :
      first.body.source.toList ++ ((closing first.name).toList ++ rest) =
        second.body.source.toList ++ ((closing second.name).toList ++ other) := by
    simpa using idents.2
  have bodies := Body.source_unique firstLegible.2 secondLegible.2 bodyTexts
  have same : first = second := by
    cases first
    cases second
    exact (Declaration.mk.injEq ..).mpr ⟨names, bodies.1⟩
  exact ⟨same, List.append_cancel_left (same ▸ bodies.2)⟩

/-- Different declarations whose names are words have different sources. -/
theorem source_injective {first second : Declaration} (firstLegible : first.Legible)
    (secondLegible : second.Legible) (equal : first.source = second.source) :
    first = second := by
  have alone : first.source.toList ++ [] = second.source.toList ++ [] := by rw [equal]
  exact (source_unique firstLegible secondLegible alone).1

/-- A declaration between line breaks. -/
def block (declaration : Declaration) : String :=
  "\n" ++ declaration.source ++ "\n"

/-- A text of blocks is read in one way. -/
theorem blocks_injective {first second : List Declaration}
    (firstLegible : ∀ declaration ∈ first, declaration.Legible)
    (secondLegible : ∀ declaration ∈ second, declaration.Legible)
    (equal : String.join (first.map block) = String.join (second.map block)) :
    first = second := by
  induction first generalizing second with
  | nil =>
      cases second with
      | nil => rfl
      | cons head tail =>
          have chars := congrArg String.toList equal
          simp [block] at chars
  | cons head tail ih =>
      have chars := congrArg String.toList equal
      cases second with
      | nil => simp [block] at chars
      | cons otherHead otherTail =>
          rw [List.forall_mem_cons] at firstLegible secondLegible
          have spelled :
              head.source.toList ++ '\n' :: (String.join (tail.map block)).toList =
                otherHead.source.toList ++
                  '\n' :: (String.join (otherTail.map block)).toList := by
            simpa [block] using chars
          obtain ⟨rfl, tails⟩ := source_unique firstLegible.1 secondLegible.1 spelled
          have tailTexts := String.toList_injective (List.cons.inj tails).2
          rw [ih firstLegible.2 secondLegible.2 tailTexts]

end Declaration

end PrismaZod
