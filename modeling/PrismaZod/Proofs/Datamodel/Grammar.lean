import PrismaZod.Proofs.Datamodel.Shapes
import PrismaZod.Proofs.Json.Grammar

/-!
# The grammar of datamodels

The values that are fields, models, enumerations and their values, and what each
of them declares.  A datamodel is read from just the objects that give lists of
models and of enumerations, and it is the one that they declare.
-/

namespace PrismaZod

open Json

namespace FieldKind

/-- A name, or an object that has a name as its only key and null under it. -/
def IsKind (json : Json) : Prop :=
  (∃ name, json = string name) ∨ ∃ name, json = .object [(name, null)]

def ofJson : Json → FieldKind
  | string name => ofName name
  | .object [(name, _)] => ofName name
  | _ => unsupported

theorem reads : Reads decode IsKind ofJson := by
  intro limit json _ kind
  fun_cases decode json with
  | case1 name => simp [IsKind, ofJson, eq_comm]
  | case2 name => simp [IsKind, ofJson, eq_comm]
  | case3 name other notNull =>
      refine iff_of_false (by simp) ?_
      rintro ⟨⟨_, isText⟩ | ⟨_, isObject⟩, -⟩
      · cases isText
      · cases isObject
        exact notNull rfl
  | case4 members several =>
      refine iff_of_false (by simp) ?_
      rintro ⟨⟨_, isText⟩ | ⟨name, isObject⟩, -⟩
      · cases isText
      · cases isObject
        exact several name null rfl
  | case5 other notText notSingle notObject =>
      refine iff_of_false (by simp) ?_
      rintro ⟨⟨name, isText⟩ | ⟨name, isObject⟩, -⟩
      · exact notText name isText
      · exact notObject _ isObject

end FieldKind

theorem reads_asValue : Reads asValue (fun _ => True) (optionOf id) := by
  intro limit json _ value
  cases json <;> simp [asValue, optionOf, eq_comm]

namespace Field

def slots : List Slot := [
  ⟨"name", true, IsText⟩,
  ⟨"kind", true, FieldKind.IsKind⟩,
  ⟨"type", true, IsText⟩,
  ⟨"isList", false, IsFlag⟩,
  ⟨"isRequired", false, IsFlag⟩,
  ⟨"hasDefaultValue", false, IsFlag⟩,
  ⟨"default", false, fun _ => True⟩,
  ⟨"relationName", false, IsNullOr IsText⟩,
  ⟨"documentation", false, IsNullOr IsText⟩]

/-- The field that members declare; what is not among them is as if it were not set. -/
def ofTable (members : Table Json) : Field where
  name := (members.find? "name").elim "" textOf
  kind := (members.find? "kind").elim .unsupported FieldKind.ofJson
  type := (members.find? "type").elim "" textOf
  isList := (members.find? "isList").elim false flagOf
  isRequired := (members.find? "isRequired").elim false flagOf
  hasDefault := (members.find? "hasDefaultValue").elim false flagOf
  default := (members.find? "default").elim none (optionOf id)
  relationName := (members.find? "relationName").elim none (optionOf textOf)
  documentation := (members.find? "documentation").elim none (optionOf textOf)

theorem fits : recordType.Fits slots ofTable where
  blank := rfl
  known := by
    intro first second same
    simp only [slots, List.forall_mem_cons] at same
    simp [ofTable, same]
  members := by
    refine .cons (Member.fits reads_asString ?_) <| .cons (Member.fits FieldKind.reads ?_) <|
      .cons (Member.fits reads_asString ?_) <| .cons (Member.fits reads_asBoolean ?_) <|
      .cons (Member.fits reads_asBoolean ?_) <| .cons (Member.fits reads_asBoolean ?_) <|
      .cons (Member.fits reads_asValue ?_) <|
      .cons (Member.fits (reads_asOption reads_asString) ?_) <|
      .cons (Member.fits (reads_asOption reads_asString) ?_) .nil <;>
    simp [ofTable, Table.find?_insert]
  distinct := by decide

def ofJson (json : Json) : Field :=
  ofTable (json.membersFor (slots.map Slot.key))

theorem reads : Reads decode (IsRecord slots) ofJson :=
  fits.reads

end Field

namespace EnumValue

def slots : List Slot := [⟨"name", true, IsText⟩, ⟨"dbName", false, IsNullOr IsText⟩]

def ofTable (members : Table Json) : EnumValue where
  name := (members.find? "name").elim "" textOf
  dbName := (members.find? "dbName").elim none (optionOf textOf)

theorem fits : recordType.Fits slots ofTable where
  blank := rfl
  known := by
    intro first second same
    simp only [slots, List.forall_mem_cons] at same
    simp [ofTable, same]
  members := by
    refine .cons (Member.fits reads_asString ?_) <|
      .cons (Member.fits (reads_asOption reads_asString) ?_) .nil <;>
    simp [ofTable, Table.find?_insert]
  distinct := by decide

def ofJson (json : Json) : EnumValue :=
  ofTable (json.membersFor (slots.map Slot.key))

theorem reads : Reads decode (IsRecord slots) ofJson :=
  fits.reads

end EnumValue

namespace Enumeration

def slots : List Slot := [
  ⟨"name", true, IsText⟩,
  ⟨"values", false, IsListOf (IsRecord EnumValue.slots)⟩,
  ⟨"dbName", false, IsNullOr IsText⟩,
  ⟨"documentation", false, IsNullOr IsText⟩]

def ofTable (members : Table Json) : Enumeration where
  name := (members.find? "name").elim "" textOf
  values := (members.find? "values").elim [] (listOf EnumValue.ofJson)
  dbName := (members.find? "dbName").elim none (optionOf textOf)
  documentation := (members.find? "documentation").elim none (optionOf textOf)

theorem fits : recordType.Fits slots ofTable where
  blank := rfl
  known := by
    intro first second same
    simp only [slots, List.forall_mem_cons] at same
    simp [ofTable, same]
  members := by
    refine .cons (Member.fits reads_asString ?_) <|
      .cons (Member.fits (reads_asList EnumValue.reads) ?_) <|
      .cons (Member.fits (reads_asOption reads_asString) ?_) <|
      .cons (Member.fits (reads_asOption reads_asString) ?_) .nil <;>
    simp [ofTable, Table.find?_insert]
  distinct := by decide

def ofJson (json : Json) : Enumeration :=
  ofTable (json.membersFor (slots.map Slot.key))

theorem reads : Reads decode (IsRecord slots) ofJson :=
  fits.reads

end Enumeration

namespace Model

def slots : List Slot := [
  ⟨"name", true, IsText⟩,
  ⟨"dbName", false, IsNullOr IsText⟩,
  ⟨"fields", false, IsListOf (IsRecord Field.slots)⟩,
  ⟨"documentation", false, IsNullOr IsText⟩]

def ofTable (members : Table Json) : Model where
  name := (members.find? "name").elim "" textOf
  dbName := (members.find? "dbName").elim none (optionOf textOf)
  fields := (members.find? "fields").elim [] (listOf Field.ofJson)
  documentation := (members.find? "documentation").elim none (optionOf textOf)

theorem fits : recordType.Fits slots ofTable where
  blank := rfl
  known := by
    intro first second same
    simp only [slots, List.forall_mem_cons] at same
    simp [ofTable, same]
  members := by
    refine .cons (Member.fits reads_asString ?_) <|
      .cons (Member.fits (reads_asOption reads_asString) ?_) <|
      .cons (Member.fits (reads_asList Field.reads) ?_) <|
      .cons (Member.fits (reads_asOption reads_asString) ?_) .nil <;>
    simp [ofTable, Table.find?_insert]
  distinct := by decide

def ofJson (json : Json) : Model :=
  ofTable (json.membersFor (slots.map Slot.key))

theorem reads : Reads decode (IsRecord slots) ofJson :=
  fits.reads

end Model

namespace Datamodel

def slots : List Slot := [
  ⟨"models", false, IsListOf (IsRecord Model.slots)⟩,
  ⟨"enums", false, IsListOf (IsRecord Enumeration.slots)⟩]

def ofTable (members : Table Json) : Datamodel where
  models := (members.find? "models").elim [] (listOf Model.ofJson)
  enumerations := (members.find? "enums").elim [] (listOf Enumeration.ofJson)

theorem fits : recordType.Fits slots ofTable where
  blank := rfl
  known := by
    intro first second same
    simp only [slots, List.forall_mem_cons] at same
    simp [ofTable, same]
  members := by
    refine .cons (Member.fits (reads_asList Model.reads) ?_) <|
      .cons (Member.fits (reads_asList Enumeration.reads) ?_) .nil <;>
    simp [ofTable, Table.find?_insert]
  distinct := by decide

theorem ofDocument_eq_ok_iff {members : Table Json} (noDmmf : members.find? "dmmf" = none)
    (noDatamodel : members.find? "datamodel" = none) (datamodel : Datamodel) :
    ofDocument (.object members) = .ok datamodel ↔ decode (.object members) = .ok datamodel := by
  rw [ofDocument_bare noDmmf noDatamodel]
  cases decode (.object members) <;> simp [Except.mapError]

/-- A datamodel is read from an object just when this gives lists of models and of
enumerations, where it gives any; it is the one that they declare; and it does not
matter whether they and what is in them are written as objects or as arrays. -/
theorem ofDocument_grammar :
    (∀ (limit : Nat) (members : Table Json), (Json.object members).Within limit →
      members.find? "dmmf" = none → members.find? "datamodel" = none →
        ((∃ datamodel, ofDocument (.object members) = .ok datamodel) ↔
          (∀ value, members.find? "models" = some value →
            IsListOf (IsRecord Model.slots) value) ∧
          ∀ value, members.find? "enums" = some value →
            IsListOf (IsRecord Enumeration.slots) value) ∧
        ∀ datamodel, ofDocument (.object members) = .ok datamodel →
          datamodel = ofTable members) ∧
      ∀ (limit : Nat) (items : List Json), (∀ item ∈ items, item.Within limit) →
        AlikeInBothForms Field.decode (Field.slots.map Slot.key) items ∧
        AlikeInBothForms Model.decode (Model.slots.map Slot.key) items ∧
        AlikeInBothForms Enumeration.decode (Enumeration.slots.map Slot.key) items ∧
        AlikeInBothForms EnumValue.decode (EnumValue.slots.map Slot.key) items := by
  refine ⟨?_, fun limit items within => ⟨Field.fits.alikeInBothForms within,
    Model.fits.alikeInBothForms within, Enumeration.fits.alikeInBothForms within,
    EnumValue.fits.alikeInBothForms within⟩⟩
  intro limit members within noDmmf noDatamodel
  have reads (datamodel : Datamodel) : ofDocument (.object members) = .ok datamodel ↔
      Supplies members slots ∧ datamodel = ofTable members :=
    (ofDocument_eq_ok_iff noDmmf noDatamodel datamodel).trans (fits.reads within datamodel)
  have supplied : Supplies members slots ↔
      (∀ value, members.find? "models" = some value → IsListOf (IsRecord Model.slots) value) ∧
        ∀ value, members.find? "enums" = some value →
          IsListOf (IsRecord Enumeration.slots) value := by
    simp [Supplies, slots]
  refine ⟨?_, fun datamodel read => ((reads datamodel).mp read).2⟩
  simp [reads, supplied]

/-- A model and an enumeration in which objects and arrays are mixed. -/
theorem ofDocument_grammar_mixed :
    let items := [string "id", .object [("scalar", null)], string "Int", boolean true]
    let members := [
      ("enums", array [array [string "Role", array [
        array [string "ADMIN"], .object [("dbName", null), ("name", string "USER")]]]]),
      ("models", array [.object [
        ("fields", array [array items, .object [("default", null), ("kind", string "enum"),
          ("name", string "role"), ("type", string "Role")]]),
        ("name", string "User")]])]
    ((Json.object members).Within 7 ∧ Table.find? "dmmf" members = none ∧
        Table.find? "datamodel" members = none ∧
        ofDocument (.object members) = .ok {
          models := [⟨"User", none, [(Field.scalar "id" "Int").list.optional,
            (Field.enumeration "role" "Role").optional], none⟩]
          enumerations := [.ofNames "Role" ["ADMIN", "USER"]] }) ∧
      (∀ item ∈ items, item.Within 1) ∧
      AlikeInBothForms Field.decode (Field.slots.map Slot.key) items ∧
      AlikeInBothForms Model.decode (Model.slots.map Slot.key) items ∧
      AlikeInBothForms Enumeration.decode (Enumeration.slots.map Slot.key) items ∧
      AlikeInBothForms EnumValue.decode (EnumValue.slots.map Slot.key) items := by
  intro items members
  have within : (Json.object members).Within 7 := by
    simp [members, items, Within, Table.Sorted, -String.lt_iff_ltb]
  have withinItems : ∀ item ∈ items, item.Within 1 := by
    simp [items, Within, Table.Sorted]
  obtain ⟨accepted, read⟩ := ofDocument_grammar.1 7 members within rfl rfl
  have declares : ∃ datamodel, ofDocument (.object members) = .ok datamodel := by
    refine accepted.mpr ⟨?_, ?_⟩
    · rintro _ ⟨⟩
      simp [items, IsListOf, IsRecord, Supplies, Model.slots, Field.slots, Table.find?_cons,
        IsText, IsFlag, IsNullOr, FieldKind.IsKind]
    · rintro _ ⟨⟩
      simp [IsListOf, IsRecord, Supplies, Enumeration.slots, EnumValue.slots,
        Table.find?_cons, IsText, IsNullOr]
  obtain ⟨datamodel, isRead⟩ := declares
  refine ⟨⟨within, rfl, rfl, ?_⟩, withinItems, ofDocument_grammar.2 1 items withinItems⟩
  rw [isRead, read datamodel isRead]
  rfl

end Datamodel

end PrismaZod
