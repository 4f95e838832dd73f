import PrismaZod.Json.Basic

/-!
# Datamodels

The part of a Prisma schema that validators are made from: models with their
fields and enumerations with their values, both in the order of the schema.
-/

namespace PrismaZod

/-- What the type of a field refers to. -/
inductive FieldKind
  | scalar
  /-- Another model, or a composite type. -/
  | object
  | enumeration
  | unsupported
deriving DecidableEq, Repr, Inhabited

/-- The kind with a name; names that are not known are not supported. -/
def FieldKind.ofName (name : String) : FieldKind :=
  if name = "scalar" then scalar
  else if name = "object" then object
  else if name = "enum" then enumeration
  else unsupported

/-- A field of a model. -/
structure Field where
  name : String
  kind : FieldKind
  /-- The name of a scalar type, an enumeration or a model. -/
  type : String
  isList : Bool
  isRequired : Bool
  hasDefault : Bool
  /-- A literal, or an object that names a generator. -/
  default : Option Json
  relationName : Option String
  documentation : Option String
deriving Repr, Inhabited

namespace Field

/-- A required field that is no list and has no default. -/
def plain (name : String) (kind : FieldKind) (type : String) : Field where
  name := name
  kind := kind
  type := type
  isList := false
  isRequired := true
  hasDefault := false
  default := none
  relationName := none
  documentation := none

def scalar (name type : String) : Field :=
  plain name .scalar type

def enumeration (name type : String) : Field :=
  plain name .enumeration type

/-- The field, not required. -/
def optional (field : Field) : Field :=
  { field with isRequired := false }

def list (field : Field) : Field :=
  { field with isList := true }

/-- The field with a default. -/
def withDefault (field : Field) (value : Json) : Field :=
  { field with hasDefault := true, default := some value }

def withRelation (field : Field) (relation : String) : Field :=
  { field with relationName := some relation }

/-- The name of the relation that the field belongs to; an empty name names
none. -/
def relation? (field : Field) : Option String :=
  field.relationName.filter (· ≠ "")

def isRelation (field : Field) : Bool :=
  field.relation?.isSome

end Field

/-- A value of an enumeration. -/
structure EnumValue where
  name : String
  dbName : Option String
deriving DecidableEq, Repr, Inhabited

structure Enumeration where
  name : String
  values : List EnumValue
  dbName : Option String
  documentation : Option String
deriving DecidableEq, Repr, Inhabited

/-- An enumeration of values that have only names. -/
def Enumeration.ofNames (name : String) (values : List String) : Enumeration :=
  ⟨name, values.map (⟨·, none⟩), none, none⟩

structure Model where
  name : String
  dbName : Option String
  fields : List Field
  documentation : Option String
deriving Repr, Inhabited

/-- Models and enumerations in the order of the schema. -/
structure Datamodel where
  models : List Model
  enumerations : List Enumeration
deriving Repr, Inhabited

namespace Datamodel

/-- The datamodel that declares nothing. -/
def empty : Datamodel := ⟨[], []⟩

/-- The names of the enumerations, sorted, each once. -/
def enumerationNames (datamodel : Datamodel) : List String :=
  (Table.ofList (datamodel.enumerations.map fun enumeration => (enumeration.name, ()))).map
    Prod.fst

def declaresEnumeration (datamodel : Datamodel) (name : String) : Bool :=
  datamodel.enumerationNames.contains name

end Datamodel

end PrismaZod
