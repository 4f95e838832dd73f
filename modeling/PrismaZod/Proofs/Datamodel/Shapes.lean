import PrismaZod.Datamodel.Document

/-!
# The shapes of documents

A datamodel stands alone, under its own key, or under that key in the `dmmf` of
options, and it is read alike in all three places, whatever stands beside it.  A
part that is asked for has to be an object: where it is none nothing else is
tried in its stead.
-/

namespace PrismaZod

/-- A part that the keys of the document ask for is no object. -/
inductive Json.Lacks : Json → DocumentPart → Prop
  | document {value : Json} : value.isObject = false → Lacks value .document
  | dmmf {members : Table Json} {value : Json} : members.find? "dmmf" = some value →
      value.isObject = false → Lacks (object members) .dmmf
  /-- Under `dmmf` a datamodel has to be there. -/
  | datamodelOfOptions {members inner : Table Json} :
      members.find? "dmmf" = some (object inner) →
      (∀ bare, inner.find? "datamodel" ≠ some (object bare)) → Lacks (object members) .datamodel
  | datamodel {members : Table Json} {value : Json} : members.find? "dmmf" = none →
      members.find? "datamodel" = some value → value.isObject = false →
        Lacks (object members) .datamodel

theorem Json.isObject_eq_false_or (value : Json) :
    value.isObject = false ∨ ∃ members : Table Json, value = object members := by
  cases value with
  | object members => exact .inr ⟨members, rfl⟩
  | _ => exact .inl rfl

namespace Datamodel

variable {members inner bare : Table Json} {document : Json} {part : DocumentPart}

theorem ofDocument_bare (noDmmf : bare.find? "dmmf" = none)
    (noDatamodel : bare.find? "datamodel" = none) :
    ofDocument (.object bare) = (decode (.object bare)).mapError .invalid := by
  rw [ofDocument, select, noDmmf, noDatamodel]
  rfl

theorem ofDocument_wrapped (noDmmf : members.find? "dmmf" = none)
    (datamodel : members.find? "datamodel" = some (.object bare)) :
    ofDocument (.object members) = (decode (.object bare)).mapError .invalid := by
  rw [ofDocument, select, noDmmf, datamodel]
  rfl

theorem ofDocument_options (dmmf : members.find? "dmmf" = some (.object inner))
    (datamodel : inner.find? "datamodel" = some (.object bare)) :
    ofDocument (.object members) = (decode (.object bare)).mapError .invalid := by
  rw [ofDocument, select, dmmf]
  dsimp only
  rw [datamodel]
  rfl

theorem ofDocument_of_lacks (lacks : document.Lacks part) :
    ofDocument document = .error (.notAnObject part) := by
  cases lacks with
  | document notObject =>
      cases document with
      | object members => cases notObject
      | _ => rfl
  | @dmmf members value found notObject =>
      rw [ofDocument, select, found]
      cases value with
      | object inner => cases notObject
      | _ => rfl
  | @datamodelOfOptions members inner found missing =>
      rw [ofDocument, select, found]
      dsimp only
      cases held : Table.find? "datamodel" inner with
      | none => rfl
      | some value =>
          cases value with
          | object bare => exact absurd held (missing bare)
          | _ => rfl
  | @datamodel members value noDmmf found notObject =>
      rw [ofDocument, select, noDmmf, found]
      cases value with
      | object bare => cases notObject
      | _ => rfl

/-- Either a part is missing, or a datamodel is read in one of the three places. -/
theorem lacks_or_ofDocument_eq (document : Json) :
    (∃ part, document.Lacks part) ∨
      ∃ bare : Table Json, ofDocument document = (decode (.object bare)).mapError .invalid := by
  rcases document.isObject_eq_false_or with notObject | ⟨members, rfl⟩
  · exact .inl ⟨_, .document notObject⟩
  cases dmmf : members.find? "dmmf" with
  | none =>
      cases datamodel : members.find? "datamodel" with
      | none => exact .inr ⟨members, ofDocument_bare dmmf datamodel⟩
      | some value =>
          rcases value.isObject_eq_false_or with notObject | ⟨bare, rfl⟩
          · exact .inl ⟨_, .datamodel dmmf datamodel notObject⟩
          · exact .inr ⟨bare, ofDocument_wrapped dmmf datamodel⟩
  | some value =>
      rcases value.isObject_eq_false_or with notObject | ⟨inner, rfl⟩
      · exact .inl ⟨_, .dmmf dmmf notObject⟩
      by_cases given : ∃ bare, inner.find? "datamodel" = some (.object bare)
      · obtain ⟨bare, datamodel⟩ := given
        exact .inr ⟨bare, ofDocument_options dmmf datamodel⟩
      · exact .inl ⟨_, .datamodelOfOptions dmmf fun bare found => given ⟨bare, found⟩⟩

theorem ofDocument_eq_notAnObject_iff (document : Json) (part : DocumentPart) :
    ofDocument document = .error (.notAnObject part) ↔ document.Lacks part := by
  refine ⟨fun failed => ?_, ofDocument_of_lacks⟩
  rcases lacks_or_ofDocument_eq document with ⟨missing, lacks⟩ | ⟨bare, read⟩
  · rw [ofDocument_of_lacks lacks] at failed
    cases failed
    exact lacks
  · -- What is wrong inside a datamodel is never that a part is no object.
    rw [read] at failed
    cases decoded : decode (.object bare) <;> rw [decoded] at failed <;> cases failed

/-- A datamodel is the same, or at the same fault, in all three places where
documents hold it, and a document is at fault for a part that is no object just
when its keys ask for that part. -/
theorem ofDocument_shapes :
    (∀ bare members options inner : Table Json,
      bare.find? "dmmf" = none → bare.find? "datamodel" = none →
      members.find? "dmmf" = none → members.find? "datamodel" = some (.object bare) →
      options.find? "dmmf" = some (.object inner) →
      inner.find? "datamodel" = some (.object bare) →
        ofDocument (.object members) = ofDocument (.object bare) ∧
        ofDocument (.object options) = ofDocument (.object bare)) ∧
    ∀ (document : Json) (part : DocumentPart),
      ofDocument document = .error (.notAnObject part) ↔ document.Lacks part := by
  refine ⟨?_, ofDocument_eq_notAnObject_iff⟩
  intro bare members options inner noDmmf noDatamodel noWrapper wrapped dmmf underDmmf
  rw [ofDocument_bare noDmmf noDatamodel]
  exact ⟨ofDocument_wrapped noWrapper wrapped, ofDocument_options dmmf underDmmf⟩

/-- An enumeration without a name, in all three places and beside other keys that
would be read elsewhere.  A `dmmf` that is a list is not passed over for a
datamodel, and neither is a datamodel that would be read if it stood in a record. -/
theorem ofDocument_shapes_nameless :
    let bare : Table Json := [("enums", .array [.object []])]
    let members : Table Json := [("datamodel", .object bare), ("enums", .array [])]
    let inner : Table Json := [("datamodel", .object bare), ("models", .null)]
    let options : Table Json := [("datamodel", .object []), ("dmmf", .object inner)]
    let unwrapped : Json := .object [("datamodel", .object []), ("dmmf", .array [])]
    let listed : Json := .object [("datamodel", .array [.array [], .array []])]
    (ofDocument (.object bare) = .error (.invalid (.missingField "name")) ∧
      ofDocument (.object members) = ofDocument (.object bare) ∧
      ofDocument (.object options) = ofDocument (.object bare)) ∧
    ofDocument unwrapped = .error (.notAnObject .dmmf) ∧
    decode (.array [.array [], .array []]) = .ok .empty ∧
    ofDocument listed = .error (.notAnObject .datamodel) := by
  intro bare members inner options unwrapped listed
  obtain ⟨alike, lacking⟩ := ofDocument_shapes
  exact ⟨⟨rfl, alike bare members options inner rfl rfl rfl rfl rfl rfl⟩,
    (lacking unwrapped .dmmf).mpr (.dmmf rfl rfl), rfl,
    (lacking listed .datamodel).mpr (.datamodel rfl rfl rfl)⟩

end Datamodel

end PrismaZod
