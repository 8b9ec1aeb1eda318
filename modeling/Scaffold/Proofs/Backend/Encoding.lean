import Scaffold.Backend.Encoding
import Scaffold.Backend.Shape
import Scaffold.Proofs.Shape.Restoring
import Scaffold.Proofs.Text.Blank

/-!
A backend is read again from what it is written as. The spellings that stand for one type or one
constraint all become its plain name, and the plain name stands for it too.
-/
namespace Scaffold
open Text

theorem ColumnType.unknownKeepsName {raw kept : String} (unread : ofName raw = unknown kept) :
    kept = raw := by
  unfold ofName at unread
  split at unread <;> cases unread
  rfl

theorem ColumnType.nameAgain (raw : String) : ofName (ofName raw).name = ofName raw := by
  cases read : ofName raw with
  | unknown kept =>
    rw [← unknownKeepsName read] at read
    exact read
  | _ => rfl

theorem Constraint.otherKeepsTrimmed {raw kept : String} (unread : ofName raw = other kept) :
    kept = trim raw := by
  unfold ofName at unread
  extract_lets trimmed at unread
  split at unread <;> first | exact (other.inj unread).symm | cases unread

theorem Constraint.trimmedAgain (raw : String) : ofName (trim raw) = ofName raw := by
  unfold ofName
  rw [trimAgain]

theorem Constraint.nameAgain (raw : String) : ofName (ofName raw).name = ofName raw := by
  cases read : ofName raw with
  | other kept =>
    calc ofName kept
      _ = ofName (trim raw) := by rw [otherKeepsTrimmed read]
      _ = ofName raw := trimmedAgain raw
      _ = other kept := read
  | _ => rfl

theorem RelationKind.named (kind : RelationKind) :
    [("many_to_one", manyToOne), ("one_to_many", oneToMany), ("many_to_many", manyToMany)].lookup
      kind.name = some kind := by
  cases kind <;> rfl

theorem Method.named (method : Method) :
    [("GET", get), ("POST", post), ("PUT", put), ("DELETE", delete)].lookup method.name =
      some method := by
  cases method <;> rfl

theorem Billing.named (billing : Billing) :
    [("one_time", oneTime), ("subscription", subscription)].lookup billing.name = some billing := by
  cases billing <;> rfl

namespace Shape
open Fields (Written)

variable {α ρ σ : Type}

theorem writtenRequired {name : String} {shape : Shape α} {rest : Fields ρ σ} {write : α → Json}
    {members : ρ → List (String × Json)} (restores : shape.Restores write)
    (apart : name ∉ rest.names) (others : rest.Written members) :
    Written (required name shape rest) fun (value, values) =>
      (name, write value) :: members values :=
  .field restores nofun (fun _ later => ⟨fun same => apart (same ▸ later), nofun⟩) others

theorem writtenDefaulted {name : String} {fallback : α} {shape : Shape α} {rest : Fields ρ σ}
    {write : α → Json} {members : ρ → List (String × Json)} (restores : shape.Restores write)
    (standard : shape.Readable fallback) (apart : name ∉ rest.names)
    (others : rest.Written members) :
    Written (defaulted name fallback shape rest) fun (value, values) =>
      (name, write value) :: members values :=
  .field restores (fun _ same => Option.some.inj same ▸ standard)
    (fun _ later => ⟨fun same => apart (same ▸ later), nofun⟩) others

theorem emptyReadable (item : Shape α) : (list item).Readable [] :=
  ⟨.array [], rfl⟩

theorem constraintsRestore :
    (list constraint).Restores fun constraints => texts (constraints.map Constraint.name) := by
  intro constraints readable
  simp only [texts, List.map_map]
  exact listRestores (namedRestores Constraint.nameAgain) constraints readable

theorem columnRestores : column.Restores Column.toJson :=
  recordRestores
    (writtenRequired textRestores (by decide) <|
      writtenRequired (namedRestores ColumnType.nameAgain) (by decide) <|
      writtenDefaulted constraintsRestore (emptyReadable _) (by decide) .none)
    fun _ => rfl

theorem relationRestores : relation.Restores Relation.toJson :=
  recordRestores
    (.field textRestores nofun (by decide) <|
      .field (choiceRestores RelationKind.named) nofun (by decide) .none)
    fun _ => rfl

theorem tableRestores : table.Restores Table.toJson :=
  recordRestores
    (writtenRequired textRestores (by decide) <|
      writtenDefaulted (listRestores columnRestores) (emptyReadable _) (by decide) <|
      writtenDefaulted (listRestores relationRestores) (emptyReadable _) (by decide) .none)
    fun _ => rfl

theorem endpointRestores : endpoint.Restores Endpoint.toJson :=
  recordRestores
    (writtenRequired textRestores (by decide) <|
      writtenRequired (choiceRestores Method.named) (by decide) <|
      writtenDefaulted textRestores ⟨.string "", rfl⟩ (by decide) <|
      writtenDefaulted flagRestores ⟨.bool false, rfl⟩ (by decide) <|
      writtenDefaulted membersRestores ⟨.null, rfl⟩ (by decide) <|
      writtenDefaulted anythingRestores ⟨.null, rfl⟩ (by decide) .none)
    fun _ => rfl

theorem providerRestores : provider.Restores Provider.toJson :=
  recordRestores
    (writtenRequired textRestores (by decide) <|
      writtenDefaulted textRestores ⟨.string "", rfl⟩ (by decide) <|
      writtenDefaulted anythingRestores ⟨.null, rfl⟩ (by decide) .none)
    fun _ => rfl

theorem productRestores : product.Restores Product.toJson :=
  recordRestores
    (writtenRequired textRestores (by decide) <|
      writtenRequired (choiceRestores Billing.named) (by decide) <|
      writtenDefaulted textRestores ⟨.string "", rfl⟩ (by decide) <|
      writtenDefaulted (listRestores textRestores) (emptyReadable _) (by decide) .none)
    fun _ => rfl

/- A section of the document is a record of one list. -/
theorem sectionRestores {title name : String} {item : Shape α} {write : α → Json}
    (restores : item.Restores write) :
    (record title false (defaulted name [] (.list item) .none) (·.1)).Restores fun items =>
      .object [(name, .array (items.map write))] :=
  recordRestores (writtenDefaulted (listRestores restores) (emptyReadable _) nofun .none)
    fun _ => rfl

theorem authRestores : auth.Restores fun auth =>
    .object
      [("providers", .array (auth.providers.map Provider.toJson)),
        ("userFields", .array (auth.userColumns.map Column.toJson))] :=
  recordRestores
    (writtenDefaulted (listRestores providerRestores) (emptyReadable _) (by decide) <|
      writtenDefaulted (listRestores columnRestores) (emptyReadable _) (by decide) .none)
    fun _ => rfl

theorem backendRestores : backend.Restores Backend.toJson :=
  recordRestores
    (writtenDefaulted (sectionRestores tableRestores) ⟨.object [], rfl⟩ (by decide) <|
      writtenDefaulted (sectionRestores endpointRestores) ⟨.object [], rfl⟩ (by decide) <|
      writtenDefaulted authRestores ⟨.object [], rfl⟩ (by decide) <|
      writtenDefaulted (sectionRestores productRestores) ⟨.object [], rfl⟩ (by decide) .none)
    fun _ => rfl

theorem documentRestored {document : Json} {read : Backend}
    (accepted : backend.ofJson document = .ok read) : backend.ofJson read.toJson = .ok read :=
  backendRestores read ⟨document, accepted⟩

/- A section as an array, its table as an array that ends early, columns either way, both names of
the keys of a relation, a choice as an object; the other sections are not there. -/
def oddDocument : Json :=
  .object
    [("database", .array [.array
      [.array
        [.string "Visit",
          .array
            [.array [.string "id", .string " INTEGER\t", .array [.string "@ID", .string " @@Map "]],
              .object [("type", .string "Money"), ("name", .string "price")]],
          .array
            [.object
              [("kind", .object [("many_to_one", .null)]), ("targetTable", .string "User")]]]]]),
      ("more", .null)]

def oddBackend : Backend where
  tables :=
    [⟨"Visit", [⟨"id", .int, [.primaryKey, .other "@@Map"]⟩, ⟨"price", .unknown "Money", []⟩],
      [⟨"User", .manyToOne⟩]⟩]

theorem oddRestored :
    backend.ofJson oddDocument = .ok oddBackend ∧
      backend.ofJson oddBackend.toJson = .ok oddBackend :=
  have accepted : backend.ofJson oddDocument = .ok oddBackend := rfl
  ⟨accepted, documentRestored accepted⟩

end Shape
end Scaffold
