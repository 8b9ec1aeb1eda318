import Scaffold.Backend.Basic

/-!
A backend as a JSON value: every field is written, in the order of declaration, with the plain
spelling of types and constraints.
-/
namespace Scaffold

def texts (items : List String) : Json :=
  .array (items.map .string)

def Column.toJson (column : Column) : Json :=
  .object
    [("name", .string column.name),
      ("type", .string column.type.name),
      ("constraints", texts (column.constraints.map Constraint.name))]

def RelationKind.name : RelationKind → String
  | manyToOne => "many_to_one"
  | oneToMany => "one_to_many"
  | manyToMany => "many_to_many"

def Relation.toJson (relation : Relation) : Json :=
  .object [("table", .string relation.target), ("type", .string relation.kind.name)]

def Table.toJson (table : Table) : Json :=
  .object
    [("name", .string table.name),
      ("fields", .array (table.columns.map Column.toJson)),
      ("relationships", .array (table.relations.map Relation.toJson))]

def Endpoint.toJson (endpoint : Endpoint) : Json :=
  .object
    [("path", .string endpoint.path),
      ("method", .string endpoint.method.name),
      ("description", .string endpoint.description),
      ("authentication", .bool endpoint.authenticated),
      ("requestBody", (endpoint.body.map Json.object).getD .null),
      ("responseSchema", endpoint.response)]

def Provider.toJson (provider : Provider) : Json :=
  .object
    [("name", .string provider.name),
      ("type", .string provider.kind),
      ("config", provider.config)]

def Billing.name : Billing → String
  | oneTime => "one_time"
  | subscription => "subscription"

def Product.toJson (product : Product) : Json :=
  .object
    [("name", .string product.name),
      ("type", .string product.billing.name),
      ("priceDescription", .string product.price),
      ("features", texts product.features)]

def Backend.toJson (backend : Backend) : Json :=
  .object
    [("database", .object [("tables", .array (backend.tables.map Table.toJson))]),
      ("api", .object [("endpoints", .array (backend.endpoints.map Endpoint.toJson))]),
      ("auth", .object
        [("providers", .array (backend.auth.providers.map Provider.toJson)),
          ("userFields", .array (backend.auth.userColumns.map Column.toJson))]),
      ("payments", .object [("products", .array (backend.products.map Product.toJson))])]

end Scaffold
