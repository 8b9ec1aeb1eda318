import Scaffold.Config.Basic
import Scaffold.Project.File
import Scaffold.Shape.Basic

/-!
The shapes of a backend, of a project's settings, and of their parts.
-/
namespace Scaffold.Shape

def columnType : Shape ColumnType :=
  .converted ColumnType.ofName .text

def constraint : Shape Constraint :=
  .converted Constraint.ofName .text

def column : Shape Column :=
  .record "Field" false
    (required "name" .text <| required "type" columnType <|
      defaulted "constraints" [] (.list constraint) .none)
    fun (name, type, constraints, _) => ⟨name, type, constraints⟩

def relationKind : Shape RelationKind :=
  .choice
    [("many_to_one", .manyToOne), ("one_to_many", .oneToMany), ("many_to_many", .manyToMany)]

def relation : Shape Relation :=
  .record "Relationship" false
    (.field "table" ["targetTable"] Option.none .text <|
      .field "type" ["kind"] Option.none relationKind .none)
    fun (target, kind, _) => ⟨target, kind⟩

def table : Shape Table :=
  .record "Table" false
    (required "name" .text <| defaulted "fields" [] (.list column) <|
      defaulted "relationships" [] (.list relation) .none)
    fun (name, columns, relations, _) => ⟨name, columns, relations⟩

def method : Shape Method :=
  .choice [("GET", .get), ("POST", .post), ("PUT", .put), ("DELETE", .delete)]

def endpoint : Shape Endpoint :=
  .record "Endpoint" false
    (required "path" .text <| required "method" method <| defaulted "description" "" .text <|
      defaulted "authentication" false .flag <| defaulted "requestBody" Option.none .members <|
      defaulted "responseSchema" .null .anything .none)
    fun (path, method, description, authenticated, body, response, _) =>
      ⟨path, method, description, authenticated, body, response⟩

def provider : Shape Provider :=
  .record "AuthProvider" false
    (required "name" .text <| defaulted "type" "" .text <|
      defaulted "config" .null .anything .none)
    fun (name, kind, config, _) => ⟨name, kind, config⟩

def billing : Shape Billing :=
  .choice [("one_time", .oneTime), ("subscription", .subscription)]

def product : Shape Product :=
  .record "Product" false
    (required "name" .text <| required "type" billing <| defaulted "priceDescription" "" .text <|
      defaulted "features" [] (.list .text) .none)
    fun (name, billing, price, features, _) => ⟨name, billing, price, features⟩

def tables : Shape (List Table) :=
  .record "Database" false (defaulted "tables" [] (.list table) .none) (·.1)

def endpoints : Shape (List Endpoint) :=
  .record "Api" false (defaulted "endpoints" [] (.list endpoint) .none) (·.1)

def auth : Shape Auth :=
  .record "Auth" false
    (defaulted "providers" [] (.list provider) <| defaulted "userFields" [] (.list column) .none)
    fun (providers, userColumns, _) => ⟨providers, userColumns⟩

def products : Shape (List Product) :=
  .record "Payments" false (defaulted "products" [] (.list product) .none) (·.1)

def backend : Shape Backend :=
  .record "BackendStructure" false
    (defaulted "database" [] tables <| defaulted "api" [] endpoints <|
      defaulted "auth" {} auth <| defaulted "payments" [] products .none)
    fun (tables, endpoints, auth, products, _) => ⟨tables, endpoints, auth, products⟩

def order : Shape Migration.Order :=
  .choice [("declared", .declared), ("dependency", .dependency)]

def config : Shape Config :=
  let standard : Config := {}
  .record "GeneratorConfig" true
    (defaulted "package_name" standard.packageName .text <|
      defaulted "package_version" standard.packageVersion .text <|
      defaulted "migration_order" standard.order order .none)
    fun (packageName, packageVersion, order, _) => ⟨packageName, packageVersion, order⟩

def file : Shape File :=
  .record "FileContent" false (required "path" .text <| required "content" .text .none)
    fun (path, content, _) => ⟨path, content⟩

end Scaffold.Shape
