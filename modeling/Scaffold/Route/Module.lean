import Scaffold.Json.Printer
import Scaffold.Route.Path

/-!
The TypeScript module of one endpoint, and the index that registers all of them.
-/
namespace Scaffold.Route
open Text

structure BodyEntry where
  key : String
  validator : String
  deriving DecidableEq, Repr

def bodyEntry (name : String) (type : Json) : BodyEntry :=
  ⟨if isIdentifier name then name else Json.quoted name,
    match type with
    | .string raw => bodyValidator raw
    | _ => "z.unknown()"⟩

structure Module where
  method : Method
  path : String
  description : String
  authenticated : Bool
  handler : String
  model : String
  route : String
  parameter : String
  body : Option (List BodyEntry)
  deriving DecidableEq, Repr

def oneLine (description : String) : String :=
  String.intercalate " " (((splitAt '\n' description).map trim).filter (!·.isEmpty))

def moduleFor (endpoint : Endpoint) (table : Table) : Module :=
  let record := recordRoute endpoint.path
  { method := endpoint.method
    path := endpoint.path
    description := oneLine endpoint.description
    authenticated := endpoint.authenticated
    handler := handlerName (slug endpoint.path)
    model := accessor table.name
    route := if endpoint.method.addressesRecord then record.path else routerPath endpoint.path
    parameter := if endpoint.method.addressesRecord then record.parameter else "id"
    body := endpoint.body.map (·.map fun entry => bodyEntry entry.1 entry.2) }

namespace Module

def schema (m : Module) : String :=
  m.handler ++ "Schema"

def imports (m : Module) : List String :=
  ["import type \x7b " ++ (if m.authenticated then "Response" else "Request, Response") ++
      " \x7d from 'express';"] ++
    (if m.method.addressesRecord then ["import \x7b Prisma \x7d from '@prisma/client';"] else []) ++
    (if m.method.takesBody then ["import \x7b z \x7d from 'zod';"] else []) ++
    ["import \x7b prisma \x7d from '@/lib/prisma';"] ++
    (if m.authenticated then
      ["import \x7b requireAuth, type AuthenticatedRequest \x7d from '@/middleware/auth';"]
    else [])

def comments (m : Module) : List String :=
  ["// " ++ m.method.name ++ " " ++ m.path] ++
    (if m.description.isEmpty then [] else ["// " ++ m.description])

def bodySchema (m : Module) : List String :=
  if m.method.takesBody then
    ["", "const " ++ m.schema ++ " = z.object(\x7b"] ++
      (m.body.getD []).map (fun entry => "  " ++ entry.key ++ ": " ++ entry.validator ++ ",") ++
      ["\x7d)" ++ (if m.body.isSome then "" else ".passthrough()") ++ ";"]
  else []

def action (m : Module) : List String :=
  let readId := "    const id = req.params." ++ m.parameter ++ ";"
  let readBody := "    const data = " ++ m.schema ++ ".parse(req.body);"
  let client := "await prisma." ++ m.model
  match m.method with
  | .get => ["    const items = " ++ client ++ ".findMany();", "    res.json(items);"]
  | .post =>
    [readBody, "    const item = " ++ client ++ ".create(\x7b data \x7d);",
      "    res.status(201).json(item);"]
  | .put =>
    [readId, readBody,
      "    const item = " ++ client ++ ".update(\x7b where: \x7b id \x7d, data \x7d);",
      "    res.json(item);"]
  | .delete =>
    [readId, "    " ++ client ++ ".delete(\x7b where: \x7b id \x7d \x7d);",
      "    res.status(204).end();"]

def failures (m : Module) : List String :=
  (if m.method.takesBody then
    ["    if (error instanceof z.ZodError) \x7b",
      "      res.status(400).json(\x7b error: error.errors[0]?.message ?? 'Invalid request body' \x7d);",
      "      return;",
      "    \x7d"]
  else []) ++
    (if m.method.addressesRecord then
      ["    if (error instanceof Prisma.PrismaClientKnownRequestError && error.code === 'P2025') \x7b",
        "      res.status(404).json(\x7b error: 'Not found' \x7d);",
        "      return;",
        "    \x7d"]
    else []) ++
    ["    console.error(" ++ Json.quoted (m.method.name ++ " " ++ m.path ++ " failed:") ++
        ", error);",
      "    res.status(500).json(\x7b error: 'Internal server error' \x7d);"]

def text (m : Module) : String :=
  unlines
    (m.imports ++ [""] ++ m.comments ++ m.bodySchema ++
      ["",
        "export const " ++ m.handler ++ " = async (req: " ++
          (if m.authenticated then "AuthenticatedRequest" else "Request") ++
          ", res: Response) => \x7b",
        "  try \x7b"] ++ m.action ++
      ["  \x7d catch (error) \x7b"] ++ m.failures ++
      ["  \x7d",
        "\x7d;",
        "",
        "export default \x7b",
        "  path: " ++ Json.quoted m.route ++ ",",
        "  method: '" ++ m.method.key ++ "' as const,",
        "  handler: [" ++ (if m.authenticated then "requireAuth, " else "") ++ m.handler ++ "],",
        "\x7d;"])

end Module

def indexText (modules : List String) : String :=
  let numbered := modules.zipIdx.map fun (name, i) => (name, "route" ++ toString i)
  "import \x7b Router \x7d from 'express';" ++
    String.join (numbered.map fun (name, binding) =>
      "\nimport " ++ binding ++ " from './" ++ name ++ "';") ++
    "\n\nconst router = Router();\n" ++
    String.join (numbered.map fun (_, binding) =>
      "\nrouter[" ++ binding ++ ".method](" ++ binding ++ ".path, ..." ++ binding ++
        ".handler);") ++
    "\n\nexport default router;\n"

end Scaffold.Route
