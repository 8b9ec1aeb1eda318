import Scaffold.Backend.Basic

/-!
A sample backend for invoicing clients, the answer to every prompt: users own clients, and clients
own invoices.
-/
namespace Scaffold.Sample

def id : Column :=
  ⟨"id", .text, [.primaryKey, .generatedId]⟩

def createdAt : Column :=
  ⟨"createdAt", .dateTime, [.defaultNow]⟩

def text (name : String) (constraints : List Constraint) : Column :=
  ⟨name, .text, constraints⟩

def user : Table :=
  ⟨"User", [id, text "email" [.unique], text "name" [], createdAt], []⟩

def client : Table :=
  ⟨"Client", [id, text "name" [], text "email" [], text "phone" [.optional], createdAt],
    [⟨"User", .manyToOne⟩]⟩

def invoice : Table :=
  ⟨"Invoice",
    [id, ⟨"amount", .decimal, []⟩, text "status" [.other "@default(\"draft\")"],
      ⟨"dueDate", .dateTime, []⟩, createdAt],
    [⟨"Client", .manyToOne⟩, ⟨"User", .manyToOne⟩]⟩

def item : Json :=
  .object [("type", .string "object"), ("properties", .object [("id", .string "string")])]

def items : Json :=
  .object [("type", .string "array"), ("items", item)]

def body (entries : List (String × String)) : Option (List (String × Json)) :=
  some (entries.map fun (name, type) => (name, .string type))

def endpoints : List Endpoint :=
  [⟨"/api/clients", .get, "Get all clients for the authenticated user", true, none, items⟩,
    ⟨"/api/clients", .post, "Create a new client", true,
      body [("name", "string"), ("email", "string"), ("phone", "string?")], item⟩,
    ⟨"/api/invoices", .get, "Get all invoices", true, none, items⟩,
    ⟨"/api/invoices", .post, "Create a new invoice", true,
      body [("clientId", "string"), ("amount", "number"), ("dueDate", "string")], item⟩]

def backend : Backend :=
  { tables := [user, client, invoice]
    endpoints := endpoints
    auth :=
      { providers := [⟨"email", "email", .object []⟩, ⟨"google", "oauth", .object []⟩]
        userColumns := [text "email" [], text "name" [], text "avatar" [.optional]] }
    products :=
      [⟨"Basic Plan", .subscription, "$10/month - Up to 10 clients", ["Up to 10 clients"]⟩,
        ⟨"Pro Plan", .subscription, "$25/month - Unlimited clients", ["Unlimited clients"]⟩] }

end Scaffold.Sample
