import Scaffold.Backend.Basic
import Scaffold.Json.Printer
import Scaffold.Route.Path
import Scaffold.Text.Basic

/-!
Sign-in: the middleware that guards the endpoints, and the webhook that follows the identity
provider's users.
-/
namespace Scaffold.Auth
open Text

def webhookRoutes : List String :=
  ["/api/webhook/clerk", "/api/webhook/stripe"]

def publicRoutes (endpoints : List Endpoint) : List String :=
  (endpoints.filter (!·.authenticated)).foldl
    (fun routes endpoint =>
      if routes.contains endpoint.path then routes else routes ++ [endpoint.path])
    webhookRoutes

structure ProviderNote where
  name : String
  kind : String
  deriving DecidableEq, Repr

def providerNote (provider : Provider) : ProviderNote :=
  ⟨provider.name, if provider.kind.isEmpty then "unspecified" else provider.kind⟩

def ProviderNote.text (note : ProviderNote) : String :=
  "//   - " ++ note.name ++ " (" ++ note.kind ++ ")"

structure UserField where
  name : String
  type : String
  optional : Bool
  deriving DecidableEq, Repr

def userField (column : Column) : UserField :=
  ⟨column.name, column.type.tsType, column.isOptional⟩

def UserField.text (field : UserField) : String :=
  "  " ++ field.name ++ (if field.optional then "?" else "") ++ ": " ++ field.type ++ ";"

structure Middleware where
  providers : List ProviderNote
  routes : List String
  userFields : List UserField
  deriving DecidableEq, Repr

def middleware (auth : Auth) (endpoints : List Endpoint) : Middleware :=
  ⟨auth.providers.map providerNote, publicRoutes endpoints, auth.userColumns.map userField⟩

def Middleware.text (m : Middleware) : String :=
  unlines
    (["import \x7b authMiddleware \x7d from '@clerk/nextjs';",
        "import type \x7b NextFunction, Request, Response \x7d from 'express';",
        "",
        "// Sign-in providers to enable in the Clerk dashboard:"] ++
      (if m.providers.isEmpty then ["//   (none declared)"] else m.providers.map (·.text)) ++
      ["",
        "export default authMiddleware(\x7b",
        "  publicRoutes: ["] ++
      m.routes.map (fun route => "    " ++ Json.quoted route ++ ",") ++
      ["  ],",
        "\x7d);",
        "",
        "export const config = \x7b",
        "  matcher: ['/((?!.+\\\\.[\\\\w]+$|_next).*)', '/', '/(api|trpc)(.*)'],",
        "\x7d;",
        "",
        "export interface AuthenticatedRequest extends Request \x7b",
        "  auth: \x7b",
        "    userId: string | null;",
        "    sessionId: string | null;",
        "    getToken: () => Promise<string | null>;",
        "  \x7d;",
        "\x7d",
        "",
        "// Rejects with 401 unless the caller carries both a user id and a session id.",
        "export const requireAuth = (req: Request, res: Response, next: NextFunction) => \x7b",
        "  const auth = (req as AuthenticatedRequest).auth;",
        "  if (!auth?.userId || !auth?.sessionId) \x7b",
        "    res.status(401).json(\x7b error: 'Unauthorized' \x7d);",
        "    return;",
        "  \x7d",
        "  next();",
        "\x7d;",
        "",
        "// Additional fields on the user model. Documentation only: nothing in this",
        "// middleware reads or enforces them.",
        "export interface UserModelExtensions \x7b"] ++
      m.userFields.map (·.text) ++ ["\x7d"])

def userTable? (tables : List Table) : Option Table :=
  tables.find? fun table => asciiLower table.name == "user"

structure Webhook where
  model : String
  hasEmail : Bool
  hasName : Bool
  deriving DecidableEq, Repr

def webhook (tables : List Table) : Webhook :=
  match userTable? tables with
  | some table =>
    ⟨Route.accessor table.name, table.hasColumn "email", table.hasColumn "name"⟩
  | none => ⟨"user", true, true⟩

def Webhook.text (w : Webhook) : String :=
  unlines
    (["import \x7b headers \x7d from 'next/headers';",
        "import \x7b Webhook \x7d from 'svix';",
        "import type \x7b UserJSON, WebhookEvent \x7d from '@clerk/nextjs/server';",
        "import \x7b prisma \x7d from '@/lib/prisma';",
        "",
        "function displayName(first?: string | null, last?: string | null): string \x7b",
        "  return [first, last]",
        "    .map((part) => (part ?? '').trim())",
        "    .filter((part) => part.length > 0)",
        "    .join(' ');",
        "\x7d",
        "",
        "function userAttributes(data: UserJSON) \x7b",
        "  return \x7b"] ++
      (if w.hasEmail then
        ["    email: data.email_addresses[0]?.email_address ?? '',"] else []) ++
      (if w.hasName then ["    name: displayName(data.first_name, data.last_name),"] else []) ++
      ["  \x7d;",
        "\x7d",
        "",
        "export async function POST(req: Request) \x7b",
        "  const secret = process.env.CLERK_WEBHOOK_SECRET;",
        "  if (!secret) \x7b",
        "    console.error('CLERK_WEBHOOK_SECRET is not set');",
        "    return new Response('Webhook secret not configured', \x7b status: 500 \x7d);",
        "  \x7d",
        "",
        "  const headerPayload = headers();",
        "  const svixId = headerPayload.get('svix-id');",
        "  const svixTimestamp = headerPayload.get('svix-timestamp');",
        "  const svixSignature = headerPayload.get('svix-signature');",
        "",
        "  if (!svixId || !svixTimestamp || !svixSignature) \x7b",
        "    return new Response('Missing svix headers', \x7b status: 400 \x7d);",
        "  \x7d",
        "",
        "  const body = await req.text();",
        "",
        "  let evt: WebhookEvent;",
        "  try \x7b",
        "    evt = new Webhook(secret).verify(body, \x7b",
        "      'svix-id': svixId,",
        "      'svix-timestamp': svixTimestamp,",
        "      'svix-signature': svixSignature,",
        "    \x7d) as WebhookEvent;",
        "  \x7d catch (err) \x7b",
        "    console.error('Error verifying webhook:', err);",
        "    return new Response('Invalid webhook signature', \x7b status: 400 \x7d);",
        "  \x7d",
        "",
        "  try \x7b",
        "    switch (evt.type) \x7b",
        "      case 'user.created': \x7b",
        "        const attributes = userAttributes(evt.data);",
        "        await prisma." ++ w.model ++ ".upsert(\x7b",
        "          where: \x7b id: evt.data.id \x7d,",
        "          create: \x7b id: evt.data.id, ...attributes \x7d,",
        "          update: attributes,",
        "        \x7d);",
        "        break;",
        "      \x7d",
        "      case 'user.updated': \x7b",
        "        await prisma." ++ w.model ++ ".update(\x7b",
        "          where: \x7b id: evt.data.id \x7d,",
        "          data: userAttributes(evt.data),",
        "        \x7d);",
        "        break;",
        "      \x7d",
        "      case 'user.deleted': \x7b",
        "        if (evt.data.id) \x7b",
        "          await prisma." ++ w.model ++ ".deleteMany(\x7b where: \x7b id: evt.data.id \x7d \x7d);",
        "        \x7d",
        "        break;",
        "      \x7d",
        "      default:",
        "        break;",
        "    \x7d",
        "  \x7d catch (err) \x7b",
        "    console.error('Error processing webhook:', err);",
        "    return new Response('Error processing webhook', \x7b status: 500 \x7d);",
        "  \x7d",
        "",
        "  return new Response('Webhook processed successfully', \x7b status: 200 \x7d);",
        "\x7d"])

end Scaffold.Auth
