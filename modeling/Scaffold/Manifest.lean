import Scaffold.Backend.Basic
import Scaffold.Json.Printer
import Scaffold.Text.Basic

/-!
What a project needs besides its code: the package file, the README, the environment template, and
the database client.
-/
namespace Scaffold.Manifest
open Text

def environment : List (String × String) :=
  [("DATABASE_URL", "\"file:./dev.db\""),
    ("NEXT_PUBLIC_APP_URL", "\"http://localhost:3000\""),
    ("NEXT_PUBLIC_CLERK_PUBLISHABLE_KEY", "\"\""),
    ("CLERK_SECRET_KEY", "\"\""),
    ("CLERK_WEBHOOK_SECRET", "\"\""),
    ("STRIPE_SECRET_KEY", "\"\""),
    ("STRIPE_WEBHOOK_SECRET", "\"\"")]

def environmentLines : List String :=
  environment.map fun (name, value) => name ++ "=" ++ value

def environmentText : String :=
  unlines environmentLines

def strings (members : List (String × String)) : Json :=
  .object (members.map fun (name, value) => (name, .string value))

def packageJson (name version : String) : Json :=
  .object
    [("name", .string name),
      ("version", .string version),
      ("private", .bool true),
      ("scripts", strings
        [("dev", "next dev"),
          ("build", "next build"),
          ("start", "next start"),
          ("lint", "next lint"),
          ("db:push", "prisma db push"),
          ("db:studio", "prisma studio")]),
      ("dependencies", strings
        [("@clerk/nextjs", "^4.0.0"),
          ("@prisma/client", "^5.0.0"),
          ("@stripe/stripe-js", "^2.0.0"),
          ("express", "^4.18.0"),
          ("next", "^14.0.0"),
          ("react", "^18.0.0"),
          ("react-dom", "^18.0.0"),
          ("stripe", "^14.0.0"),
          ("svix", "^1.0.0"),
          ("zod", "^3.0.0")]),
      ("devDependencies", strings
        [("@types/express", "^4.17.0"),
          ("@types/node", "^20.0.0"),
          ("@types/react", "^18.0.0"),
          ("@types/react-dom", "^18.0.0"),
          ("prisma", "^5.0.0"),
          ("typescript", "^5.0.0")])]

def packageText (name version : String) : String :=
  Json.pretty (packageJson name version) ++ "\n"

def endpointLines (endpoint : Endpoint) : List String :=
  ["",
    "### " ++ endpoint.method.name ++ " " ++ endpoint.path,
    "- Auth Required: " ++ (if endpoint.authenticated then "true" else "false"),
    "- Description: " ++ endpoint.description]

def tableText (table : Table) : String :=
  "\n### " ++ table.name ++ "\n" ++
    String.join
      (table.columns.map fun column => "\n- " ++ column.name ++ ": " ++ column.type.name) ++
    "\n"

def readmeText (name : String) (endpoints : List Endpoint) (tables : List Table) : String :=
  unlines
    (["# " ++ name,
        "",
        "This is a generated backend project with the following features:",
        "- Database: SQLite with Prisma ORM",
        "- Authentication: Clerk",
        "- Payments: Stripe",
        "- API: REST endpoints with Express-style routing",
        "- TypeScript support",
        "",
        "## Setup",
        "",
        "1. Install dependencies:",
        "```bash",
        "npm install",
        "```",
        "",
        "2. Set up environment variables (see `.env.example`):",
        "```"] ++ environmentLines ++
      ["```",
        "",
        "3. Initialize the database:",
        "```bash",
        "npm run db:push",
        "```",
        "",
        "4. Start the development server:",
        "```bash",
        "npm run dev",
        "```",
        "",
        "## API Routes"] ++ endpoints.flatMap endpointLines ++
      ["", "## Database Schema"]) ++
    String.join (tables.map tableText) ++ "\n"

def databaseClientText : String :=
  unlines
    ["import \x7b PrismaClient \x7d from '@prisma/client';",
      "",
      "const globalForPrisma = globalThis as unknown as \x7b prisma?: PrismaClient \x7d;",
      "",
      "export const prisma = globalForPrisma.prisma ?? new PrismaClient();",
      "",
      "if (process.env.NODE_ENV !== 'production') \x7b",
      "  globalForPrisma.prisma = prisma;",
      "\x7d"]

end Scaffold.Manifest
