import Scaffold.Backend.Encoding
import Scaffold.Json.Printer
import Scaffold.Text.Basic

/-!
Payments: the checkout client, the payment webhook, and the product list.
-/
namespace Scaffold.Payments
open Text

def checkoutMode (products : List Product) : String :=
  if products.any (·.billing == .subscription) then "subscription" else "payment"

def clientText (products : List Product) : String :=
  unlines
    ["import Stripe from 'stripe';",
      "",
      "export const stripe = new Stripe(process.env.STRIPE_SECRET_KEY!);",
      "",
      "function appUrl(): string \x7b",
      "  return process.env.NEXT_PUBLIC_APP_URL ?? 'http://localhost:3000';",
      "\x7d",
      "",
      "// Creates a Checkout session for one price and returns the URL to redirect the user to.",
      "export async function createCheckoutSession(",
      "  priceId: string,",
      "  userId: string,",
      "  mode: Stripe.Checkout.SessionCreateParams.Mode = '" ++ checkoutMode products ++ "',",
      "): Promise<string | null> \x7b",
      "  const baseUrl = appUrl();",
      "  const session = await stripe.checkout.sessions.create(\x7b",
      "    mode,",
      "    payment_method_types: ['card'],",
      "    line_items: [\x7b price: priceId, quantity: 1 \x7d],",
      "    client_reference_id: userId,",
      "    metadata: \x7b userId \x7d,",
      "    success_url: `$\x7bbaseUrl\x7d/payment/success`,",
      "    cancel_url: `$\x7bbaseUrl\x7d/payment/canceled`,",
      "  \x7d);",
      "  return session.url;",
      "\x7d"]

def webhookText : String :=
  unlines
    ["import \x7b headers \x7d from 'next/headers';",
      "import \x7b NextResponse \x7d from 'next/server';",
      "import type Stripe from 'stripe';",
      "import \x7b stripe \x7d from '@/lib/stripe';",
      "",
      "export async function POST(req: Request) \x7b",
      "  const body = await req.text();",
      "  const signature = headers().get('stripe-signature');",
      "  const secret = process.env.STRIPE_WEBHOOK_SECRET;",
      "",
      "  if (!signature || !secret) \x7b",
      "    return NextResponse.json(\x7b error: 'Missing webhook signature' \x7d, \x7b status: 400 \x7d);",
      "  \x7d",
      "",
      "  let event: Stripe.Event;",
      "  try \x7b",
      "    event = stripe.webhooks.constructEvent(body, signature, secret);",
      "  \x7d catch (err) \x7b",
      "    console.error('Webhook signature verification failed:', err);",
      "    return NextResponse.json(\x7b error: 'Webhook handler failed' \x7d, \x7b status: 400 \x7d);",
      "  \x7d",
      "",
      "  switch (event.type) \x7b",
      "    case 'checkout.session.completed': \x7b",
      "      const session = event.data.object as Stripe.Checkout.Session;",
      "      // Fulfil the purchase for session.client_reference_id here.",
      "      void session;",
      "      break;",
      "    \x7d",
      "    default:",
      "      break;",
      "  \x7d",
      "",
      "  return NextResponse.json(\x7b received: true \x7d);",
      "\x7d"]

def productsJson (products : List Product) : Json :=
  .array (products.map Product.toJson)

def configText (products : List Product) : String :=
  "export const STRIPE_PRODUCTS = " ++ Json.pretty (productsJson products) ++ ";\n"

end Scaffold.Payments
