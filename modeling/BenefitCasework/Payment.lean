import BenefitCasework.Identifier
import BenefitCasework.Table

/-!
Contract: what is paid, and where it goes.

Owns:
- `Payment`, an amount in cents with a method and an optional reference;
- `PaymentChannel`, where the money goes;
- `ChannelTable`, the channels on record by citizen.

Does not own: the moment of a release.
-/

namespace BenefitCasework

/-- How a benefit is handed over. -/
inductive PaymentMethod where
  | pix
  | bankTransfer
  | inKind
deriving DecidableEq, Repr, Inhabited

namespace PaymentMethod

def all : List PaymentMethod := [.pix, .bankTransfer, .inKind]

def name : PaymentMethod → String
  | .pix => "Pix"
  | .bankTransfer => "BankTransfer"
  | .inKind => "InKind"

instance : JsonForm PaymentMethod where
  write method := .string method.name
  read? := Json.named? all name

end PaymentMethod

/-- What is paid. -/
structure Payment where
  cents : UInt64
  method : PaymentMethod
  reference : Option String
deriving DecidableEq, Repr

instance : JsonForm Payment where
  write payment := .object [("amount_cents", Json.of payment.cents),
    ("method", Json.of payment.method), ("reference", Json.of payment.reference)]
  read? value := do
    match ← Json.slots? ["amount_cents", "method", "reference"] value with
    | [cents, method, reference] =>
        return ⟨← Json.required cents, ← Json.required method, ← Json.optional reference⟩
    | _ => none

/-- Where money goes. -/
inductive PaymentChannel where
  | pix (key : String)
  | bankAccount (bank branch account : String)
deriving DecidableEq, Repr

instance : JsonForm PaymentChannel where
  write
    | .pix key => .object [("Pix", .object [("key", Json.of key)])]
    | .bankAccount bank branch account =>
        .object [("BankAccount", .object [("bank", Json.of bank), ("branch", Json.of branch),
          ("account", Json.of account)])]
  read? value := do
    match ← Json.variant? value with
    | ("Pix", content) =>
        match ← Json.slots? ["key"] content with
        | [key] => return .pix (← Json.required key)
        | _ => none
    | ("BankAccount", content) =>
        match ← Json.slots? ["bank", "branch", "account"] content with
        | [bank, branch, account] =>
            return .bankAccount (← Json.required bank) (← Json.required branch)
              (← Json.required account)
        | _ => none
    | _ => none

/-- The channels on record, by citizen. -/
abbrev ChannelTable := Table Identifier PaymentChannel

end BenefitCasework
