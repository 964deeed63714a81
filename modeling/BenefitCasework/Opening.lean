import BenefitCasework.Json.Record
import BenefitCasework.Request.Lifecycle

/-!
Contract: what the office has when it opens.

Owns:
- `Opening`, the routes, the documents demanded and the payment channels;
- `Opening.ofRecord?`, which sets the routes one after the other; the first
  that is refused is the answer.

Does not own: the requests.
-/

namespace BenefitCasework

/-- Routes, documents and channels. -/
structure Opening where
  routes : RouteTable
  office : Office

namespace Opening

def setRoutes (routes : RouteTable) : List (String × List Gate) → Except RouteError RouteTable
  | [] => .ok routes
  | (benefitType, gates) :: rest =>
      match routes.configure benefitType gates with
      | .ok (_, routes) => setRoutes routes rest
      | .error reason => .error reason

def ofRecord? (record : Json) : Option (Except RouteError Opening) := do
  let routes ← (← record.getItems "routes").mapM fun item => do
    return (← item.getText "benefit_type", ← item.getList Gate "gates")
  let documents ← record.getTable (List String) "documents"
  let channels ← (← record.getItems "payments").mapM fun item => do
    return (← item.getAs Identifier "citizen", ← item.getAs PaymentChannel "channel")
  let table : ChannelTable := channels.foldl (fun table (citizen, channel) =>
    Table.set citizen channel table) []
  match setRoutes [] routes with
  | .ok routes => return .ok ⟨routes, .demanding documents table⟩
  | .error reason => return .error reason

end Opening

end BenefitCasework
