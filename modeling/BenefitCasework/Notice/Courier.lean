import BenefitCasework.Effect.Store
import BenefitCasework.Json.Record
import BenefitCasework.Notice.Projection

/-!
Contract: the handing over of notices.

Owns:
- `Courier`, who hands notices over, with the calls that fail or take time;
- `noticeWorkshop`, the projection with the courier as the one who carries out
  its deliveries.

A call is numbered when it begins. A notice counts as sent when its call ends
well. Does not own: which notices are handed over.
-/

namespace BenefitCasework

/-- Who hands notices over. -/
structure Courier where
  failingCalls : List Nat
  delays : List Nat
  keepsRecord : Bool
  calls : Nat
  sent : List Notice
deriving DecidableEq

namespace Courier

def start (failingCalls delays : List Nat) : Courier := ⟨failingCalls, delays, true, 0, []⟩

def silent : Courier := ⟨[], [], false, 0, []⟩

/-- Begins a call: its duration in milliseconds, and its number. -/
def begin (courier : Courier) (_ : Event) : Courier × Nat × Nat :=
  ({ courier with calls := courier.calls + 1 }, courier.delays[courier.calls]?.getD 0,
    courier.calls)

def complete (courier : Courier) (event : Event) (call : Nat) : Courier × Option NoticeAction :=
  if courier.failingCalls.contains call then
    (courier, some (.failed event.request event.id
      (NoticeError.undelivered "gateway down").message))
  else
    ({ courier with
        sent := if courier.keepsRecord then courier.sent ++ [event.notice] else courier.sent },
      some (.delivered event.request event.id))

/-- Carries effects out one after the other, without letting time pass. -/
def carryOut (courier : Courier) : List (Effect Event) → Courier × List NoticeAction
  | [] => (courier, [])
  | .nothing :: rest => courier.carryOut rest
  | .task event :: rest =>
      let (begun, _, call) := courier.begin event
      let (ended, action) := begun.complete event call
      let (last, others) := ended.carryOut rest
      (last, action.toList ++ others)

/-- The courier that a value tells: one with failing calls and delays, or one
who only notes what comes by. -/
def ofJson? (value : Json) : Option Courier :=
  match value with
  | .string "logging" => some silent
  | record => do return start (← record.getNaturals "fail") (← record.getNaturals "delays_ms")

end Courier

def noticeWorkshop : Workshop Projection Courier NoticeAction Event :=
  ⟨Projection.step, Courier.begin, Courier.complete⟩

/-- The projection with its courier and the deliveries under way. -/
abbrev NoticeStore := EffectStore Projection Courier Event

end BenefitCasework
