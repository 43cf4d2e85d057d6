-- SUMMARY: Programs that call the API, and running them over a transport.
import SdnZones.Api.Exchange

/-!
# Procedures

A procedure is an interaction tree: it is done, or it makes a call and goes on with
what comes of it. It says nothing about who answers; a transport does, and may change
its state with every call.
-/

namespace SdnZones

/-- A program that calls the API. -/
inductive Procedure (α : Type) where
  | done (result : α)
  | call (request : Request) (next : Reply → Procedure α)

/-- Who answers calls, with a state of its own. -/
structure Transport (σ : Type) where
  call : Request → σ → Reply × σ
  /-- Whether the API is in good health. -/
  health : σ → Except ApiError Bool × σ

namespace Procedure

variable {α β γ σ : Type}

/-- Go on with the result. -/
def bind : Procedure α → (α → Procedure β) → Procedure β
  | .done a, k => k a
  | .call request next, k => .call request fun reply => (next reply).bind k

instance : Monad Procedure where
  pure := .done
  bind := bind

/-- Make one call. -/
def ask (request : Request) : Procedure Reply := .call request .done

/-- Run over a transport. -/
def run (t : Transport σ) : Procedure α → σ → α × σ
  | .done a, s => (a, s)
  | .call request next, s =>
    let (reply, s) := t.call request s
    run t (next reply) s

/-- Run over given replies; the requests that were made, and the result if the replies suffice. -/
def replay : Procedure α → List Reply → List Request × Option α
  | .done a, _ => ([], some a)
  | .call request _, [] => ([request], none)
  | .call request next, reply :: replies =>
    let (requests, result) := replay (next reply) replies
    (request :: requests, result)

@[simp] theorem bind_done (a : α) (k : α → Procedure β) : (Procedure.done a).bind k = k a := rfl

@[simp] theorem bind_call (request : Request) (next : Reply → Procedure α) (k : α → Procedure β) :
    (Procedure.call request next).bind k = .call request fun reply => (next reply).bind k := rfl

theorem bind_assoc (p : Procedure α) (f : α → Procedure β) (g : β → Procedure γ) :
    (p.bind f).bind g = p.bind fun a => (f a).bind g := by
  induction p with
  | done a => rfl
  | call request next ih => simp only [bind_call]; congr; funext reply; exact ih reply

theorem run_bind (t : Transport σ) (p : Procedure α) (k : α → Procedure β) (s : σ) :
    (p.bind k).run t s = (k (p.run t s).1).run t (p.run t s).2 := by
  induction p generalizing s with
  | done a => rfl
  | call request next ih => simp only [bind_call, run]; exact ih _ _

end Procedure

end SdnZones
