-- SUMMARY: Two procedures whose calls come in turn, in any order.
import SdnZones.Proofs.Api.Runs

/-!
# Interleavings

Two procedures that run at the same time make one sequence of calls. An interleaving is a procedure
that makes the calls of both, each in its own order, and ends with both results
(`Procedure.Interleaves`). Which of them goes on may depend on all replies so far. One after the
other is an interleaving, and so is every fixed schedule (`Procedure.weave`).
-/

namespace SdnZones.Procedure

variable {α β : Type}

/-- The calls of the third procedure are those of the first and of the second. -/
inductive Interleaves : Procedure α → Procedure β → Procedure (α × β) → Prop where
  | done (a : α) (b : β) : Interleaves (.done a) (.done b) (.done (a, b))
  | left {request : Request} {next : Reply → Procedure α} {q : Procedure β}
    {both : Reply → Procedure (α × β)} (rest : ∀ reply, Interleaves (next reply) q (both reply)) :
    Interleaves (.call request next) q (.call request both)
  | right {request : Request} {p : Procedure α} {next : Reply → Procedure β}
    {both : Reply → Procedure (α × β)} (rest : ∀ reply, Interleaves p (next reply) (both reply)) :
    Interleaves p (.call request next) (.call request both)

namespace Interleaves

theorem done_left (a : α) (q : Procedure β) : Interleaves (.done a) q (q.map fun b => (a, b)) := by
  induction q with
  | done b => exact done a b
  | call request next ih => exact right ih

theorem done_right (p : Procedure α) (b : β) : Interleaves p (.done b) (p.map fun a => (a, b)) := by
  induction p with
  | done a => exact done a b
  | call request next ih => exact left ih

/-- The first procedure may come before the second. -/
theorem first_before (p : Procedure α) (q : Procedure β) :
    Interleaves p q (p.bind fun a => q.map fun b => (a, b)) := by
  induction p with
  | done a => exact done_left a q
  | call request next ih => exact left ih

/-- The second procedure may come before the first. -/
theorem second_before (p : Procedure α) (q : Procedure β) :
    Interleaves p q (q.bind fun b => p.map fun a => (a, b)) := by
  induction q with
  | done b => exact done_right p b
  | call request next ih => exact right ih

end Interleaves

/-! ## Schedules -/

/-- Make calls as a schedule says, `true` being a turn of the first procedure; when it has ended the
first procedure goes on before the second. -/
def weave : List Bool → Procedure α → Procedure β → Procedure (α × β)
  | [], p, q => p.bind fun a => q.map fun b => (a, b)
  | true :: turns, .done a, q => weave turns (.done a) q
  | true :: turns, .call request next, q => .call request fun reply => weave turns (next reply) q
  | false :: turns, p, .done b => weave turns p (.done b)
  | false :: turns, p, .call request next => .call request fun reply => weave turns p (next reply)

theorem interleaves_weave (turns : List Bool) (p : Procedure α) (q : Procedure β) :
    Interleaves p q (weave turns p q) := by
  induction turns generalizing p q with
  | nil => exact .first_before p q
  | cons turn turns ih =>
    cases turn with
    | true =>
      cases p with
      | done a => exact ih _ q
      | call request next => exact .left fun reply => ih (next reply) q
    | false =>
      cases q with
      | done b => exact ih p _
      | call request next => exact .right fun reply => ih p (next reply)

end SdnZones.Procedure
