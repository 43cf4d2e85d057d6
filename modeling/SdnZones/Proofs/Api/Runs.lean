-- SUMMARY: The exchanges of a run, and properties of all runs of a procedure.
import SdnZones.Api.Procedure

/-!
# Runs of procedures

A run over a transport leaves its exchanges behind, each a request with the reply to it
(`Procedure.exchanges`); a run is the replay of its replies (`Procedure.replay_exchanges`).
What holds along every branch of a procedure (`Procedure.Always`) holds of every run, whoever
answers (`Procedure.Always.run`).
-/

namespace SdnZones

/-- A request and the reply to it. -/
structure Exchange where
  request : Request
  reply : Reply

/-- A transport that gives one reply to every request. -/
def Transport.constant (reply : Reply) : Transport Unit where
  call _ s := (reply, s)
  health s := (.ok true, s)

namespace Procedure

variable {α β γ σ : Type}

/-! ## Exchanges -/

/-- The exchanges of a run, in their order. -/
def exchanges (t : Transport σ) : Procedure α → σ → List Exchange
  | .done _, _ => []
  | .call request next, s =>
    let (reply, s) := t.call request s
    ⟨request, reply⟩ :: exchanges t (next reply) s

@[simp] theorem exchanges_done (t : Transport σ) (a : α) (s : σ) :
    (Procedure.done a).exchanges t s = [] := rfl

theorem exchanges_bind (t : Transport σ) (p : Procedure α) (k : α → Procedure β) (s : σ) :
    (p.bind k).exchanges t s =
      p.exchanges t s ++ (k (p.run t s).1).exchanges t (p.run t s).2 := by
  induction p generalizing s with
  | done a => rfl
  | call request next ih =>
    simp only [bind_call, exchanges, run, List.cons_append]
    rw [ih]

theorem reply_of_mem_exchanges {reply : Reply} {p : Procedure α} {e : Exchange}
    (h : e ∈ p.exchanges (.constant reply) ()) : e.reply = reply := by
  induction p with
  | done a => cases h
  | call request next ih =>
    cases h with
    | head => rfl
    | tail _ later => exact ih reply later

/-- A run is the replay of the replies that it got. -/
theorem replay_exchanges (t : Transport σ) (p : Procedure α) (s : σ) :
    p.replay ((p.exchanges t s).map (·.reply)) =
      ((p.exchanges t s).map (·.request), some (p.run t s).1) := by
  induction p generalizing s with
  | done a => rfl
  | call request next ih =>
    simp only [exchanges, run, List.map_cons, replay]
    rw [ih]

theorem bind_done_right (p : Procedure α) : p.bind .done = p := by
  induction p with
  | done a => rfl
  | call request next ih => exact congrArg _ (funext ih)

/-! ## Changing the result -/

/-- The procedure with another result. -/
def map (f : α → β) (p : Procedure α) : Procedure β := p.bind fun a => .done (f a)

@[simp] theorem map_done (f : α → β) (a : α) : (Procedure.done a).map f = .done (f a) := rfl

theorem map_bind (f : β → γ) (p : Procedure α) (k : α → Procedure β) :
    (p.bind k).map f = p.bind fun a => (k a).map f := bind_assoc p k _

theorem map_map (f : α → β) (g : β → γ) (p : Procedure α) :
    (p.map f).map g = p.map fun a => g (f a) := bind_assoc p _ _

@[simp] theorem run_map (t : Transport σ) (f : α → β) (p : Procedure α) (s : σ) :
    (p.map f).run t s = (f (p.run t s).1, (p.run t s).2) := by
  rw [map, run_bind]
  rfl

@[simp] theorem exchanges_map (t : Transport σ) (f : α → β) (p : Procedure α) (s : σ) :
    (p.map f).exchanges t s = p.exchanges t s := by
  rw [map, exchanges_bind, exchanges_done, List.append_nil]

/-! ## What holds of every run -/

/-- Whatever the replies are, the exchanges and the result are as described. -/
inductive Always : Procedure α → (List Exchange → α → Prop) → Prop where
  | done {a : α} {Q : List Exchange → α → Prop} : Q [] a → Always (.done a) Q
  | call {request : Request} {next : Reply → Procedure α} {Q : List Exchange → α → Prop} :
    (∀ reply, Always (next reply) fun es a => Q (⟨request, reply⟩ :: es) a) →
    Always (.call request next) Q

namespace Always

variable {Q R : List Exchange → α → Prop}

theorem mono {p : Procedure α} (h : p.Always Q) (imp : ∀ es a, Q es a → R es a) : p.Always R := by
  induction h generalizing R with
  | done held => exact done (imp _ _ held)
  | call _ ih => exact call fun reply => ih reply fun es a => imp (_ :: es) a

theorem bind {p : Procedure α} {k : α → Procedure β} {R : List Exchange → β → Prop}
    (h : p.Always fun es a => (k a).Always fun more b => R (es ++ more) b) :
    (p.bind k).Always R := by
  induction p generalizing R with
  | done a =>
    cases h with
    | done rest => exact rest
  | call request next ih =>
    cases h with
    | call rest => exact call fun reply => ih reply (rest reply)

theorem map {p : Procedure α} {f : α → β} {R : List Exchange → β → Prop}
    (h : p.Always fun es a => R es (f a)) : (p.map f).Always R := by
  refine bind (h.mono fun es a held => done ?_)
  rw [List.append_nil]
  exact held

theorem run {p : Procedure α} (h : p.Always Q) (t : Transport σ) (s : σ) :
    Q (p.exchanges t s) (p.run t s).1 := by
  induction h generalizing s with
  | done held => exact held
  | call _ ih => exact ih _ _

end Always

end Procedure

end SdnZones
