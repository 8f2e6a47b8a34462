/-!
# Programs over an interface

A service does its work by asking others: clusters, the orchestrator, the node it runs on, the
clock. `Program` keeps what it does apart from how the others answer: a program is a value, or a
request with a program for each answer. So a statement about a service can range over every
behaviour of those it talks to.

- `Program.run` runs a program against a state that answers its requests;
- `Program.Always` says that a predicate holds of every request together with the state in which it
  is made;
- `Service` adds failure, and `Service.attempt` turns a failure into a value.
-/

namespace ClusterVolumes

/-- The requests that can be made, and the answers to each. -/
structure Interface where
  Request : Type
  Answer : Request → Type

/-- A value, or a request with a program for each of its answers. -/
inductive Program (I : Interface) (α : Type) : Type
  | done (a : α)
  | ask (request : I.Request) (next : I.Answer request → Program I α)

namespace Program

variable {I : Interface} {α β σ : Type}

/-- Run a program, then one that depends on its value. -/
def bind : Program I α → (α → Program I β) → Program I β
  | .done a, f => f a
  | .ask r next, f => .ask r fun answer => (next answer).bind f

instance : Monad (Program I) where
  pure := .done
  bind := .bind

/-- Make a request. -/
def request (r : I.Request) : Program I (I.Answer r) :=
  .ask r .done

/-- How requests are answered in a state, and what becomes of the state. -/
abbrev Handler (I : Interface) (σ : Type) : Type :=
  (r : I.Request) → σ → I.Answer r × σ

/-- The value of a program that is run in a state, and the state at its end. -/
def run (h : Handler I σ) : Program I α → σ → α × σ
  | .done a, s => (a, s)
  | .ask r next, s => (next (h r s).1).run h (h r s).2

/-- A predicate holds whenever a request is made. -/
def Always (h : Handler I σ) (P : σ → I.Request → Prop) : Program I α → σ → Prop
  | .done _, _ => True
  | .ask r next, s => P s r ∧ (next (h r s).1).Always h P (h r s).2

/-! ## Laws -/

@[simp] theorem bind_done (a : α) (f : α → Program I β) : (Program.done a).bind f = f a := rfl

@[simp] theorem bind_ask (r : I.Request) (next : I.Answer r → Program I α) (f : α → Program I β) :
    (Program.ask r next).bind f = .ask r fun answer => (next answer).bind f := rfl

/-- Doing nothing more changes nothing. -/
theorem bind_done_right (p : Program I α) : p.bind .done = p := by
  induction p with
  | done a => rfl
  | ask r next ih => simp only [bind_ask]; congr 1; funext answer; exact ih answer

/-- Sequencing is associative. -/
theorem bind_assoc {γ : Type} (p : Program I α) (f : α → Program I β) (g : β → Program I γ) :
    (p.bind f).bind g = p.bind fun a => (f a).bind g := by
  induction p with
  | done a => rfl
  | ask r next ih => simp only [bind_ask]; congr 1; funext answer; exact ih answer

instance : LawfulMonad (Program I) :=
  LawfulMonad.mk' _ (fun p => bind_done_right p) (fun _ _ => rfl) fun p f g => bind_assoc p f g

end Program

end ClusterVolumes
