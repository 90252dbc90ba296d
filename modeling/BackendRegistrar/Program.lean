/-! Programs that ask their surroundings: each question has a type of answers, and the program
goes on with the answer. Whoever runs a program chooses the answers. -/

namespace BackendRegistrar

/-- Questions, with the type of the answers to each. -/
structure Interface where
  Op : Type
  Answer : Op → Type

/-- A program is done with a value, or asks and goes on with the answer. -/
inductive Program (I : Interface) (α : Type)
  | done (value : α)
  | ask (op : I.Op) (next : I.Answer op → Program I α)

namespace Program

variable {I J : Interface} {α β γ σ : Type}

def bind : Program I α → (α → Program I β) → Program I β
  | .done value, f => f value
  | .ask op next, f => .ask op fun answer => (next answer).bind f

instance : Monad (Program I) where
  pure := .done
  bind := bind

def perform (op : I.Op) : Program I (I.Answer op) := .ask op .done

/-- Puts a program in the place of each question. -/
def translate (f : (op : I.Op) → Program J (I.Answer op)) : Program I α → Program J α
  | .done value => .done value
  | .ask op next => (f op).bind fun answer => (next answer).translate f

/-- Runs a program against surroundings that answer from a state. -/
def run (handle : (op : I.Op) → σ → I.Answer op × σ) : Program I α → σ → α × σ
  | .done value, s => (value, s)
  | .ask op next, s =>
    let answered := handle op s
    (next answered.1).run handle answered.2

@[simp] theorem pure_eq (value : α) : (pure value : Program I α) = .done value := rfl

@[simp] theorem bind_eq (p : Program I α) (f : α → Program I β) : p >>= f = p.bind f := rfl

@[simp] theorem done_bind (value : α) (f : α → Program I β) : (done value).bind f = f value := rfl

@[simp] theorem ask_bind (op : I.Op) (next : I.Answer op → Program I α) (f : α → Program I β) :
    (ask op next).bind f = .ask op fun answer => (next answer).bind f := rfl

@[simp] theorem bind_done (p : Program I α) : p.bind .done = p := by
  induction p with
  | done value => rfl
  | ask op next ih => simp only [ask_bind, ih]

theorem bind_assoc (p : Program I α) (f : α → Program I β) (g : β → Program I γ) :
    (p.bind f).bind g = p.bind fun a => (f a).bind g := by
  induction p with
  | done value => rfl
  | ask op next ih => simp only [ask_bind, ih]

instance : LawfulMonad (Program I) :=
  LawfulMonad.mk' (Program I)
    (fun p => bind_done p)
    (fun _ _ => rfl)
    (fun p f g => bind_assoc p f g)

@[simp] theorem translate_done (f : (op : I.Op) → Program J (I.Answer op)) (value : α) :
    (done value).translate f = .done value := rfl

@[simp] theorem run_done (handle : (op : I.Op) → σ → I.Answer op × σ) (value : α) (s : σ) :
    (done value).run handle s = (value, s) := rfl

theorem run_bind (handle : (op : I.Op) → σ → I.Answer op × σ) (p : Program I α)
    (f : α → Program I β) (s : σ) :
    (p.bind f).run handle s = (f (p.run handle s).1).run handle (p.run handle s).2 := by
  induction p generalizing s with
  | done value => rfl
  | ask op next ih => simp only [ask_bind, run, ih]

end Program

end BackendRegistrar
