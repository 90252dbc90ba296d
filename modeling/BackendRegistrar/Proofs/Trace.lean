import BackendRegistrar.Program

/-! Traces of programs: the questions asked so far with the answers to them. Whatever a program
built from others does is told from the traces of its parts, for every choice of answers. -/

namespace BackendRegistrar

structure Exchange (I : Interface) where
  op : I.Op
  answer : I.Answer op

abbrev Trace (I : Interface) := List (Exchange I)

namespace Program

variable {I J : Interface} {α β ε : Type}

/-- What is left of a program once some questions were answered. -/
inductive Reaches : Program I α → Trace I → Program I α → Prop
  | start (p : Program I α) : Reaches p [] p
  | answered {op : I.Op} {next : I.Answer op → Program I α} {trace : Trace I} {rest : Program I α}
      (answer : I.Answer op) (later : Reaches (next answer) trace rest) :
      Reaches (.ask op next) (⟨op, answer⟩ :: trace) rest

/-- After these exchanges the program is done. -/
def Completes (p : Program I α) (trace : Trace I) (value : α) : Prop := p.Reaches trace (.done value)

/-- After these exchanges the program asks this question. -/
def Asks (p : Program I α) (trace : Trace I) (op : I.Op) : Prop := ∃ next, p.Reaches trace (.ask op next)

theorem Reaches.trans {p q r : Program I α} {first second : Trace I} (reached : p.Reaches first q)
    (later : q.Reaches second r) : p.Reaches (first ++ second) r := by
  induction reached with
  | start p => exact later
  | answered answer _ ih => exact .answered answer (ih later)

theorem Reaches.answer {p : Program I α} {trace : Trace I} {op : I.Op} {next : I.Answer op → Program I α}
    (reached : p.Reaches trace (.ask op next)) (answer : I.Answer op) :
    p.Reaches (trace ++ [⟨op, answer⟩]) (next answer) :=
  reached.trans (.answered answer (.start _))

theorem Reaches.split {p r : Program I α} {first second : Trace I}
    (reached : p.Reaches (first ++ second) r) : ∃ q, p.Reaches first q ∧ q.Reaches second r := by
  induction first generalizing p with
  | nil => exact ⟨p, .start p, reached⟩
  | cons x first ih =>
    cases reached with
    | answered answer later =>
      obtain ⟨q, before, after⟩ := ih later
      exact ⟨q, .answered answer before, after⟩

/-- Every exchange of a trace was asked for by what the exchanges before it left of the program. -/
theorem Reaches.asks {p r : Program I α} {before after : Trace I} {x : Exchange I}
    (reached : p.Reaches (before ++ x :: after) r) : p.Asks before x.op := by
  obtain ⟨q, first, second⟩ := reached.split
  cases second with
  | answered answer later => exact ⟨_, first⟩

@[simp] theorem reaches_done {value : α} {trace : Trace I} {rest : Program I α} :
    (done value : Program I α).Reaches trace rest ↔ trace = [] ∧ rest = .done value := by
  constructor
  · intro reached
    cases reached
    exact ⟨rfl, rfl⟩
  · rintro ⟨rfl, rfl⟩
    exact .start _

theorem reaches_ask {op : I.Op} {next : I.Answer op → Program I α} {trace : Trace I} {rest : Program I α} :
    (ask op next).Reaches trace rest ↔
      trace = [] ∧ rest = .ask op next ∨
        ∃ answer later, trace = ⟨op, answer⟩ :: later ∧ (next answer).Reaches later rest := by
  constructor
  · intro reached
    cases reached with
    | start => exact .inl ⟨rfl, rfl⟩
    | answered answer later => exact .inr ⟨answer, _, rfl, later⟩
  · rintro (⟨rfl, rfl⟩ | ⟨answer, later, rfl, reached⟩)
    · exact .start _
    · exact .answered answer reached

theorem Reaches.bind {p q : Program I α} {trace : Trace I} (reached : p.Reaches trace q)
    (f : α → Program I β) : (p.bind f).Reaches trace (q.bind f) := by
  induction reached with
  | start p => exact .start _
  | answered answer _ ih => exact .answered answer ih

/-- A sequence is still in its first part, or has left it with a value. -/
theorem reaches_bind {p : Program I α} {f : α → Program I β} {trace : Trace I} {rest : Program I β} :
    (p.bind f).Reaches trace rest ↔
      (∃ q, p.Reaches trace q ∧ rest = q.bind f) ∨
        ∃ first second value, trace = first ++ second ∧ p.Completes first value ∧
          (f value).Reaches second rest := by
  constructor
  · intro reached
    induction p generalizing trace with
    | done value => exact .inr ⟨[], trace, value, rfl, .start _, reached⟩
    | ask op next ih =>
      rw [ask_bind, reaches_ask] at reached
      rcases reached with ⟨rfl, rfl⟩ | ⟨answer, later, rfl, after⟩
      · exact .inl ⟨_, .start _, rfl⟩
      · rcases ih answer after with ⟨q, inside, rfl⟩ | ⟨first, second, value, rfl, inside, last⟩
        · exact .inl ⟨q, .answered answer inside, rfl⟩
        · exact .inr ⟨_ :: first, second, value, rfl, .answered answer inside, last⟩
  · rintro (⟨q, reached, rfl⟩ | ⟨first, second, value, rfl, completes, reached⟩)
    · exact reached.bind f
    · exact (Reaches.bind completes f).trans reached

@[simp] theorem completes_done {value other : α} {trace : Trace I} :
    (done value : Program I α).Completes trace other ↔ trace = [] ∧ other = value := by
  simp [Completes]

@[simp] theorem completes_ask {op : I.Op} {next : I.Answer op → Program I α} {trace : Trace I} {value : α} :
    (ask op next).Completes trace value ↔
      ∃ answer later, trace = ⟨op, answer⟩ :: later ∧ (next answer).Completes later value := by
  simp [Completes, reaches_ask]

theorem completes_bind {p : Program I α} {f : α → Program I β} {trace : Trace I} {value : β} :
    (p.bind f).Completes trace value ↔
      ∃ first second middle, trace = first ++ second ∧ p.Completes first middle ∧
        (f middle).Completes second value := by
  unfold Completes
  rw [reaches_bind]
  constructor
  · rintro (⟨q, reached, same⟩ | inside)
    · cases q with
      | done middle => exact ⟨trace, [], middle, by simp, reached, same ▸ .start _⟩
      | ask op next => cases same
    · exact inside
  · exact .inr

/-- A program that is done has been asked no more and ends in one way. -/
theorem Completes.unique {p : Program I α} {first second after others : Trace I} {value other : α}
    (completes : p.Completes first value) (again : p.Completes second other)
    (same : first ++ after = second ++ others) : first = second ∧ value = other := by
  induction p generalizing first second with
  | done given =>
    obtain ⟨rfl, rfl⟩ := completes_done.mp completes
    obtain ⟨rfl, rfl⟩ := completes_done.mp again
    exact ⟨rfl, rfl⟩
  | ask op next ih =>
    obtain ⟨answer, rest, rfl, inside⟩ := completes_ask.mp completes
    obtain ⟨_, _, rfl, outside⟩ := completes_ask.mp again
    rw [List.cons_append, List.cons_append] at same
    obtain ⟨head, tail⟩ := List.cons.inj same
    cases head
    obtain ⟨rfl, rfl⟩ := ih answer inside outside tail
    exact ⟨rfl, rfl⟩

@[simp] theorem asks_done {value : α} {trace : Trace I} {op : I.Op} :
    ¬ (done value : Program I α).Asks trace op := by
  rintro ⟨next, reached⟩
  simp at reached

@[simp] theorem asks_ask {op other : I.Op} {next : I.Answer op → Program I α} {trace : Trace I} :
    (ask op next).Asks trace other ↔
      trace = [] ∧ other = op ∨
        ∃ answer later, trace = ⟨op, answer⟩ :: later ∧ (next answer).Asks later other := by
  constructor
  · rintro ⟨rest, reached⟩
    rcases reaches_ask.mp reached with ⟨rfl, same⟩ | ⟨answer, later, rfl, after⟩
    · cases same
      exact .inl ⟨rfl, rfl⟩
    · exact .inr ⟨answer, later, rfl, rest, after⟩
  · rintro (⟨rfl, rfl⟩ | ⟨answer, later, rfl, rest, reached⟩)
    · exact ⟨next, .start _⟩
    · exact ⟨rest, .answered answer reached⟩

@[simp] theorem completes_perform {op : I.Op} {trace : Trace I} {answer : I.Answer op} :
    (perform op).Completes trace answer ↔ trace = [⟨op, answer⟩] := by
  rw [perform, completes_ask]
  constructor
  · rintro ⟨given, later, rfl, completes⟩
    obtain ⟨rfl, rfl⟩ := completes_done.mp completes
    rfl
  · rintro rfl
    exact ⟨answer, [], rfl, .start _⟩

@[simp] theorem asks_perform {op other : I.Op} {trace : Trace I} :
    (perform op).Asks trace other ↔ trace = [] ∧ other = op := by
  simp [perform]

theorem asks_bind {p : Program I α} {f : α → Program I β} {trace : Trace I} {op : I.Op} :
    (p.bind f).Asks trace op ↔
      p.Asks trace op ∨
        ∃ first second value, trace = first ++ second ∧ p.Completes first value ∧
          (f value).Asks second op := by
  constructor
  · rintro ⟨rest, reached⟩
    rcases reaches_bind.mp reached with ⟨q, inside, same⟩ | ⟨first, second, value, rfl, completes, after⟩
    · cases q with
      | done value =>
        exact .inr ⟨trace, [], value, by simp, inside, rest, same ▸ .start _⟩
      | ask other next =>
        cases same
        exact .inl ⟨next, inside⟩
    · exact .inr ⟨first, second, value, rfl, completes, rest, after⟩
  · rintro (⟨next, inside⟩ | ⟨first, second, value, rfl, completes, rest, after⟩)
    · exact ⟨_, reaches_bind.mpr (.inl ⟨_, inside, rfl⟩)⟩
    · exact ⟨rest, reaches_bind.mpr (.inr ⟨first, second, value, rfl, completes, after⟩)⟩

section Attempts

variable {x : ExceptT ε (Program I) α} {f : α → ExceptT ε (Program I) β} {trace : Trace I}

theorem run_attempt_bind (x : ExceptT ε (Program I) α) (f : α → ExceptT ε (Program I) β) :
    (x >>= f).run = x.run.bind fun
      | .ok value => (f value).run
      | .error e => .done (.error e) := by
  change Program.bind x.run (ExceptT.bindCont f) = _
  congr 1
  funext answer
  cases answer <;> rfl

theorem run_attempt {σ : Type} (handle : (op : I.Op) → σ → I.Answer op × σ) (x : ExceptT ε (Program I) α)
    (f : α → ExceptT ε (Program I) β) (s : σ) :
    (x >>= f).run.run handle s =
      match x.run.run handle s with
      | (.ok value, t) => (f value).run.run handle t
      | (.error e, t) => (.error e, t) := by
  rw [run_attempt_bind, run_bind]
  cases x.run.run handle s with
  | mk result t => cases result <;> rfl

theorem succeeds_bind {value : β} :
    (x >>= f).run.Completes trace (.ok value) ↔
      ∃ first second middle, trace = first ++ second ∧ x.run.Completes first (.ok middle) ∧
        (f middle).run.Completes second (.ok value) := by
  rw [run_attempt_bind, completes_bind]
  constructor
  · rintro ⟨first, second, middle, rfl, completes, later⟩
    cases middle with
    | ok middle => exact ⟨first, second, middle, rfl, completes, later⟩
    | error e => simp at later
  · rintro ⟨first, second, middle, rfl, completes, later⟩
    exact ⟨first, second, .ok middle, rfl, completes, later⟩

/-- A sequence of attempts ends with the first failure, or with what comes of its second part. -/
theorem completes_attempt_bind {result : Except ε β} :
    (x >>= f).run.Completes trace result ↔
      (∃ e, x.run.Completes trace (.error e) ∧ result = .error e) ∨
        ∃ first second middle, trace = first ++ second ∧ x.run.Completes first (.ok middle) ∧
          (f middle).run.Completes second result := by
  rw [run_attempt_bind, completes_bind]
  constructor
  · rintro ⟨first, second, middle, rfl, completes, later⟩
    cases middle with
    | ok middle => exact .inr ⟨first, second, middle, rfl, completes, later⟩
    | error e =>
      obtain ⟨rfl, rfl⟩ := completes_done.mp later
      exact .inl ⟨e, by simpa using completes, rfl⟩
  · rintro (⟨e, completes, rfl⟩ | ⟨first, second, middle, rfl, completes, later⟩)
    · exact ⟨trace, [], .error e, by simp, completes, .start _⟩
    · exact ⟨first, second, .ok middle, rfl, completes, later⟩

theorem asks_attempt_bind {op : I.Op} :
    (x >>= f).run.Asks trace op ↔
      x.run.Asks trace op ∨
        ∃ first second middle, trace = first ++ second ∧ x.run.Completes first (.ok middle) ∧
          (f middle).run.Asks second op := by
  rw [run_attempt_bind, asks_bind]
  constructor
  · rintro (inside | ⟨first, second, middle, rfl, completes, later⟩)
    · exact .inl inside
    · cases middle with
      | ok middle => exact .inr ⟨first, second, middle, rfl, completes, later⟩
      | error e => exact absurd later asks_done
  · rintro (inside | ⟨first, second, middle, rfl, completes, later⟩)
    · exact .inl inside
    · exact .inr ⟨first, second, .ok middle, rfl, completes, later⟩

end Attempts

section Translation

variable {f : (op : I.Op) → Program J (I.Answer op)}

/-- A trace in which each exchange stands for a whole run of the program in its place. -/
inductive Spelled (f : (op : I.Op) → Program J (I.Answer op)) : Trace I → Trace J → Prop
  | nil : Spelled f [] []
  | cons {op : I.Op} {answer : I.Answer op} {rest : Trace I} {first second : Trace J}
      (run : (f op).Completes first answer) (later : Spelled f rest second) :
      Spelled f (⟨op, answer⟩ :: rest) (first ++ second)

theorem completes_translate {p : Program I α} {trace : Trace J} {value : α} :
    (p.translate f).Completes trace value ↔ ∃ short, p.Completes short value ∧ Spelled f short trace := by
  constructor
  · intro completes
    induction p generalizing trace with
    | done other =>
      rw [translate_done, completes_done] at completes
      obtain ⟨rfl, rfl⟩ := completes
      exact ⟨[], .start _, .nil⟩
    | ask op next ih =>
      rw [translate, completes_bind] at completes
      obtain ⟨first, second, answer, rfl, run, later⟩ := completes
      obtain ⟨short, inside, spelled⟩ := ih answer later
      exact ⟨⟨op, answer⟩ :: short, .answered answer inside, .cons run spelled⟩
  · rintro ⟨short, completes, spelled⟩
    induction spelled generalizing p with
    | nil =>
      cases completes
      exact .start _
    | @cons op answer rest first second run later ih =>
      cases completes with
      | answered _ inside => exact completes_bind.mpr ⟨first, second, answer, rfl, run, ih inside⟩

end Translation

section Endings

/-- However it is answered, the program ends with such a value. -/
def Ends (good : α → Prop) (p : Program I α) : Prop := ∀ trace value, p.Completes trace value → good value

/-- However it is answered, the attempt fails with no other error than such a one. -/
def FailsAs (kind : ε → Prop) (x : ExceptT ε (Program I) α) : Prop :=
  ∀ trace e, x.run.Completes trace (.error e) → kind e

theorem ends_done {good : α → Prop} {value : α} (is : good value) : (done value : Program I α).Ends good := by
  intro trace other completes
  obtain ⟨_, rfl⟩ := completes_done.mp completes
  exact is

theorem Ends.bind {good : α → Prop} {better : β → Prop} {p : Program I α} {f : α → Program I β}
    (first : p.Ends good) (second : ∀ value, good value → (f value).Ends better) : (p.bind f).Ends better := by
  intro trace value completes
  obtain ⟨_, _, middle, rfl, inside, later⟩ := completes_bind.mp completes
  exact second middle (first _ _ inside) _ _ later

theorem ends_any (p : Program I α) : p.Ends fun _ => True := fun _ _ _ => trivial

variable {δ : Type} {kind : ε → Prop} {x : ExceptT ε (Program I) α} {f : α → ExceptT ε (Program I) β}

theorem failsAs_done {answer : Except ε α} (is : ∀ e, answer = .error e → kind e) :
    FailsAs kind (ExceptT.mk (.done answer) : ExceptT ε (Program I) α) := by
  intro trace e completes
  obtain ⟨_, same⟩ := completes_done.mp completes
  exact is e same.symm

theorem failsAs_pure (value : α) : FailsAs kind (pure value : ExceptT ε (Program I) α) :=
  failsAs_done nofun

theorem failsAs_throw {e : ε} (is : kind e) : FailsAs kind (throw e : ExceptT ε (Program I) α) := by
  refine failsAs_done ?_
  rintro _ ⟨⟩
  exact is

/-- The second part counts for values that the first can have found. -/
theorem FailsAs.bind (first : FailsAs kind x)
    (second : ∀ trace value, x.run.Completes trace (.ok value) → FailsAs kind (f value)) : FailsAs kind (x >>= f) := by
  intro trace e completes
  rcases completes_attempt_bind.mp completes with ⟨_, failed, same⟩ | ⟨_, _, value, rfl, inside, later⟩
  · cases same
    exact first _ _ failed
  · exact second _ value inside _ _ later

/-- Whatever goes wrong is passed on as an error of one sort. -/
theorem failsAs_mapError {p : Program I (Except δ α)} {g : δ → ε} (is : ∀ e, kind (g e)) :
    FailsAs kind (ExceptT.mk (p.bind fun answer => .done (answer.mapError g)) : ExceptT ε (Program I) α) := by
  intro trace e completes
  obtain ⟨_, _, answer, rfl, _, later⟩ := completes_bind.mp completes
  obtain ⟨_, same⟩ := completes_done.mp later
  cases answer with
  | ok value => cases same
  | error e =>
    cases same
    exact is e

theorem FailsAs.translate {g : (op : I.Op) → Program J (I.Answer op)} (fails : FailsAs kind x) :
    FailsAs kind (ExceptT.mk (x.run.translate g) : ExceptT ε (Program J) α) := by
  intro trace e completes
  obtain ⟨short, inside, _⟩ := completes_translate.mp completes
  exact fails short e inside

end Endings

section Counting

variable {chosen : I.Op → Bool} {m n : Nat}

/-- However it is answered, the program asks so many of the chosen questions until it is done. -/
inductive Times (chosen : I.Op → Bool) : Nat → Program I α → Prop
  | done (value : α) : Times chosen 0 (.done value)
  | counted {op : I.Op} {next : I.Answer op → Program I α} {n : Nat} (among : chosen op = true)
      (later : ∀ answer, Times chosen n (next answer)) : Times chosen (n + 1) (.ask op next)
  | passed {op : I.Op} {next : I.Answer op → Program I α} {n : Nat} (other : chosen op = false)
      (later : ∀ answer, Times chosen n (next answer)) : Times chosen n (.ask op next)

def asked (chosen : I.Op → Bool) (trace : Trace I) : Nat := trace.countP fun x => chosen x.op

theorem asked_cons_of_not {x : Exchange I} {trace : Trace I} (other : chosen x.op = false) :
    asked chosen (x :: trace) = asked chosen trace :=
  List.countP_cons_of_neg (by simp [other])

theorem asked_cons_le {x : Exchange I} {trace : Trace I} : asked chosen (x :: trace) ≤ asked chosen trace + 1 := by
  rw [asked, List.countP_cons, asked]
  split <;> omega

theorem asked_append {first second : Trace I} :
    asked chosen (first ++ second) = asked chosen first + asked chosen second := List.countP_append

theorem Times.bind {p : Program I α} {g : α → Program I β} (first : p.Times chosen m)
    (second : ∀ value, (g value).Times chosen n) : (p.bind g).Times chosen (m + n) := by
  induction first with
  | done value => simpa using second value
  | counted among _ ih =>
    rw [Nat.add_right_comm]
    exact .counted among ih
  | passed other _ ih => exact .passed other ih

/-- What was asked and what is still to be asked make up the whole. -/
theorem Times.reaches {p q : Program I α} {trace : Trace I} (times : p.Times chosen n)
    (reached : p.Reaches trace q) : ∃ left, n = asked chosen trace + left ∧ q.Times chosen left := by
  induction reached generalizing n with
  | start p => exact ⟨n, by simp [asked], times⟩
  | answered answer _ ih =>
    cases times with
    | counted among later =>
      obtain ⟨left, same, rest⟩ := ih (later answer)
      exact ⟨left, by simp only [asked, List.countP_cons, among, ite_true] at same ⊢; omega, rest⟩
    | passed other later =>
      obtain ⟨left, same, rest⟩ := ih (later answer)
      exact ⟨left, by simpa [asked, List.countP_cons, other] using same, rest⟩

theorem Times.completes {p : Program I α} {trace : Trace I} {value : α} (times : p.Times chosen n)
    (completes : p.Completes trace value) : asked chosen trace = n := by
  obtain ⟨left, same, rest⟩ := times.reaches completes
  cases rest
  exact same.symm

theorem Times.asked_le {p q : Program I α} {trace : Trace I} (times : p.Times chosen n)
    (reached : p.Reaches trace q) : asked chosen trace ≤ n := by
  obtain ⟨left, same, _⟩ := times.reaches reached
  omega

theorem Times.not_asks {p : Program I α} {trace : Trace I} {op : I.Op} (never : p.Times chosen 0)
    (asks : p.Asks trace op) : chosen op = false := by
  obtain ⟨next, reached⟩ := asks
  obtain ⟨left, same, rest⟩ := never.reaches reached
  cases rest with
  | counted => omega
  | passed other => exact other

theorem Times.none {p q : Program I α} {trace : Trace I} (never : p.Times chosen 0)
    (reached : p.Reaches trace q) : ∀ x ∈ trace, chosen x.op = false := by
  intro x member
  obtain ⟨before, after, rfl⟩ := List.append_of_mem member
  exact never.not_asks reached.asks

theorem Times.translate {chosen : J.Op → Bool} {f : (op : I.Op) → Program J (I.Answer op)}
    (each : ∀ op, (f op).Times chosen 0) (p : Program I α) : (p.translate f).Times chosen 0 := by
  induction p with
  | done value => exact .done value
  | ask op next ih => exact (each op).bind ih

/-- A translation asks nothing chosen if the questions that it puts programs in the place of do not lead to any. -/
theorem Times.translate_never {among : I.Op → Bool} {chosen : J.Op → Bool} {f : (op : I.Op) → Program J (I.Answer op)}
    {p : Program I α} (never : p.Times among 0) (each : ∀ op, among op = false → (f op).Times chosen 0) :
    (p.translate f).Times chosen 0 := by
  induction p with
  | done value => exact .done value
  | ask op next ih =>
    cases never with
    | passed other later => exact (each op other).bind fun answer => ih answer (later answer)

theorem Times.bind_never {p : Program I α} {g : α → Program I β} (first : p.Times chosen 0)
    (second : ∀ value, (g value).Times chosen 0) : (p.bind g).Times chosen 0 :=
  first.bind second

theorem Times.attempt_never {x : ExceptT ε (Program I) α} {g : α → ExceptT ε (Program I) β}
    (first : x.run.Times chosen 0) (second : ∀ value, (g value).run.Times chosen 0) :
    (x >>= g).run.Times chosen 0 := by
  rw [run_attempt_bind]
  apply first.bind_never
  intro answer
  cases answer with
  | ok value => exact second value
  | error e => exact .done _

end Counting

section Gathering

variable {γ : Type} {pick : I.Op → Option γ}

/-- What is picked from the questions of a trace, in order. -/
def gathered (pick : I.Op → Option γ) (trace : Trace I) : List γ := trace.filterMap fun x => pick x.op

theorem gathered_cons {x : Exchange I} {trace : Trace I} :
    gathered pick (x :: trace) = (pick x.op).toList ++ gathered pick trace := by
  cases picked : pick x.op <;> simp [gathered, picked]

theorem gathered_append {first second : Trace I} :
    gathered pick (first ++ second) = gathered pick first ++ gathered pick second := List.filterMap_append

/-- However it is answered, this is picked from the questions of the program until it is done. -/
def Gathers (pick : I.Op → Option γ) (found : List γ) (p : Program I α) : Prop :=
  ∀ trace value, p.Completes trace value → gathered pick trace = found

theorem gathers_done (value : α) : Gathers pick [] (.done value : Program I α) := by
  intro trace other completes
  obtain ⟨rfl, _⟩ := completes_done.mp completes
  rfl

theorem gathers_ask (op : I.Op) {next : I.Answer op → Program I α} {found : List γ}
    (later : ∀ answer, Gathers pick found (next answer)) : Gathers pick ((pick op).toList ++ found) (.ask op next) := by
  intro trace value completes
  obtain ⟨answer, rest, rfl, inside⟩ := completes_ask.mp completes
  rw [gathered_cons, later answer rest value inside]

theorem gathers_passed {op : I.Op} {next : I.Answer op → Program I α} {found : List γ} (apart : pick op = none)
    (later : ∀ answer, Gathers pick found (next answer)) : Gathers pick found (.ask op next) := by
  have asks : Gathers pick ((pick op).toList ++ found) (.ask op next) := gathers_ask op later
  rwa [apart] at asks

theorem Gathers.bind {p : Program I α} {f : α → Program I β} {found more : List γ} (first : Gathers pick found p)
    (second : ∀ value, Gathers pick more (f value)) : Gathers pick (found ++ more) (p.bind f) := by
  intro trace value completes
  obtain ⟨_, _, middle, rfl, inside, later⟩ := completes_bind.mp completes
  rw [gathered_append, first _ _ inside, second middle _ _ later]

theorem Times.gathers {p : Program I α} (never : p.Times (fun op => (pick op).isSome) 0) : Gathers pick [] p := by
  intro trace value completes
  rw [gathered, List.filterMap_eq_nil_iff]
  intro x member
  simpa using never.none completes x member

end Gathering

section States

variable {σ : Type} {step : σ → Exchange I → σ → Prop} {s t : σ} {trace : Trace I}

/-- The exchanges of a trace carry one state to another, step by step. -/
inductive Carries (step : σ → Exchange I → σ → Prop) : σ → Trace I → σ → Prop
  | nil (s : σ) : Carries step s [] s
  | cons {s t u : σ} {x : Exchange I} {rest : Trace I} (one : step s x t) (later : Carries step t rest u) :
      Carries step s (x :: rest) u

@[simp] theorem carries_nil : Carries step s [] t ↔ t = s := by
  constructor
  · intro carries
    cases carries
    rfl
  · rintro rfl
    exact .nil _

@[simp] theorem carries_cons {x : Exchange I} :
    Carries step s (x :: trace) t ↔ ∃ middle, step s x middle ∧ Carries step middle trace t := by
  constructor
  · intro carries
    cases carries with
    | cons one later => exact ⟨_, one, later⟩
  · rintro ⟨middle, one, later⟩
    exact .cons one later

theorem carries_single {x : Exchange I} : Carries step s [x] t ↔ step s x t := by
  simp

theorem carries_append {first second : Trace I} :
    Carries step s (first ++ second) t ↔ ∃ middle, Carries step s first middle ∧ Carries step middle second t := by
  induction first generalizing s with
  | nil => simp
  | cons x first ih =>
    rw [List.cons_append, carries_cons]
    constructor
    · rintro ⟨next, one, later⟩
      obtain ⟨middle, before, after⟩ := ih.mp later
      exact ⟨middle, .cons one before, after⟩
    · rintro ⟨middle, before, after⟩
      obtain ⟨next, one, later⟩ := carries_cons.mp before
      exact ⟨next, one, ih.mpr ⟨middle, later, after⟩⟩

theorem Carries.mono {weaker : σ → Exchange I → σ → Prop} (carries : Carries step s trace t)
    (implies : ∀ {s x t}, step s x t → weaker s x t) : Carries weaker s trace t := by
  induction carries with
  | nil s => exact .nil s
  | cons one _ ih => exact .cons (implies one) ih

theorem Carries.mem {x : Exchange I} (carries : Carries step s trace t) (member : x ∈ trace) :
    ∃ before after, step before x after := by
  induction carries with
  | nil => cases member
  | cons one _ ih =>
    rcases List.mem_cons.mp member with rfl | later
    · exact ⟨_, _, one⟩
    · exact ih later

/-- What a program asks when it is run, with the answers. -/
def played (handle : (op : I.Op) → σ → I.Answer op × σ) : Program I α → σ → Trace I
  | .done _, _ => []
  | .ask op next, s => ⟨op, (handle op s).1⟩ :: (next (handle op s).1).played handle (handle op s).2

theorem completes_played (handle : (op : I.Op) → σ → I.Answer op × σ) (p : Program I α) (s : σ) :
    p.Completes (p.played handle s) (p.run handle s).1 := by
  induction p generalizing s with
  | done value => exact .start _
  | ask op next ih => exact .answered _ (ih _ _)

theorem played_bind (handle : (op : I.Op) → σ → I.Answer op × σ) (p : Program I α) (f : α → Program I β) (s : σ) :
    (p.bind f).played handle s = p.played handle s ++ (f (p.run handle s).1).played handle (p.run handle s).2 := by
  induction p generalizing s with
  | done value => rfl
  | ask op next ih => simp only [ask_bind, played, run, ih, List.cons_append]

/-- What a translated program asks when it is run spells what the program asks whose questions are answered by runs. -/
theorem spelled_played (f : (op : I.Op) → Program J (I.Answer op)) (handle : (op : J.Op) → σ → J.Answer op × σ)
    (p : Program I α) (s : σ) :
    Spelled f (p.played (fun op s => (f op).run handle s) s) ((p.translate f).played handle s) := by
  induction p generalizing s with
  | done value => exact .nil
  | ask op next ih =>
    rw [translate, played_bind, played]
    exact .cons (completes_played _ _ _) (ih _ _)

/-- Surroundings that differ only in what they answer to questions that are never asked cannot be told apart. -/
theorem Times.run_congr {chosen : I.Op → Bool} {handle other : (op : I.Op) → σ → I.Answer op × σ} {p : Program I α}
    (never : p.Times chosen 0) (same : ∀ op s, chosen op = false → handle op s = other op s) (s : σ) :
    p.run handle s = p.run other s ∧ p.played handle s = p.played other s := by
  induction p generalizing s with
  | done value => exact ⟨rfl, rfl⟩
  | ask op next ih =>
    cases never with
    | passed quiet later =>
      obtain ⟨ends, plays⟩ := ih (other op s).1 (later _) (other op s).2
      constructor
      · simp only [run, same op s quiet, ends]
      · simp only [played, same op s quiet, plays]

/-- What comes of a program that is run comes of it by a trace. -/
theorem run_carries (handle : (op : I.Op) → σ → I.Answer op × σ) (p : Program I α) (s : σ) :
    ∃ trace, p.Completes trace (p.run handle s).1 ∧
      Carries (fun s x t => handle x.op s = (x.answer, t)) s trace (p.run handle s).2 := by
  induction p generalizing s with
  | done value => exact ⟨[], .start _, .nil s⟩
  | ask op next ih =>
    obtain ⟨trace, completes, carries⟩ := ih (handle op s).1 (handle op s).2
    exact ⟨⟨op, (handle op s).1⟩ :: trace, .answered _ completes, .cons rfl carries⟩

/-- What a trace does to a state, the exchanges that it spells do by their runs. -/
theorem Spelled.carries {step : σ → Exchange J → σ → Prop} {f : (op : I.Op) → Program J (I.Answer op)}
    {trace : Trace J} {short : Trace I} (spelled : Spelled f short trace) (carries : Carries step s trace t) :
    Carries (fun s x t => ∃ run, (f x.op).Completes run x.answer ∧ Carries step s run t) s short t := by
  induction spelled generalizing s with
  | nil =>
    obtain rfl := carries_nil.mp carries
    exact .nil _
  | cons run later ih =>
    obtain ⟨middle, before, after⟩ := carries_append.mp carries
    exact .cons ⟨_, run, before⟩ (ih after)

end States

section Answers

variable {answers : (op : I.Op) → I.Answer op} {p : Program I α} {trace : Trace I} {value : α}

/-- What comes of a program when each question always has the same answer. -/
def outcome (answers : (op : I.Op) → I.Answer op) : Program I α → α
  | .done value => value
  | .ask op next => (next (answers op)).outcome answers

/-- What it asks until then. -/
def transcript (answers : (op : I.Op) → I.Answer op) : Program I α → Trace I
  | .done _ => []
  | .ask op next => ⟨op, answers op⟩ :: (next (answers op)).transcript answers

theorem completes_transcript (answers : (op : I.Op) → I.Answer op) (p : Program I α) :
    p.Completes (p.transcript answers) (p.outcome answers) := by
  induction p with
  | done value => exact .start _
  | ask op next ih => exact .answered _ (ih _)

theorem eq_transcript (completes : p.Completes trace value) (follows : ∀ x ∈ trace, x.answer = answers x.op) :
    trace = p.transcript answers ∧ value = p.outcome answers := by
  induction p generalizing trace with
  | done other =>
    obtain ⟨rfl, rfl⟩ := completes_done.mp completes
    exact ⟨rfl, rfl⟩
  | ask op next ih =>
    obtain ⟨answer, later, rfl, rest⟩ := completes_ask.mp completes
    obtain rfl : answer = answers op := follows _ List.mem_cons_self
    obtain ⟨rfl, rfl⟩ := ih _ rest fun x member => follows x (List.mem_cons_of_mem _ member)
    exact ⟨rfl, rfl⟩

end Answers

end Program

end BackendRegistrar
