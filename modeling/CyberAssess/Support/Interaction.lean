import Mathlib.Logic.Function.Basic
import CyberAssess.Support.Transition

/-!
# Support — programs that ask, alone and interleaved

A program over commands `C` with replies `R c`: it returns, raises, or asks one command and goes on
with the reply.

* `Program.run` answers every command from one state; `Program.asked` are the commands it asks.
* `Program.Meets notes A Q`: along what is noted of the replies, every command of the program
  satisfies `A`, and what it ends with satisfies `Q`. `meets_bind` and `meets_attempt` follow the
  program's structure, `Meets.run` is what it says of a run.
* `Program.Residual`: what is left of a program after some replies.
* `Pool` has one program in progress for each party and a state they share; `Pool.Step` lets one
  party ask one command. A party notes what it has been told in its current call.
* `Pool.Step.party`: what calls bring along and replies keep, every party of a pool has; so every
  party goes on meeting what its call met. `Pool.leads_bind` lets one party run alone.
-/

namespace Interaction

variable {C : Type} {R : C → Type} {ε α β σ : Type}

/-- Returns, raises, or asks a command and goes on with its reply. -/
inductive Program (C : Type) (R : C → Type) (ε α : Type) where
  | ret (a : α)
  | raise (e : ε)
  | ask (c : C) (next : R c → Program C R ε α)

namespace Program

/-- One program, then the next. -/
protected def bind : Program C R ε α → (α → Program C R ε β) → Program C R ε β
  | ret a, f => f a
  | raise e, _ => raise e
  | ask c next, f => ask c fun r => (next r).bind f

instance : Monad (Program C R ε) where
  pure := ret
  bind := Program.bind

/-- `try: p`, with what it returned or raised. -/
def attempt : Program C R ε α → Program C R ε (Except ε α)
  | ret a => ret (.ok a)
  | raise e => ret (.error e)
  | ask c next => ask c fun r => (next r).attempt

/-- One command. -/
def command (c : C) : Program C R ε (R c) := ask c ret

/-- A computation that asks nothing. -/
def ofExcept : Except ε α → Program C R ε α
  | .ok a => ret a
  | .error e => raise e

@[simp] theorem pure_eq (a : α) : (pure a : Program C R ε α) = ret a := rfl

@[simp] theorem bind_eq (p : Program C R ε α) (f : α → Program C R ε β) : p >>= f = p.bind f := rfl

@[simp] theorem ret_bind (a : α) (f : α → Program C R ε β) : (ret a).bind f = f a := rfl

@[simp] theorem raise_bind (e : ε) (f : α → Program C R ε β) :
    (raise e : Program C R ε α).bind f = raise e := rfl

@[simp] theorem ask_bind (c : C) (next : R c → Program C R ε α) (f : α → Program C R ε β) :
    (ask c next).bind f = ask c fun r => (next r).bind f := rfl

@[simp] theorem command_bind (c : C) (f : R c → Program C R ε β) : (command c).bind f = ask c f :=
  rfl

/-- Three programs in sequence. -/
theorem bind_assoc {δ : Type} (p : Program C R ε α) (f : α → Program C R ε β)
    (k : β → Program C R ε δ) : (p.bind f).bind k = p.bind fun a => (f a).bind k := by
  induction p with
  | ret a => rfl
  | raise e => rfl
  | ask c next ih =>
      simp only [ask_bind]
      exact congrArg (ask c) (funext ih)

@[simp] theorem ofExcept_ok (a : α) : (ofExcept (.ok a) : Program C R ε α) = ret a := rfl

@[simp] theorem ofExcept_error (e : ε) : (ofExcept (.error e) : Program C R ε α) = raise e := rfl

/-! ### A run alone -/

/-- What the program ends with, and the state it leaves. -/
def run (answer : σ → (c : C) → R c × σ) : Program C R ε α → σ → Except ε α × σ
  | ret a, s => (.ok a, s)
  | raise e, s => (.error e, s)
  | ask c next, s => (next (answer s c).1).run answer (answer s c).2

/-- The commands the run asks, in order. -/
def asked (answer : σ → (c : C) → R c × σ) : Program C R ε α → σ → List C
  | ret _, _ => []
  | raise _, _ => []
  | ask c next, s => c :: (next (answer s c).1).asked answer (answer s c).2

section
variable {answer : σ → (c : C) → R c × σ}

@[simp] theorem asked_ret (a : α) (s : σ) :
    (ret a : Program C R ε α).asked answer s = [] := rfl

@[simp] theorem asked_raise (e : ε) (s : σ) :
    (raise e : Program C R ε α).asked answer s = [] := rfl

@[simp] theorem asked_ask (c : C) (next : R c → Program C R ε α) (s : σ) :
    (ask c next).asked answer s =
      c :: (next (answer s c).1).asked answer (answer s c).2 := rfl

@[simp] theorem run_ret (a : α) (s : σ) :
    (ret a : Program C R ε α).run answer s = (.ok a, s) := rfl

@[simp] theorem run_raise (e : ε) (s : σ) :
    (raise e : Program C R ε α).run answer s = (.error e, s) := rfl

@[simp] theorem run_ask (c : C) (next : R c → Program C R ε α) (s : σ) :
    (ask c next).run answer s = (next (answer s c).1).run answer (answer s c).2 := rfl

/-- A sequence runs its first part, and the rest after what it returns. -/
theorem run_bind (p : Program C R ε α) (f : α → Program C R ε β) (s : σ) :
    (p.bind f).run answer s = match p.run answer s with
      | (.ok a, t) => (f a).run answer t
      | (.error e, t) => (.error e, t) := by
  induction p generalizing s with
  | ret a => rfl
  | raise e => rfl
  | ask c next ih => exact ih _ _

/-- A sequence asks what its first part asks, and the rest after what it returns. -/
theorem asked_bind (p : Program C R ε α) (f : α → Program C R ε β) (s : σ) :
    (p.bind f).asked answer s = p.asked answer s ++ match p.run answer s with
      | (.ok a, t) => (f a).asked answer t
      | (.error _, _) => [] := by
  induction p generalizing s with
  | ret a => rfl
  | raise e => rfl
  | ask c next ih =>
      rw [ask_bind, asked_ask, asked_ask, ih, List.cons_append]
      rfl

/-- An attempt asks what its body asks. -/
@[simp] theorem asked_attempt (p : Program C R ε α) (s : σ) :
    p.attempt.asked answer s = p.asked answer s := by
  induction p generalizing s with
  | ret a => rfl
  | raise e => rfl
  | ask c next ih => exact congrArg (c :: ·) (ih _ _)

/-- An attempt returns what its body ended with. -/
@[simp] theorem run_attempt (p : Program C R ε α) (s : σ) :
    p.attempt.run answer s = (.ok (p.run answer s).1, (p.run answer s).2) := by
  induction p generalizing s with
  | ret a => rfl
  | raise e => rfl
  | ask c next ih => exact ih _ _

end

/-! ### What a program asks -/

variable {γ : Type}

/-- Along what has been noted of the replies: every command satisfies `A`, and the end `Q`. -/
def Meets (notes : γ → (c : C) → R c → γ) (A : γ → C → Prop) (Q : γ → Except ε α → Prop) :
    γ → Program C R ε α → Prop
  | g, ret a => Q g (.ok a)
  | g, raise e => Q g (.error e)
  | g, ask c next => A g c ∧ ∀ r, (next r).Meets notes A Q (notes g c r)

variable {notes : γ → (c : C) → R c → γ} {A B : γ → C → Prop} {g : γ}

@[simp] theorem meets_ret {Q : γ → Except ε α → Prop} {a : α} :
    (ret a : Program C R ε α).Meets notes A Q g ↔ Q g (.ok a) := Iff.rfl

@[simp] theorem meets_raise {Q : γ → Except ε α → Prop} {e : ε} :
    (raise e : Program C R ε α).Meets notes A Q g ↔ Q g (.error e) := Iff.rfl

@[simp] theorem meets_ask {Q : γ → Except ε α → Prop} {c : C} {next : R c → Program C R ε α} :
    (ask c next).Meets notes A Q g ↔ A g c ∧ ∀ r, (next r).Meets notes A Q (notes g c r) := Iff.rfl

/-- A computation that asks nothing meets what its outcome satisfies. -/
@[simp] theorem meets_ofExcept {Q : γ → Except ε α → Prop} {x : Except ε α} :
    (ofExcept x : Program C R ε α).Meets notes A Q g ↔ Q g x := by
  cases x <;> rfl

/-- A sequence meets what its first part meets with the rest after it. -/
theorem meets_bind {Q : γ → Except ε β → Prop} {p : Program C R ε α} {f : α → Program C R ε β} :
    (p.bind f).Meets notes A Q g ↔ p.Meets notes A (fun g x => match x with
      | .ok a => (f a).Meets notes A Q g
      | .error e => Q g (.error e)) g := by
  induction p generalizing g with
  | ret a => rfl
  | raise e => rfl
  | ask c next ih => exact and_congr_right fun _ => forall_congr' fun r => ih r

/-- An attempt meets what its body meets. -/
theorem meets_attempt {Q : γ → Except ε (Except ε α) → Prop} {p : Program C R ε α} :
    p.attempt.Meets notes A Q g ↔ p.Meets notes A (fun g x => Q g (.ok x)) g := by
  induction p generalizing g with
  | ret a => rfl
  | raise e => rfl
  | ask c next ih => exact and_congr_right fun _ => forall_congr' fun r => ih r

/-- Weaker demands are met too. -/
theorem Meets.mono {Q Q' : γ → Except ε α → Prop} {p : Program C R ε α}
    (h : p.Meets notes A Q g) (weaker : ∀ g c, A g c → B g c) (after : ∀ g x, Q g x → Q' g x) :
    p.Meets notes B Q' g := by
  induction p generalizing g with
  | ret a => exact after _ _ h
  | raise e => exact after _ _ h
  | ask c next ih => exact ⟨weaker g c h.1, fun r => ih r (h.2 r)⟩

/-- What every answer to an admitted command keeps, a run keeps, and it ends as the program meets. -/
theorem Meets.run {answer : σ → (c : C) → R c × σ} {J : σ → γ → Prop} {Q : γ → Except ε α → Prop}
    (keep : ∀ s g c, J s g → A g c → J (answer s c).2 (notes g c (answer s c).1))
    {p : Program C R ε α} (h : p.Meets notes A Q g) {s : σ} (hs : J s g) :
    ∃ g', Q g' (p.run answer s).1 ∧ J (p.run answer s).2 g' := by
  induction p generalizing g s with
  | ret a => exact ⟨g, h, hs⟩
  | raise e => exact ⟨g, h, hs⟩
  | ask c next ih => exact ih _ (h.2 _) (keep s g c hs h.1)

/-! ### What is left of a program -/

/-- `p'` is what some replies leave of `p`. -/
inductive Residual (p : Program C R ε α) : Program C R ε α → Prop where
  | whole : Residual p p
  | rest {c : C} {next : R c → Program C R ε α} (h : Residual p (ask c next)) (r : R c) :
      Residual p (next r)

variable {p p' : Program C R ε α}

theorem Residual.trans {p'' : Program C R ε α} (h : Residual p p') (k : Residual p' p'') :
    Residual p p'' := by
  induction k with
  | whole => exact h
  | rest _ r ih => exact ih.rest r

@[simp] theorem residual_ret {a : α} : Residual (ret a) p' ↔ p' = ret a := by
  constructor
  · intro h
    induction h with
    | whole => rfl
    | rest _ _ ih => cases ih
  · rintro rfl
    exact .whole

@[simp] theorem residual_raise {e : ε} : Residual (raise e) p' ↔ p' = raise e := by
  constructor
  · intro h
    induction h with
    | whole => rfl
    | rest _ _ ih => cases ih
  · rintro rfl
    exact .whole

/-- Of a question, all is left or what is left after its reply. -/
theorem residual_ask {c : C} {next : R c → Program C R ε α} :
    Residual (ask c next) p' ↔ p' = ask c next ∨ ∃ r, Residual (next r) p' := by
  constructor
  · intro h
    induction h with
    | whole => exact Or.inl rfl
    | @rest d more _ r ih =>
        rcases ih with same | ⟨r', left⟩
        · cases same
          exact Or.inr ⟨r, .whole⟩
        · exact Or.inr ⟨r', left.rest r⟩
  · rintro (rfl | ⟨r, left⟩)
    · exact .whole
    · exact (Residual.whole.rest r).trans left

/-- Of a sequence, its first part is left or something of the rest. -/
theorem residual_bind {f : α → Program C R ε β} {p'' : Program C R ε β}
    (h : Residual (p.bind f) p'') :
    (∃ p', Residual p p' ∧ p'' = p'.bind f) ∨ ∃ a, Residual p (ret a) ∧ Residual (f a) p'' := by
  induction p generalizing p'' with
  | ret a => exact Or.inr ⟨a, .whole, h⟩
  | raise e => exact Or.inl ⟨raise e, .whole, residual_raise.mp h⟩
  | ask c next ih =>
      rcases residual_ask.mp h with rfl | ⟨r, left⟩
      · exact Or.inl ⟨ask c next, .whole, rfl⟩
      · rcases ih r left with ⟨p', part, same⟩ | ⟨a, part, rest⟩
        · exact Or.inl ⟨p', residual_ask.mpr (Or.inr ⟨r, part⟩), same⟩
        · exact Or.inr ⟨a, residual_ask.mpr (Or.inr ⟨r, part⟩), rest⟩

end Program

/-! ### Parties interleaved -/

variable {ι γ : Type}

/-- A program in progress, and what its party has noted of the replies. -/
structure Party (C : Type) (R : C → Type) (ε α γ : Type) where
  program : Program C R ε α
  noted : γ

/-- The parties, and the state they share. -/
structure Pool (ι : Type) (C : Type) (R : C → Type) (ε α γ σ : Type) where
  shared : σ
  party : ι → Party C R ε α γ

/-- A party begins a call, asks a command and is told its reply, or the shared state moves. -/
inductive Event (ι : Type) (C : Type) (R : C → Type) (ε α : Type) where
  | begins (i : ι) (p : Program C R ε α)
  | asks (i : ι) (c : C) (r : R c)
  | moves

/-- What may happen: who begins which calls, how commands are answered, how the shared state moves
by itself, and what a party notes. -/
structure Rules (ι : Type) (C : Type) (R : C → Type) (ε α γ σ : Type) where
  calls : ι → Program C R ε α → Prop
  answers : σ → (c : C) → R c → σ → Prop
  drifts : σ → σ → Prop
  blank : γ
  notes : γ → (c : C) → R c → γ

variable [DecidableEq ι]

/-- One step. A call may begin at any time: the one before it has ended, or its party has died. -/
inductive Pool.Step (rules : Rules ι C R ε α γ σ) :
    Pool ι C R ε α γ σ → Event ι C R ε α → Pool ι C R ε α γ σ → Prop where
  | begins {s : Pool ι C R ε α γ σ} {i : ι} {p : Program C R ε α} (h : rules.calls i p) :
      Step rules s (.begins i p)
        { s with party := Function.update s.party i ⟨p, rules.blank⟩ }
  | asks {s : Pool ι C R ε α γ σ} {i : ι} {c : C} {next : R c → Program C R ε α} {r : R c} {t : σ}
      (at_ : (s.party i).program = .ask c next) (h : rules.answers s.shared c r t) :
      Step rules s (.asks i c r)
        { shared := t
          party := Function.update s.party i ⟨next r, rules.notes (s.party i).noted c r⟩ }
  | moves {s : Pool ι C R ε α γ σ} {t : σ} (h : rules.drifts s.shared t) :
      Step rules s .moves { s with shared := t }

variable {rules : Rules ι C R ε α γ σ} {s t : Pool ι C R ε α γ σ} {e : Event ι C R ε α}

/-- What calls bring along and replies keep, every party has. -/
theorem Pool.Step.party {K : ι → Program C R ε α → γ → Prop} (h : Pool.Step rules s e t)
    (first : ∀ i p, rules.calls i p → K i p rules.blank)
    (keep : ∀ i c next g r, K i (.ask c next) g → K i (next r) (rules.notes g c r))
    (before : ∀ i, K i (s.party i).program (s.party i).noted) :
    ∀ i, K i (t.party i).program (t.party i).noted := by
  intro j
  cases h with
  | @begins i p called =>
      by_cases same : j = i
      · subst same
        simpa using first j p called
      · simpa [same] using before j
  | @asks i c next r u at_ told =>
      by_cases same : j = i
      · subst same
        have now := before j
        rw [at_] at now
        simpa using keep j c next _ r now
      · simpa [same] using before j
  | moves gone => exact before j

/-- Where every call meets its demands from the start, every party goes on meeting them. -/
theorem Pool.Step.meets {A : γ → C → Prop} {Q : γ → Except ε α → Prop} (h : Pool.Step rules s e t)
    (first : ∀ i p, rules.calls i p → p.Meets rules.notes A Q rules.blank)
    (before : ∀ i, (s.party i).program.Meets rules.notes A Q (s.party i).noted) :
    ∀ i, (t.party i).program.Meets rules.notes A Q (t.party i).noted :=
  h.party (K := fun _ p g => p.Meets rules.notes A Q g) first (fun _ _ _ _ r met => met.2 r) before

/-- A party alone runs the first part of its program, where the server may answer so. -/
theorem Pool.leads_bind {answer : σ → (c : C) → R c × σ}
    (answers : ∀ u c, rules.answers u c (answer u c).1 (answer u c).2) {i : ι} {β : Type}
    {f : β → Program C R ε α} {b : β} (p : Program C R ε β) : ∀ {s : Pool ι C R ε α γ σ} {u : σ},
    (s.party i).program = p.bind f → p.run answer s.shared = (.ok b, u) →
      ∃ g es, Transition.Run (Pool.Step rules) s es
        { shared := u, party := Function.update s.party i ⟨f b, g⟩ } := by
  induction p with
  | ret a =>
      intro s u at_ run
      cases run
      refine ⟨(s.party i).noted, [], ?_⟩
      have same : (⟨f b, (s.party i).noted⟩ : Party C R ε α γ) = s.party i := by
        rw [← show (s.party i).program = f b from at_]
      rw [same, Function.update_eq_self]
      exact .refl s
  | raise e =>
      intro s u at_ run
      cases run
  | ask c next ih =>
      intro s u at_ run
      obtain ⟨s', first, shared, party⟩ : ∃ s', Pool.Step rules s (.asks i c (answer s.shared c).1) s' ∧
          s'.shared = (answer s.shared c).2 ∧ s'.party = Function.update s.party i
            ⟨(next (answer s.shared c).1).bind f,
              rules.notes (s.party i).noted c (answer s.shared c).1⟩ :=
        ⟨_, .asks at_ (answers s.shared c), rfl, rfl⟩
      obtain ⟨g, es, rest⟩ := ih (answer s.shared c).1 (s := s')
        (by rw [party, Function.update_self]) (by rw [shared]; exact run)
      rw [party] at rest
      rw [Function.update_idem] at rest
      exact ⟨g, _, .more first rest⟩

end Interaction
