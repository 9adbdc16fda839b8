import Mathlib.Order.Defs.Unbundled

/-!
# Programs that throw

A program works on a state and may throw; what it did to the state before the throw stays done.
`Ensures` is the weakest precondition with one postcondition for a returned value and one for an
exception; its rules follow the constructs of `do` notation.
-/

namespace MineTeleop.Programs

/-- A computation on a state `σ` that may throw an `ε`. -/
abbrev Program (σ ε α : Type) := ExceptT ε (StateM σ) α

variable {σ ε α β : Type}

/-- How a program ends, and the state it leaves behind. -/
def Program.exec (p : Program σ ε α) (s : σ) : Except ε α × σ := p.run.run s

/-- From `s` the program returns a value and a state in `Q`, or throws into `R`. -/
def Ensures (p : Program σ ε α) (s : σ) (Q : α → σ → Prop) (R : ε → σ → Prop) : Prop :=
  match (p.exec s).1 with
  | .ok a => Q a (p.exec s).2
  | .error e => R e (p.exec s).2

variable {s : σ} {Q : α → σ → Prop} {R : ε → σ → Prop}

/-! ## Rules -/

@[simp] theorem ensures_pure (a : α) : Ensures (pure a : Program σ ε α) s Q R ↔ Q a s := Iff.rfl

@[simp] theorem ensures_throw (e : ε) : Ensures (throw e : Program σ ε α) s Q R ↔ R e s := Iff.rfl

@[simp] theorem ensures_get {Q : σ → σ → Prop} :
    Ensures (get : Program σ ε σ) s Q R ↔ Q s s := Iff.rfl

@[simp] theorem ensures_modify (f : σ → σ) {Q : Unit → σ → Prop} :
    Ensures (modify f : Program σ ε Unit) s Q R ↔ Q () (f s) := Iff.rfl

theorem exec_bind (p : Program σ ε α) (f : α → Program σ ε β) (s : σ) :
    (p >>= f).exec s =
      match (p.exec s).1 with
      | .ok a => (f a).exec (p.exec s).2
      | .error e => (.error e, (p.exec s).2) := by
  change (ExceptT.bindCont f ((p.exec s).1)).run (p.exec s).2 = _
  cases (p.exec s).1 <;> rfl

theorem exec_tryCatch (p : Program σ ε α) (h : ε → Program σ ε α) (s : σ) :
    (tryCatch p h).exec s =
      match (p.exec s).1 with
      | .ok a => (.ok a, (p.exec s).2)
      | .error e => (h e).exec (p.exec s).2 := by
  change ((match (p.exec s).1 with
    | .ok a => pure (.ok a)
    | .error e => (h e).run : StateM σ (Except ε α))).run (p.exec s).2 = _
  cases (p.exec s).1 <;> rfl

@[simp] theorem ensures_bind (p : Program σ ε α) (f : α → Program σ ε β) {Q : β → σ → Prop} :
    Ensures (p >>= f) s Q R ↔ Ensures p s (fun a s => Ensures (f a) s Q R) R := by
  unfold Ensures
  rw [exec_bind]
  cases (p.exec s).1 <;> rfl

@[simp] theorem ensures_tryCatch (p : Program σ ε α) (h : ε → Program σ ε α) :
    Ensures (tryCatch p h) s Q R ↔ Ensures p s Q fun e s => Ensures (h e) s Q R := by
  unfold Ensures
  rw [exec_tryCatch]
  cases (p.exec s).1 <;> rfl

@[simp] theorem ensures_ite (c : Prop) [Decidable c] (p q : Program σ ε α) :
    Ensures (if c then p else q) s Q R ↔ if c then Ensures p s Q R else Ensures q s Q R := by
  split <;> rfl

/-! ## Consequence -/

theorem Ensures.mono {p : Program σ ε α} {Q' : α → σ → Prop} {R' : ε → σ → Prop}
    (h : Ensures p s Q R) (hQ : ∀ a s, Q a s → Q' a s) (hR : ∀ e s, R e s → R' e s) :
    Ensures p s Q' R' := by
  unfold Ensures at *
  cases hr : (p.exec s).1 with
  | ok a =>
    rw [hr] at h
    exact hQ _ _ h
  | error e =>
    rw [hr] at h
    exact hR _ _ h

theorem Ensures.and {p : Program σ ε α} {Q' : α → σ → Prop} {R' : ε → σ → Prop}
    (h : Ensures p s Q R) (h' : Ensures p s Q' R') :
    Ensures p s (fun a s => Q a s ∧ Q' a s) (fun e s => R e s ∧ R' e s) := by
  unfold Ensures at *
  cases hr : (p.exec s).1 with
  | ok a =>
    rw [hr] at h h'
    exact ⟨h, h'⟩
  | error e =>
    rw [hr] at h h'
    exact ⟨h, h'⟩

/-- A precondition moves into the postconditions. -/
theorem Ensures.imp {p : Program σ ε α} {P : Prop} (h : P → Ensures p s Q R) :
    Ensures p s (fun a s' => P → Q a s') fun e s' => P → R e s' := by
  unfold Ensures at *
  cases hr : (p.exec s).1 with
  | ok a =>
    intro hP
    have hQ := h hP
    rwa [hr] at hQ
  | error e =>
    intro hP
    have hR := h hP
    rwa [hr] at hR

/-- The program may be followed by whatever its postcondition allows. -/
theorem Ensures.bind {p : Program σ ε α} {f : α → Program σ ε β} {Q : β → σ → Prop}
    {Q' : α → σ → Prop} (hp : Ensures p s Q' R) (hf : ∀ a s, Q' a s → Ensures (f a) s Q R) :
    Ensures (p >>= f) s Q R :=
  (ensures_bind p f).mpr (hp.mono hf fun _ _ h => h)

theorem Ensures.tryCatch {p : Program σ ε α} {h : ε → Program σ ε α} {R' : ε → σ → Prop}
    (hp : Ensures p s Q R') (hh : ∀ e s, R' e s → Ensures (h e) s Q R) :
    Ensures (tryCatch p h) s Q R :=
  (ensures_tryCatch p h).mpr (hp.mono (fun _ _ h => h) hh)

theorem Ensures.ite {c : Prop} [Decidable c] {p q : Program σ ε α} (hp : c → Ensures p s Q R)
    (hq : ¬c → Ensures q s Q R) : Ensures (if c then p else q) s Q R := by
  by_cases hc : c
  · rw [if_pos hc]
    exact hp hc
  · rw [if_neg hc]
    exact hq hc

@[simp] theorem ensures_map (p : Program σ ε α) (f : α → β) {Q : β → σ → Prop} :
    Ensures (f <$> p) s Q R ↔ Ensures p s (fun a => Q (f a)) R := by
  rw [← bind_pure_comp, ensures_bind]
  rfl

/-- A postcondition that ignores how the program ends speaks of the state it leaves. -/
theorem ensures_state {p : Program σ ε α} {I : σ → Prop} :
    Ensures p s (fun _ => I) (fun _ => I) ↔ I (p.exec s).2 := by
  unfold Ensures
  cases (p.exec s).1 <;> rfl

/-- A postcondition of the result, in either case. -/
theorem ensures_result {p : Program σ ε α} {P : Except ε α → σ → Prop} :
    Ensures p s (fun a => P (.ok a)) (fun e => P (.error e)) ↔ P (p.exec s).1 (p.exec s).2 := by
  unfold Ensures
  cases (p.exec s).1 <;> rfl

theorem ensures_of_forall {p : Program σ ε α} (hQ : ∀ a s, Q a s) (hR : ∀ e s, R e s) :
    Ensures p s Q R := by
  unfold Ensures
  cases (p.exec s).1 with
  | ok a => exact hQ a _
  | error e => exact hR e _

/-! ## Given results and loops -/

/-- A result that does not depend on the state. -/
def liftResult (x : Except ε α) : Program σ ε α :=
  match x with
  | .ok a => pure a
  | .error e => throw e

theorem ensures_liftResult {x : Except ε α} :
    Ensures (liftResult x) s Q R ↔
      match x with
      | .ok a => Q a s
      | .error e => R e s := by
  cases x <;> rfl

theorem Ensures.liftResult {x : Except ε α} (hok : ∀ a, x = .ok a → Q a s)
    (herror : ∀ e, x = .error e → R e s) : Ensures (liftResult x) s Q R := by
  rw [ensures_liftResult]
  cases x with
  | ok a => exact hok a rfl
  | error e => exact herror e rfl

/-- Throw in one case, and go on in the other. -/
def refuseIf (c : Prop) [Decidable c] (e : ε) : Program σ ε Unit := if c then throw e else pure ()

/-- Run the program in one case only. -/
def whenever (c : Prop) [Decidable c] (p : Program σ ε Unit) : Program σ ε Unit :=
  if c then p else pure ()

/-- `refuseIf` for checks that look at no state. -/
def rejectIf (c : Prop) [Decidable c] (e : ε) : Except ε Unit := if c then .error e else .ok ()

theorem rejectIf_ok {c : Prop} [Decidable c] {e : ε} {u : Unit} (h : rejectIf c e = .ok u) : ¬c := by
  unfold rejectIf at h
  split at h
  · cases h
  · assumption

theorem Ensures.refuseIf {c : Prop} [Decidable c] {e : ε} {Q : Unit → σ → Prop}
    (hgo : ¬c → Q () s) (hthrow : c → R e s) : Ensures (refuseIf c e) s Q R :=
  .ite hthrow hgo

theorem Ensures.whenever {c : Prop} [Decidable c] {p : Program σ ε Unit} {Q : Unit → σ → Prop}
    (hdo : c → Ensures p s Q R) (hskip : ¬c → Q () s) : Ensures (whenever c p) s Q R :=
  .ite hdo hskip

/-- `I rest` holds whenever `rest` is what the loop still has to do. -/
theorem Ensures.forM {p : β → Program σ ε PUnit} {Q : PUnit → σ → Prop} {I : List β → σ → Prop}
    {xs : List β} (hstep : ∀ x rest s, I (x :: rest) s → Ensures (p x) s (fun _ => I rest) R)
    (hend : ∀ s, I [] s → Q ⟨⟩ s) (h : I xs s) : Ensures (xs.forM p) s Q R := by
  induction xs generalizing s with
  | nil => exact hend s h
  | cons x rest ih =>
    show Ensures (p x >>= fun _ => rest.forM p) s Q R
    exact (hstep x rest s h).bind fun _ _ => ih

/-! ## Relations between the state before and the state after -/

/-- Whichever way the program ends, it leaves a state that `rel` allows after the one before. -/
def Within (rel : σ → σ → Prop) (p : Program σ ε α) : Prop :=
  ∀ s, Ensures p s (fun _ => rel s) fun _ => rel s

namespace Within

variable {rel rel' : σ → σ → Prop}

theorem mono {p : Program σ ε α} (hp : Within rel p) (h : ∀ s s', rel s s' → rel' s s') :
    Within rel' p :=
  fun s => (hp s).mono (fun _ => h s) fun _ => h s

theorem modify {f : σ → σ} (h : ∀ s, rel s (f s)) :
    Within rel (modify f : Program σ ε PUnit) :=
  h

theorem ite {c : Prop} [Decidable c] {p q : Program σ ε α} (hp : Within rel p)
    (hq : Within rel q) : Within rel (if c then p else q) :=
  fun s => .ite (fun _ => hp s) fun _ => hq s

section
variable [IsTrans σ rel]

theorem bind {p : Program σ ε α} {f : α → Program σ ε β} (hp : Within rel p)
    (hf : ∀ a, Within rel (f a)) : Within rel (p >>= f) :=
  fun s => (hp s).bind fun a s' h =>
    (hf a s').mono (fun _ _ => trans_of rel h) fun _ _ => trans_of rel h

theorem tryCatch {p : Program σ ε α} {h : ε → Program σ ε α} (hp : Within rel p)
    (hh : ∀ e, Within rel (h e)) : Within rel (tryCatch p h) :=
  fun s => (hp s).tryCatch fun e s' hrel =>
    (hh e s').mono (fun _ _ => trans_of rel hrel) fun _ _ => trans_of rel hrel

end

section
variable [Std.Refl rel]

theorem pure (a : α) : Within rel (pure a : Program σ ε α) := Std.Refl.refl

theorem throw (e : ε) : Within rel (throw e : Program σ ε α) := Std.Refl.refl

theorem liftResult (x : Except ε α) : Within rel (liftResult x : Program σ ε α) := by
  cases x with
  | ok a => exact .pure a
  | error e => exact .throw e

theorem refuseIf (c : Prop) [Decidable c] (e : ε) :
    Within rel (refuseIf c e : Program σ ε Unit) :=
  .ite (.throw e) (.pure ())

theorem whenever {c : Prop} [Decidable c] {p : Program σ ε Unit} (hp : Within rel p) :
    Within rel (whenever c p) :=
  .ite hp (.pure ())

theorem forM [IsTrans σ rel] {p : β → Program σ ε PUnit} (hp : ∀ x, Within rel (p x))
    (xs : List β) : Within rel (xs.forM p) := by
  induction xs with
  | nil => exact .pure PUnit.unit
  | cons x rest ih => exact (hp x).bind fun _ => ih

end

end Within

end MineTeleop.Programs
