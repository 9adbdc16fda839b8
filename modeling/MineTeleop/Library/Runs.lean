import Mathlib.Data.List.Basic
import Mathlib.Logic.Relation
import Mathlib.Tactic.Common

/-!
# Runs of a machine that answers events

A `Machine` reacts to an event with an output and a new state.  A run is recorded as a
`History`, the latest step first, so that what a law says about a step can look back at
everything before it.

Proved here:

* `Run.invariant_of_steps`: an invariant kept by every step that meets a condition holds at
  the end of every run whose steps all meet it;
* `Run.always_of_invariant`: a law that follows from the invariant holds at every step;
* `Run.iff_since`: a latch of the state as a `Since` over the history;
* `Run.holds_since`: what only some steps release holds since it was set;
* `Machine.Path.keeps`: what the allowed events keep is kept along every path of them, so that a system that
  drives a machine only along such paths inherits the machine's invariants;
* `Run.link`: a relation between history and state that each step extends holds of every run;
* `Run.always_iff`: laws that agree step by step agree on whole runs;
* `always_iff_split`, `since_iff_split`: the past operators as statements about where the history
  can be cut; `each_iff_split` for any list that grows at its head.
-/

namespace MineTeleop.Runs

variable {σ ε ω : Type*}

structure Machine (σ ε ω : Type*) where
  init : σ
  step : σ → ε → ω × σ

structure Step (σ ε ω : Type*) where
  before : σ
  event : ε
  output : ω
  after : σ

/-- The steps of a run so far, the latest first. -/
abbrev History (σ ε ω : Type*) := List (Step σ ε ω)

def Machine.observe (m : Machine σ ε ω) (s : σ) (e : ε) : Step σ ε ω :=
  ⟨s, e, (m.step s e).1, (m.step s e).2⟩

inductive Run (m : Machine σ ε ω) : History σ ε ω → σ → Prop
  | init : Run m [] m.init
  | step {h : History σ ε ω} {s : σ} (e : ε) :
      Run m h s → Run m (m.observe s e :: h) (m.step s e).2

def Reachable (m : Machine σ ε ω) (s : σ) : Prop := ∃ h, Run m h s

/-- Feed one event to a recorded run. -/
def Machine.extend (m : Machine σ ε ω) (r : History σ ε ω × σ) (e : ε) : History σ ε ω × σ :=
  (m.observe r.2 e :: r.1, (m.step r.2 e).2)

/-- Feed a list of events in order. -/
def Machine.play (m : Machine σ ε ω) (events : List ε) : History σ ε ω × σ :=
  events.foldl m.extend ([], m.init)

theorem Machine.play_concat (m : Machine σ ε ω) (events : List ε) (e : ε) :
    m.play (events ++ [e]) = m.extend (m.play events) e := by
  rw [Machine.play, List.foldl_append]
  rfl

theorem Run.extend {m : Machine σ ε ω} {r : History σ ε ω × σ} (hr : Run m r.1 r.2) (e : ε) :
    Run m (m.extend r e).1 (m.extend r e).2 :=
  .step e hr

theorem Run.play (m : Machine σ ε ω) (events : List ε) :
    Run m (m.play events).1 (m.play events).2 := by
  suffices h : ∀ r : History σ ε ω × σ, Run m r.1 r.2 →
      Run m (events.foldl m.extend r).1 (events.foldl m.extend r).2 from h _ .init
  induction events with
  | nil => exact fun _ hr => hr
  | cons e events ih => exact fun r hr => ih _ (hr.extend e)

/-! ## Lists that grow at the head -/

/-- `Each law l`: every element of `l`, with those that were there before it, obeys `law`. -/
def Each {α : Type*} (law : α → List α → Prop) : List α → Prop
  | [] => True
  | a :: l => law a l ∧ Each law l

instance Each.decidable {α : Type*} (law : α → List α → Prop) [∀ a l, Decidable (law a l)] :
    ∀ l, Decidable (Each law l)
  | [] => .isTrue trivial
  | a :: l =>
      have := Each.decidable law l
      inferInstanceAs (Decidable (law a l ∧ Each law l))

section
variable {α : Type*} {law law' : α → List α → Prop} {l : List α}

theorem Each.imp (hl : ∀ a l, law a l → law' a l) (h : Each law l) : Each law' l := by
  induction l with
  | nil => trivial
  | cons a l ih => exact ⟨hl a l h.1, ih h.2⟩

/-- `Each` speaks about every way to cut an element out of the list. -/
theorem each_iff_split (law : α → List α → Prop) (l : List α) :
    Each law l ↔ ∀ later a earlier, l = later ++ a :: earlier → law a earlier := by
  induction l with
  | nil => simp [Each]
  | cons a l ih =>
    show law a l ∧ Each law l ↔ _
    rw [ih]
    constructor
    · rintro ⟨ha, hl⟩ later b earlier heq
      cases later with
      | nil =>
        obtain ⟨rfl, rfl⟩ := List.cons.inj heq
        exact ha
      | cons c later => exact hl later b earlier (List.cons.inj heq).2
    · intro hl
      exact ⟨hl [] a l rfl, fun later b earlier heq => hl (a :: later) b earlier (by simp [heq])⟩

end

/-! ## Looking back over a history -/

/-- `Always law h`: every step of `h`, with the steps before it, obeys `law`. -/
def Always (law : Step σ ε ω → History σ ε ω → Prop) : History σ ε ω → Prop
  | [] => True
  | st :: h => law st h ∧ Always law h

/-- `Since hold trigger h`: some step of `h` is a trigger, and all later ones hold. -/
def Since (hold trigger : Step σ ε ω → Prop) : History σ ε ω → Prop
  | [] => False
  | st :: h => trigger st ∨ (hold st ∧ Since hold trigger h)

instance Always.decidable (law : Step σ ε ω → History σ ε ω → Prop)
    [∀ st h, Decidable (law st h)] : ∀ h, Decidable (Always law h)
  | [] => .isTrue trivial
  | st :: h =>
      have := Always.decidable law h
      inferInstanceAs (Decidable (law st h ∧ Always law h))

instance Since.decidable (hold trigger : Step σ ε ω → Prop)
    [DecidablePred hold] [DecidablePred trigger] : ∀ h, Decidable (Since hold trigger h)
  | [] => .isFalse (fun h => h)
  | st :: h =>
      have := Since.decidable hold trigger h
      inferInstanceAs (Decidable (trigger st ∨ (hold st ∧ Since hold trigger h)))

@[simp] theorem always_nil (law : Step σ ε ω → History σ ε ω → Prop) : Always law [] := trivial

@[simp] theorem always_cons (law : Step σ ε ω → History σ ε ω → Prop) (st : Step σ ε ω)
    (h : History σ ε ω) : Always law (st :: h) ↔ law st h ∧ Always law h := Iff.rfl

@[simp] theorem since_nil (hold trigger : Step σ ε ω → Prop) : ¬Since hold trigger [] := id

@[simp] theorem since_cons (hold trigger : Step σ ε ω → Prop) (st : Step σ ε ω)
    (h : History σ ε ω) :
    Since hold trigger (st :: h) ↔ trigger st ∨ (hold st ∧ Since hold trigger h) := Iff.rfl

theorem Always.imp {law law' : Step σ ε ω → History σ ε ω → Prop}
    (hl : ∀ st h, law st h → law' st h) {h : History σ ε ω} (ha : Always law h) :
    Always law' h := by
  induction h with
  | nil => trivial
  | cons st h ih => exact ⟨hl st h ha.1, ih ha.2⟩

theorem Always.congr {law law' : Step σ ε ω → History σ ε ω → Prop} {h : History σ ε ω}
    (ha : Always (fun st past => law st past ↔ law' st past) h) : Always law h ↔ Always law' h := by
  induction h with
  | nil => exact Iff.rfl
  | cons st h ih =>
    rw [always_cons, always_cons, ih ha.2]
    exact and_congr_left' ha.1

theorem always_iff_each (law : Step σ ε ω → History σ ε ω → Prop) (h : History σ ε ω) :
    Always law h ↔ Each law h := by
  induction h with
  | nil => exact Iff.rfl
  | cons st h ih => exact and_congr_right' ih

/-- `Always` speaks about every way to cut a step out of the history. -/
theorem always_iff_split (law : Step σ ε ω → History σ ε ω → Prop) (h : History σ ε ω) :
    Always law h ↔ ∀ later st past, h = later ++ st :: past → law st past :=
  (always_iff_each law h).trans (each_iff_split law h)

/-- `Since` says where the trigger lies. -/
theorem since_iff_split (hold trigger : Step σ ε ω → Prop) (h : History σ ε ω) :
    Since hold trigger h ↔
      ∃ later st past, h = later ++ st :: past ∧ trigger st ∧ ∀ st' ∈ later, hold st' := by
  induction h with
  | nil => simp
  | cons st h ih =>
    rw [since_cons, ih]
    constructor
    · rintro (hst | ⟨hst, later, st', past, rfl, ht, hl⟩)
      · exact ⟨[], st, h, rfl, hst, by simp⟩
      · refine ⟨st :: later, st', past, rfl, ht, ?_⟩
        simpa using ⟨hst, hl⟩
    · rintro ⟨later, st', past, heq, ht, hl⟩
      cases later with
      | nil =>
        obtain ⟨rfl, rfl⟩ := List.cons.inj heq
        exact Or.inl ht
      | cons st'' later =>
        obtain ⟨rfl, rfl⟩ := List.cons.inj heq
        exact Or.inr ⟨hl st (by simp), later, st', past, rfl, ht,
          fun x hx => hl x (by simp [hx])⟩

/-! ## Rules -/

/-- What a run's steps all meet, as a law that ignores the past. -/
abbrev Steps (C : Step σ ε ω → Prop) : History σ ε ω → Prop := Always fun st _ => C st

/-- A relation between history and state that every step extends. -/
theorem Run.link {m : Machine σ ε ω} {C : Step σ ε ω → Prop}
    {R : History σ ε ω → σ → Prop} (h0 : R [] m.init)
    (hs : ∀ h s e, Run m h s → R h s → C (m.observe s e) →
      R (m.observe s e :: h) (m.step s e).2)
    {h : History σ ε ω} {s : σ} (hr : Run m h s) (hc : Steps C h) : R h s := by
  induction hr with
  | init => exact h0
  | step e hr ih => exact hs _ _ e hr (ih hc.2) hc.1

theorem Run.invariant_of_steps {m : Machine σ ε ω} {C : Step σ ε ω → Prop} {I : σ → Prop}
    (h0 : I m.init) (hs : ∀ s e, I s → C (m.observe s e) → I (m.step s e).2)
    {h : History σ ε ω} {s : σ} (hr : Run m h s) (hc : Steps C h) : I s :=
  Run.link (R := fun _ s => I s) h0 (fun _ s e _ hi hc => hs s e hi hc) hr hc

theorem steps_true (h : History σ ε ω) : Steps (fun _ => True) h := by
  induction h with
  | nil => trivial
  | cons st h ih => exact ⟨trivial, ih⟩

theorem Run.invariant {m : Machine σ ε ω} {I : σ → Prop} (h0 : I m.init)
    (hs : ∀ s e, I s → I (m.step s e).2) {h : History σ ε ω} {s : σ} (hr : Run m h s) :
    I s :=
  hr.invariant_of_steps (C := fun _ => True) h0 (fun s e hi _ => hs s e hi) (steps_true h)

/-- A law that each step obeys whenever history and state are linked holds of the whole run. -/
theorem Run.always_of_link {m : Machine σ ε ω} {C : Step σ ε ω → Prop}
    {R : History σ ε ω → σ → Prop} {law : Step σ ε ω → History σ ε ω → Prop}
    (h0 : R [] m.init)
    (hs : ∀ h s e, Run m h s → R h s → C (m.observe s e) →
      R (m.observe s e :: h) (m.step s e).2)
    (hl : ∀ h s e, Run m h s → R h s → C (m.observe s e) → law (m.observe s e) h)
    {h : History σ ε ω} {s : σ} (hr : Run m h s) (hc : Steps C h) : Always law h := by
  induction hr with
  | init => trivial
  | step e hr ih => exact ⟨hl _ _ e hr (hr.link h0 hs hc.2) hc.1, ih hc.2⟩

theorem Run.always_of_invariant {m : Machine σ ε ω} {I : σ → Prop}
    {law : Step σ ε ω → Prop} (h0 : I m.init) (hs : ∀ s e, I s → I (m.step s e).2)
    (hl : ∀ s e, I s → law (m.observe s e)) {h : History σ ε ω} {s : σ} (hr : Run m h s) :
    Steps law h :=
  hr.always_of_link (C := fun _ => True) (R := fun _ s => I s) h0
    (fun _ s e _ hi _ => hs s e hi) (fun _ s e _ hi _ => hl s e hi) (steps_true h)

/-- Two laws that agree wherever the past obeys the second agree on whole runs. -/
theorem Run.always_iff {m : Machine σ ε ω} {law cond : Step σ ε ω → History σ ε ω → Prop}
    (hs : ∀ h s e, Run m h s → Always cond h →
      (law (m.observe s e) h ↔ cond (m.observe s e) h))
    {h : History σ ε ω} {s : σ} (hr : Run m h s) : Always law h ↔ Always cond h := by
  induction hr with
  | init => exact Iff.rfl
  | step e hr ih =>
    rw [always_cons, always_cons, ih]
    constructor
    · rintro ⟨hl, hc⟩
      exact ⟨(hs _ _ e hr hc).mp hl, hc⟩
    · rintro ⟨hl, hc⟩
      exact ⟨(hs _ _ e hr hc).mpr hl, hc⟩

/-- `Run.link` under a law that looks back. -/
theorem Run.link_always {m : Machine σ ε ω} {cond : Step σ ε ω → History σ ε ω → Prop}
    {R : History σ ε ω → σ → Prop} (h0 : R [] m.init)
    (hs : ∀ h s e, R h s → cond (m.observe s e) h → R (m.observe s e :: h) (m.step s e).2)
    {h : History σ ε ω} {s : σ} (hr : Run m h s) (hc : Always cond h) : R h s := by
  induction hr with
  | init => exact h0
  | step e hr ih => exact hs _ _ e (ih hc.2) hc.1

/-- `Run.always_of_link` under a law that looks back. -/
theorem Run.always_of_link_always {m : Machine σ ε ω}
    {law cond : Step σ ε ω → History σ ε ω → Prop} {R : History σ ε ω → σ → Prop}
    (h0 : R [] m.init)
    (hs : ∀ h s e, R h s → cond (m.observe s e) h → R (m.observe s e :: h) (m.step s e).2)
    (hl : ∀ h s e, R h s → cond (m.observe s e) h → law (m.observe s e) h)
    {h : History σ ε ω} {s : σ} (hr : Run m h s) (hc : Always cond h) : Always law h := by
  induction hr with
  | init => trivial
  | step e hr ih => exact ⟨hl _ _ e (hr.link_always h0 hs hc.2) hc.1, ih hc.2⟩

/-- A state predicate that each step sets, keeps or drops is a `Since` over the history. -/
theorem Run.iff_since {m : Machine σ ε ω} {P : σ → Prop} {hold trigger : Step σ ε ω → Prop}
    (h0 : ¬P m.init)
    (hs : ∀ s e, P (m.step s e).2 ↔
      trigger (m.observe s e) ∨ (hold (m.observe s e) ∧ P s))
    {h : History σ ε ω} {s : σ} (hr : Run m h s) : P s ↔ Since hold trigger h := by
  induction hr with
  | init => exact iff_of_false h0 id
  | step e hr ih => rw [since_cons, hs, ih]

/-- What every step keeps but those that release it holds since it was last set. -/
theorem Run.holds_since {m : Machine σ ε ω} {P : σ → Prop} {releases : Step σ ε ω → Prop}
    (hs : ∀ s e, P s → P (m.step s e).2 ∨ releases (m.observe s e))
    {h : History σ ε ω} {s : σ} (hr : Run m h s)
    (hsince : Since (fun st => ¬releases st) (fun st => P st.after) h) : P s := by
  induction hr with
  | init => exact hsince.elim
  | step e hr ih =>
    rcases hsince with hset | ⟨hkept, hsince⟩
    · exact hset
    · exact (hs _ e (ih hsince)).resolve_right hkept

/-! ## Paths of allowed events -/

/-- From one state to another by events that are allowed in the states they meet. -/
def Machine.Path (m : Machine σ ε ω) (allowed : σ → ε → Prop) : σ → σ → Prop :=
  Relation.ReflTransGen fun s s' => ∃ e, allowed s e ∧ s' = (m.step s e).2

variable {m : Machine σ ε ω} {allowed : σ → ε → Prop}

theorem Machine.Path.refl (s : σ) : m.Path allowed s s := Relation.ReflTransGen.refl

theorem Machine.Path.one {s : σ} (e : ε) (h : allowed s e) : m.Path allowed s (m.step s e).2 :=
  Relation.ReflTransGen.single ⟨e, h, rfl⟩

theorem Machine.Path.trans {s t u : σ} (hst : m.Path allowed s t) (htu : m.Path allowed t u) :
    m.Path allowed s u :=
  Relation.ReflTransGen.trans hst htu

theorem Machine.Path.mono {allowed' : σ → ε → Prop} (ha : ∀ s e, allowed s e → allowed' s e)
    {s t : σ} (hp : m.Path allowed s t) : m.Path allowed' s t := by
  induction hp with
  | refl => exact Machine.Path.refl _
  | tail _ hstep ih =>
    obtain ⟨e, hallowed, rfl⟩ := hstep
    exact ih.trans (Machine.Path.one e (ha _ e hallowed))

theorem Machine.Path.keeps {I : σ → Prop} (hs : ∀ s e, allowed s e → I s → I (m.step s e).2)
    {s t : σ} (hp : m.Path allowed s t) (hi : I s) : I t := by
  induction hp with
  | refl => exact hi
  | tail _ hstep ih =>
    obtain ⟨e, hallowed, rfl⟩ := hstep
    exact hs _ e hallowed ih

theorem Machine.Path.reachable {s t : σ} (hp : m.Path allowed s t) (hr : Reachable m s) :
    Reachable m t :=
  hp.keeps (I := Reachable m) (fun _ e _ ⟨_, hrun⟩ => ⟨_, .step e hrun⟩) hr

end MineTeleop.Runs
