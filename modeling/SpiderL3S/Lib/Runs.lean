import Mathlib.Logic.Basic

/- Labelled transition systems, for any states and labels. `Run step s ls t`
   is a finite run from `s` to `t` whose steps carry the labels `ls`. The rules
   turn a fact about one step into a fact about a whole run; the step comes with
   the knowledge that its label is one of the run's. `guarded ok step` is the
   system with the steps that `ok` allows: a run of the system stays in it, or it
   leaves it at a step, and what holds behind that step and persists holds at
   the end. An observer reads the steps of a run and keeps a value of its own:
   `watch` is the system that carries it. Where the next state is a function of
   the label, `follow` computes the run. -/
namespace Runs

variable {σ ι ω : Type*}

/-- A finite run, one label for each step. -/
inductive Run (step : σ → ι → σ → Prop) : σ → List ι → σ → Prop where
  | nil (s : σ) : Run step s [] s
  | cons {s t u : σ} {l : ι} {ls : List ι} :
      step s l t → Run step t ls u → Run step s (l :: ls) u

/-- The steps of a system that a predicate on the state and the label allows. -/
def guarded (ok : σ → ι → Prop) (step : σ → ι → σ → Prop) : σ → ι → σ → Prop :=
  fun s l t => ok s l ∧ step s l t

/-- The system together with an observer of its steps. -/
def watch (step : σ → ι → σ → Prop) (obs : ω → σ → ι → σ → ω) :
    σ × ω → ι → σ × ω → Prop :=
  fun s l t => step s.1 l t.1 ∧ t.2 = obs s.2 s.1 l t.1

/-- The state a list of labels leads to, in a system given by a function. -/
def follow (next : σ → ι → Option σ) : σ → List ι → Option σ
  | s, [] => some s
  | s, l :: ls => (next s l).bind fun t => follow next t ls

/-- The same with an observer and a guard. -/
def guardedNext (ok : σ × ω → ι → Prop) [∀ s, DecidablePred (ok s)] (next : σ → ι → Option σ)
    (obs : ω → σ → ι → σ → ω) (s : σ × ω) (l : ι) : Option (σ × ω) :=
  if ok s l then (next s.1 l).map fun t => (t, obs s.2 s.1 l t) else none

section
variable {step step' : σ → ι → σ → Prop} {P Q : σ → Prop} {s t u : σ} {ls ks : List ι}

/-- **Invariant rule.** What holds at the start and is preserved by every step
holds at the end of every run. -/
theorem Run.invariant (h : Run step s ls t) (h0 : P s)
    (hstep : ∀ a l b, l ∈ ls → P a → step a l b → P b) : P t := by
  induction h with
  | nil s => exact h0
  | cons hs _ ih =>
    apply ih (hstep _ _ _ List.mem_cons_self h0 hs)
    intro a l b hl
    exact hstep a l b (List.mem_cons_of_mem _ hl)

theorem Run.append (h : Run step s ls t) (h' : Run step t ks u) : Run step s (ls ++ ks) u := by
  induction h with
  | nil s => exact h'
  | cons hs _ ih => exact .cons hs (ih h')

/-- A run comes by every place of its labels. -/
theorem Run.of_append (h : Run step s (ls ++ ks) u) : ∃ t, Run step s ls t ∧ Run step t ks u := by
  induction ls generalizing s with
  | nil => exact ⟨s, .nil s, h⟩
  | cons l ls ih =>
    cases h with
    | cons hs hrest =>
      obtain ⟨t, hfirst, hlast⟩ := ih hrest
      exact ⟨t, .cons hs hfirst, hlast⟩

theorem Run.single {l : ι} (h : step s l t) : Run step s [l] t := .cons h (.nil t)

/-- A run whose steps are steps of another system is a run of it. -/
theorem Run.mono (h : Run step s ls t) (hsub : ∀ a l b, l ∈ ls → step a l b → step' a l b) :
    Run step' s ls t := by
  induction h with
  | nil s => exact .nil s
  | cons hs _ ih =>
    apply Run.cons (hsub _ _ _ List.mem_cons_self hs)
    apply ih
    intro a l b hl
    exact hsub a l b (List.mem_cons_of_mem _ hl)

/-- **Guard rule.** Under an invariant of the guarded steps, a run keeps to the
guard, or a step outside it brings about what then holds to the end. -/
theorem Run.guarded_or {ok : σ → ι → Prop} (h : Run step s ls t) (h0 : P s)
    (hstep : ∀ a l b, l ∈ ls → P a → ok a l → step a l b → P b)
    (hbad : ∀ a l b, l ∈ ls → P a → ¬ ok a l → step a l b → Q b)
    (hlast : ∀ a l b, Q a → step a l b → Q b) : Run (guarded ok step) s ls t ∨ Q t := by
  induction h with
  | nil s => exact .inl (.nil s)
  | @cons s u t l ls hs hrest ih =>
    by_cases hok : ok s l
    · have hnext := ih (hstep s l u List.mem_cons_self h0 hok hs)
        (fun a k b hk => hstep a k b (List.mem_cons_of_mem l hk))
        (fun a k b hk => hbad a k b (List.mem_cons_of_mem l hk))
      exact hnext.imp_left fun hguarded => .cons ⟨hok, hs⟩ hguarded
    · right
      apply hrest.invariant (hbad s l u List.mem_cons_self h0 hok hs)
      intro a k b _
      exact hlast a k b

/-- **Exact guard for a demand.** Where an invariant of the guarded steps says that
a step does what is demanded of it exactly if the guard allows it, the runs that
do so throughout are the guarded ones. -/
theorem Run.demand_iff {D : σ → ι → σ → Prop} {ok : σ → ι → Prop} (h0 : P s)
    (hkeep : ∀ a l b, P a → ok a l → step a l b → P b)
    (hstep : ∀ a l b, P a → step a l b → (D a l b ↔ ok a l)) :
    Run (fun a l b => step a l b ∧ D a l b) s ls t ↔ Run (guarded ok step) s ls t := by
  constructor
  · intro h
    induction h with
    | nil s => exact .nil s
    | @cons s u t l ls hs _ ih =>
      have hok : ok s l := (hstep s l u h0 hs.1).mp hs.2
      exact .cons ⟨hok, hs.1⟩ (ih (hkeep s l u h0 hok hs.1))
  · intro h
    induction h with
    | nil s => exact .nil s
    | @cons s u t l ls hs _ ih =>
      have hmet : D s l u := (hstep s l u h0 hs.2).mpr hs.1
      exact .cons ⟨hs.2, hmet⟩ (ih (hkeep s l u h0 hs.1 hs.2))

/-- **Exact guard.** Where a step keeps a property exactly if the guard allows
it, the runs that keep the property throughout are the guarded ones. -/
theorem Run.kept_iff {ok : σ → ι → Prop}
    (h0 : P s) (hstep : ∀ a l b, P a → step a l b → (P b ↔ ok a l)) :
    Run (fun a l b => step a l b ∧ P b) s ls t ↔ Run (guarded ok step) s ls t := by
  apply Run.demand_iff (P := P) h0
  · intro a l b ha hok hs
    exact (hstep a l b ha hs).mpr hok
  · exact hstep

/-- Forgetting the observer gives a run of the system. -/
theorem Run.forget {obs : ω → σ → ι → σ → ω} {s t : σ × ω}
    (h : Run (watch step obs) s ls t) : Run step s.1 ls t.1 := by
  induction h with
  | nil s => exact .nil s.1
  | cons hs _ ih => exact .cons hs.1 ih

theorem Run.of_follow {next : σ → ι → Option σ} {s t : σ} {ls : List ι}
    (h : follow next s ls = some t) : Run (fun a l b => next a l = some b) s ls t := by
  induction ls generalizing s with
  | nil =>
    cases h
    exact .nil _
  | cons l ls ih =>
    obtain ⟨u, hu, h⟩ := Option.bind_eq_some_iff.mp h
    exact .cons hu (ih h)

theorem Run.of_follow_guarded {ok : σ × ω → ι → Prop} [∀ s, DecidablePred (ok s)]
    {next : σ → ι → Option σ} {obs : ω → σ → ι → σ → ω} {s t : σ × ω} {ls : List ι}
    (h : follow (guardedNext ok next obs) s ls = some t) :
    Run (guarded ok (watch (fun a l b => next a l = some b) obs)) s ls t := by
  apply (Run.of_follow h).mono
  intro a l b _ hnext
  unfold guardedNext at hnext
  split at hnext
  · next hok =>
    obtain ⟨u, hu, rfl⟩ := Option.map_eq_some_iff.mp hnext
    exact ⟨hok, hu, rfl⟩
  · cases hnext

/-- A run that is computed, with a guard alone. -/
theorem Run.of_follow_allowed {ok : σ → ι → Prop} [∀ s, DecidablePred (ok s)]
    {next : σ → ι → Option σ} {s t : σ} {ls : List ι}
    (h : follow (fun s l => if ok s l then next s l else none) s ls = some t) :
    Run (guarded ok (fun a l b => next a l = some b)) s ls t := by
  apply (Run.of_follow h).mono
  intro a l b _ hnext
  split at hnext
  · next hok => exact ⟨hok, hnext⟩
  · cases hnext

end

end Runs
