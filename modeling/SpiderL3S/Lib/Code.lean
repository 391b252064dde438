import Mathlib.Data.List.Basic

/- Code as a stack of statements, for any statements `S` and data `C`.
   `exec s c` performs statement `s` on the data `c` and returns the statements
   it puts in front of what is left to do, so a call, a branch and one turn of a
   loop are all a list of statements. `Finishes exec c code c'` says that `code`,
   run alone from `c`, runs to its end and leaves `c'`: it is the run of a piece
   of code that nothing interrupts. The rules below follow such a run statement
   by statement, and `runAlone` computes one. `Only p` is code whose statements
   all pass a test, so that one lemma about a statement that passes holds for all
   of the code. -/
namespace Code

variable {C S : Type*}

/-- Running `code` alone from the data `c` comes to its end, with data `c'`. -/
inductive Finishes (exec : S → C → C × List S) : C → List S → C → Prop where
  | nil (c : C) : Finishes exec c [] c
  | cons {c c' : C} {s : S} {rest : List S} :
      Finishes exec (exec s c).1 ((exec s c).2 ++ rest) c' → Finishes exec c (s :: rest) c'

namespace Finishes
variable {exec : S → C → C × List S}

theorem cons_iff {c c' : C} {s : S} {rest : List S} :
    Finishes exec c (s :: rest) c' ↔ Finishes exec (exec s c).1 ((exec s c).2 ++ rest) c' := by
  constructor
  · intro h
    cases h with
    | cons h => exact h
  · exact .cons

/-- Code that is left with nothing to do has done nothing. -/
theorem nil_inv {c c' : C} (h : Finishes exec c [] c') : c' = c := by
  cases h; rfl

theorem nil_iff {c c' : C} : Finishes exec c [] c' ↔ c' = c := by
  constructor
  · exact nil_inv
  · intro h
    subst h
    exact .nil c'

/-- A statement that puts itself back unchanged is a dead loop. -/
theorem not_of_loop {c c' : C} {s : S} {rest : List S} (he : exec s c = (c, [s])) :
    ¬ Finishes exec c (s :: rest) c' := by
  intro h
  generalize hcode : s :: rest = code at h
  induction h with
  | nil c => cases hcode
  | cons h ih =>
    obtain ⟨rfl, rfl⟩ := List.cons.inj hcode
    exact ih (by rw [he]; exact he) (by rw [he]; rfl)

end Finishes

/-- At most `n` statements of `code`, run alone. -/
def runAlone (exec : S → C → C × List S) : Nat → C → List S → C × List S
  | 0, c, code => (c, code)
  | _ + 1, c, [] => (c, [])
  | n + 1, c, s :: rest => runAlone exec n (exec s c).1 ((exec s c).2 ++ rest)

/-- A run to the end can be computed. -/
theorem finishes_of_runAlone {exec : S → C → C × List S} (n : Nat) {c c' : C} {code : List S}
    (h : runAlone exec n c code = (c', [])) : Finishes exec c code c' := by
  induction n generalizing c code with
  | zero =>
    obtain ⟨rfl, rfl⟩ := Prod.mk.inj h
    exact .nil c
  | succ n ih =>
    cases code with
    | nil =>
      obtain ⟨rfl, -⟩ := Prod.mk.inj h
      exact .nil c
    | cons s rest => exact .cons (ih h)

/-! Code made only of statements that pass a test. -/

/-- Every statement of the code passes `p`. -/
def Only (p : S → Bool) (code : List S) : Prop := code.all p = true

namespace Only
variable {p q : S → Bool}

theorem nil : Only p [] := rfl

theorem cons_iff {s : S} {rest : List S} : Only p (s :: rest) ↔ p s = true ∧ Only p rest := by
  rw [Only, List.all_cons, Bool.and_eq_true]
  rfl

theorem append {a b : List S} (ha : Only p a) (hb : Only p b) : Only p (a ++ b) := by
  rw [Only, List.all_append, Bool.and_eq_true]
  exact ⟨ha, hb⟩

theorem mem {s : S} {code : List S} (h : Only p code) (hs : s ∈ code) : p s = true :=
  List.all_eq_true.mp h s hs

theorem mono {code : List S} (h : Only p code) (hpq : ∀ s, p s = true → q s = true) :
    Only q code :=
  List.all_eq_true.mpr fun s hs => hpq s (h.mem hs)

theorem flatMap {A : Type*} {f : A → List S} (l : List A) (h : ∀ a, Only p (f a)) :
    Only p (l.flatMap f) := by
  apply List.all_eq_true.mpr
  intro s hs
  obtain ⟨a, -, ha⟩ := List.mem_flatMap.mp hs
  exact (h a).mem ha

end Only

end Code
