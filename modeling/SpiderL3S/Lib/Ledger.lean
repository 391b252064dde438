import Mathlib.Data.Multiset.Filter
import Mathlib.Data.Multiset.AddSub

/- A ledger of resources: entries say in which order resources were acquired and
   released, and `outstanding` is what is acquired and not yet released. The same
   resource may be acquired twice, so it is a multiset. A ledger is `Covered` if
   every release is of a resource that is outstanding, and `Fresh` if nothing is
   acquired that is. Under both, a resource is acquired again between any two
   releases of it (`acquired_between`). -/
namespace Ledger

variable {ρ : Type*} [DecidableEq ρ]

inductive Entry (ρ : Type*) where
  | acquired (r : ρ)
  | released (r : ρ)
  deriving DecidableEq

/-- What is outstanding behind the entries, from what is in front of them. -/
def outstanding : Multiset ρ → List (Entry ρ) → Multiset ρ
  | held, [] => held
  | held, .acquired r :: es => outstanding (r ::ₘ held) es
  | held, .released r :: es => outstanding (held.erase r) es

/-- Every release is of a resource that is outstanding. -/
def Covered : Multiset ρ → List (Entry ρ) → Prop
  | _, [] => True
  | held, .acquired r :: es => Covered (r ::ₘ held) es
  | held, .released r :: es => r ∈ held ∧ Covered (held.erase r) es

/-- Nothing is acquired that is outstanding. -/
def Fresh : Multiset ρ → List (Entry ρ) → Prop
  | _, [] => True
  | held, .acquired r :: es => r ∉ held ∧ Fresh (r ::ₘ held) es
  | held, .released r :: es => Fresh (held.erase r) es

/-! Ledgers one behind the other. -/

theorem outstanding_append (held : Multiset ρ) (es fs : List (Entry ρ)) :
    outstanding held (es ++ fs) = outstanding (outstanding held es) fs := by
  induction es generalizing held with
  | nil => rfl
  | cons e es ih =>
    cases e with
    | acquired r => exact ih (r ::ₘ held)
    | released r => exact ih (held.erase r)

theorem covered_append {held : Multiset ρ} {es fs : List (Entry ρ)} :
    Covered held (es ++ fs) ↔ Covered held es ∧ Covered (outstanding held es) fs := by
  induction es generalizing held with
  | nil => exact (iff_of_eq (true_and _)).symm
  | cons e es ih =>
    cases e with
    | acquired r => exact ih
    | released r =>
      show r ∈ held ∧ Covered (held.erase r) (es ++ fs) ↔ _
      rw [ih, ← and_assoc]
      rfl

theorem fresh_append {held : Multiset ρ} {es fs : List (Entry ρ)} :
    Fresh held (es ++ fs) ↔ Fresh held es ∧ Fresh (outstanding held es) fs := by
  induction es generalizing held with
  | nil => exact (iff_of_eq (true_and _)).symm
  | cons e es ih =>
    cases e with
    | acquired r =>
      show r ∉ held ∧ Fresh (r ::ₘ held) (es ++ fs) ↔ _
      rw [ih, ← and_assoc]
      rfl
    | released r => exact ih

/-! What the entries leave. -/

/-- A fresh ledger never has a resource outstanding twice. -/
theorem Fresh.nodup {held : Multiset ρ} {es : List (Entry ρ)} (h : Fresh held es)
    (hheld : held.Nodup) : (outstanding held es).Nodup := by
  induction es generalizing held with
  | nil => exact hheld
  | cons e es ih =>
    cases e with
    | acquired r =>
      apply ih h.2
      exact Multiset.nodup_cons.mpr ⟨h.1, hheld⟩
    | released r =>
      apply ih h
      exact hheld.erase r

/-- What is outstanding was so in front, or has been acquired. -/
theorem mem_outstanding {held : Multiset ρ} {es : List (Entry ρ)} {r : ρ}
    (h : r ∈ outstanding held es) : r ∈ held ∨ .acquired r ∈ es := by
  induction es generalizing held with
  | nil => exact .inl h
  | cons e es ih =>
    cases e with
    | acquired q =>
      rcases ih h with hfront | hes
      · rcases Multiset.mem_cons.mp hfront with rfl | hheld
        · exact .inr List.mem_cons_self
        · exact .inl hheld
      · exact .inr (List.mem_cons_of_mem _ hes)
    | released q =>
      rcases ih h with hfront | hes
      · exact .inl (Multiset.mem_of_mem_erase hfront)
      · exact .inr (List.mem_cons_of_mem _ hes)

/-- **No resource is released twice.** Between two releases of a resource it is
acquired again. -/
theorem acquired_between {pre mid post : List (Entry ρ)} {r : ρ}
    (hcovered : Covered 0 (pre ++ .released r :: (mid ++ .released r :: post)))
    (hfresh : Fresh 0 (pre ++ .released r :: (mid ++ .released r :: post))) :
    .acquired r ∈ mid := by
  obtain ⟨-, -, hcovered⟩ := covered_append.mp hcovered
  obtain ⟨hpre, -⟩ := fresh_append.mp hfresh
  obtain ⟨-, hcovered⟩ := covered_append.mp hcovered
  have hagain : r ∈ outstanding ((outstanding 0 pre).erase r) mid := hcovered.1
  -- the first release has taken away the only one
  have honly : r ∉ (outstanding 0 pre).erase r := (hpre.nodup Multiset.nodup_zero).notMem_erase
  exact (mem_outstanding hagain).resolve_left honly

end Ledger
