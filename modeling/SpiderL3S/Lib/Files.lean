import SpiderL3S.Lib.Runs
import Mathlib.Data.List.GetD
import Mathlib.Logic.Function.Basic

/- Files, under any names and of any items. A `Store` has an item at every offset of every
   file. A write stands until something is written over it: what a run leaves alone is
   read at its end as it was at its start (`read_eq_of_run`), what was written is what is
   read (`got_of_run`), and writes one behind the other are one write (`write_append`). -/
namespace Files

open Runs

variable {κ β : Type*}

/-- An item at every offset of every file. -/
abbrev Store (κ β : Type*) := κ → Nat → β

/-- The `n` items from `p` on. -/
def read (s : Store κ β) (k : κ) (p n : Nat) : List β := (List.range n).map fun i => s k (p + i)

section
variable {s t : Store κ β} {k : κ} {p n : Nat}

theorem read_length : (read s k p n).length = n := by
  rw [read, List.length_map, List.length_range]

theorem read_append (m : Nat) : read s k p n ++ read s k (p + n) m = read s k p (n + m) := by
  simp only [read, List.range_add, List.map_append, List.map_map, Function.comp_def, Nat.add_assoc]

theorem read_take {m : Nat} (h : m ≤ n) : read s k p m = (read s k p n).take m := by
  rw [read, read, ← List.map_take, List.take_range, Nat.min_eq_left h]

theorem read_congr (h : ∀ i, i < n → t k (p + i) = s k (p + i)) : read t k p n = read s k p n := by
  apply List.map_congr_left
  intro i hi
  exact h i (List.mem_range.mp hi)

end

section
variable [DecidableEq κ]

/-- The items `bs` from `p` on, and everything else as it is. -/
def write (s : Store κ β) (k : κ) (p : Nat) (bs : List β) : Store κ β :=
  Function.update s k fun i => if p ≤ i then bs.getD (i - p) (s k i) else s k i

/-- What is done to the files. -/
inductive Op (κ β : Type*) where
  | wrote (k : κ) (p : Nat) (bs : List β)
  | spoilt (k : κ)
  | got (k : κ) (p : Nat) (bs : List β)
  | failed

/-- A write that is spoilt leaves its own file as it may. -/
inductive Step (s : Store κ β) : Op κ β → Store κ β → Prop
  | wrote (k : κ) (p : Nat) (bs : List β) : Step s (.wrote k p bs) (write s k p bs)
  | spoilt {k : κ} {t : Store κ β} (hother : ∀ j, j ≠ k → t j = s j) : Step s (.spoilt k) t
  | got (k : κ) (p n : Nat) : Step s (.got k p (read s k p n)) s
  | failed : Step s .failed s

/-- It does nothing to the `n` items from `p` on. -/
def Op.Spares (k : κ) (p n : Nat) : Op κ β → Prop
  | wrote j q bs => j ≠ k ∨ q + bs.length ≤ p ∨ p + n ≤ q
  | spoilt j => j ≠ k
  | _ => True

variable {s t : Store κ β} {k j : κ} {p q n : Nat} {bs cs : List β}

/-- A file to which nothing is written is as it was. -/
theorem write_other (h : j ≠ k) : write s k p bs j = s j := Function.update_of_ne h _ _

theorem write_at (i : Nat) :
    write s k p bs k i = if p ≤ i then bs.getD (i - p) (s k i) else s k i := by
  rw [write, Function.update_self]

theorem write_nil : write s k p [] = s := by
  funext j
  by_cases hkey : j = k
  · subst hkey
    funext i
    rw [write_at]
    split <;> rfl
  · exact write_other hkey

/-- **What is written is read.** -/
theorem read_write : read (write s k p bs) k p bs.length = bs := by
  apply List.ext_getElem read_length
  intro i _ hi
  simp only [read, List.getElem_map, List.getElem_range]
  rw [write_at, if_pos (Nat.le_add_right p i), Nat.add_sub_cancel_left, List.getD_eq_getElem _ _ hi]

/-- Elsewhere nothing has changed. -/
theorem read_write_apart (h : j ≠ k ∨ p + bs.length ≤ q ∨ q + n ≤ p) :
    read (write s k p bs) j q n = read s j q n := by
  apply read_congr
  intro i hi
  by_cases hkey : j = k
  · subst hkey
    have hapart := h.resolve_left (not_not_intro rfl)
    rw [write_at]
    split
    · rw [List.getD_eq_default]
      omega
    · rfl
  · rw [write_other hkey]

/-- **Writes one behind the other** are one write. -/
theorem write_append : write (write s k p bs) k (p + bs.length) cs = write s k p (bs ++ cs) := by
  funext j
  by_cases hkey : j = k
  · subst hkey
    funext i
    rw [write_at, write_at, write_at]
    by_cases hi : p ≤ i
    · by_cases hfar : p + bs.length ≤ i
      · rw [if_pos hfar, if_pos hi, if_pos hi, List.getD_append_right _ _ _ _ (by omega),
          List.getD_eq_default _ _ (by omega : bs.length ≤ i - p), Nat.sub_sub]
      · rw [if_neg hfar, if_pos hi, if_pos hi, List.getD_append _ _ _ _ (by omega)]
    · rw [if_neg (by omega), if_neg hi, if_neg hi]
  · rw [write_other hkey, write_other hkey, write_other hkey]

/-- One step leaves alone what it spares. -/
theorem Step.read_eq {op : Op κ β} (h : Step s op t) (hspares : op.Spares k p n) :
    read t k p n = read s k p n := by
  cases h with
  | wrote j q bs => exact read_write_apart (hspares.imp_left Ne.symm)
  | spoilt hother =>
    apply read_congr
    intro i _
    rw [hother k (Ne.symm hspares)]
  | got j q m => rfl
  | failed => rfl

/-- **And so does a run.** -/
theorem read_eq_of_run {ops : List (Op κ β)} (h : Run Step s ops t)
    (hspares : ∀ op ∈ ops, op.Spares k p n) : read t k p n = read s k p n := by
  apply h.invariant (P := fun u => read u k p n = read s k p n) rfl
  intro a op b hop ha hstep
  exact (hstep.read_eq (hspares op hop)).trans ha

/-- **What was written is read**, as long as nothing has been done to it in between. -/
theorem got_of_run {ops : List (Op κ β)}
    (h : Run Step s (.wrote k p bs :: (ops ++ [.got k p cs])) t)
    (hspares : ∀ op ∈ ops, op.Spares k p bs.length) (hlength : cs.length = bs.length) : cs = bs := by
  cases h with
  | cons hwrote hrest =>
    cases hwrote with
    | wrote =>
      obtain ⟨u, hbetween, hlast⟩ := hrest.of_append
      cases hlast with
      | cons hgot _ =>
        cases hgot with
        | got k p n =>
          rw [read_length] at hlength
          rw [hlength, read_eq_of_run hbetween hspares, read_write]

end

end Files
