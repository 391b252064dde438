import Mathlib.Data.List.DropRight
import Mathlib.Data.List.Infix

/- The window of a sliding buffer, for any items. A buffer of `n` cells that is
   filled with `pad` at first and shifts by one for every item of a stream `s`
   holds `last pad n s`: the last `n` items of the stream, with padding on their
   left while it is short. The rules say how the window moves, how windows of
   different widths lie in each other, and that what can be found in a window
   can be found in the stream. -/
namespace Window

variable {α : Type*} {pad x : α} {n : Nat} {s t : List α}

/-- What the buffer holds after the stream `s`. -/
def last (pad : α) (n : Nat) (s : List α) : List α := (List.replicate n pad ++ s).rtake n

theorem rtake_append_of_le {a l : List α} (h : n ≤ l.length) : (a ++ l).rtake n = l.rtake n := by
  unfold List.rtake
  rw [List.length_append, List.drop_append, List.drop_eq_nil_of_le (by omega), List.nil_append]
  congr 1
  omega

@[simp] theorem last_length : (last pad n s).length = n := by
  simp only [last, List.rtake, List.length_drop, List.length_append, List.length_replicate]
  omega

@[simp] theorem last_nil : last pad n [] = List.replicate n pad := by
  simp [last, List.rtake]

/-- More padding in front changes nothing. -/
theorem last_eq_rtake {m : Nat} (h : n ≤ m) :
    last pad n s = (List.replicate m pad ++ s).rtake n := by
  obtain ⟨k, rfl⟩ := Nat.exists_eq_add_of_le' h
  rw [List.replicate_add, List.append_assoc, rtake_append_of_le (by simp)]
  rfl

/-- A new item stands behind the narrower window. -/
theorem last_snoc : last pad (n + 1) (s ++ [x]) = last pad n s ++ [x] := by
  rw [last_eq_rtake (Nat.le_succ n), last, ← List.append_assoc, List.rtake_concat_succ]

/-- A window without its oldest item is the narrower window. -/
theorem drop_last : (last pad (n + 1) s).drop 1 = last pad n s := by
  rw [last_eq_rtake (Nat.le_succ n), last]
  unfold List.rtake
  rw [List.drop_drop]
  congr 1
  simp only [List.length_append, List.length_replicate]
  omega

/-- The window moves by one: its oldest item goes and the new one comes. -/
theorem last_shift : last pad n (s ++ [x]) = (last pad n s ++ [x]).drop 1 := by
  rw [← last_snoc, drop_last]

theorem last_of_length_le (h : s.length ≤ n) :
    last pad n s = List.replicate (n - s.length) pad ++ s := by
  unfold last List.rtake
  rw [List.drop_append_of_le_length (by simp; omega), List.drop_replicate]
  congr 2
  simp only [List.length_append, List.length_replicate]
  omega

/-- An end of the window that does not begin with padding is an end of the
stream. -/
theorem suffix_of_suffix_last (ht : ∀ y ∈ t.head?, y ≠ pad) (h : t <:+ last pad n s) : t <:+ s := by
  have hsuffix : last pad n s <:+ List.replicate n pad ++ s := List.drop_suffix _ _
  obtain ⟨p, hp⟩ := h.trans hsuffix
  rcases List.append_eq_append_iff.mp hp with ⟨c, hrep, hrest⟩ | ⟨c, -, hs⟩
  · cases c with
    | nil => exact ⟨[], by simpa using hrest⟩
    | cons z c =>
      -- the first item would be padding
      have hz : z ∈ List.replicate n pad := by rw [hrep]; simp
      exact absurd (List.eq_of_mem_replicate hz) (ht z (by rw [hrest]; rfl))
  · exact ⟨c, hs.symm⟩

/-- A full window that does not begin with padding is the end of the stream. -/
theorem last_eq_iff_suffix (hlen : t.length = n) (hpad : ∀ y ∈ t.head?, y ≠ pad) :
    last pad n s = t ↔ t <:+ s := by
  refine ⟨?_, ?_⟩
  · intro h
    exact suffix_of_suffix_last hpad (by rw [h])
  · intro ⟨p, hp⟩
    rw [← hp, last, ← List.append_assoc, rtake_append_of_le (by omega), List.rtake, hlen, Nat.sub_self,
      List.drop_zero]

/-- What is found in a window is found in the stream, if it does not begin with
padding. -/
theorem infix_of_infix_last {u : List α} (hne : t ≠ []) (ht : ∀ y ∈ t.head?, y ≠ pad)
    (h : t <:+: u) (hu : u <:+: last pad n s) : t <:+: s := by
  obtain ⟨p, q, hpq⟩ := h.trans hu
  have hend : t ++ q <:+ last pad n s := ⟨p, by rw [← List.append_assoc, hpq]⟩
  have hhead : ∀ y ∈ (t ++ q).head?, y ≠ pad := by
    cases t with
    | nil => exact absurd rfl hne
    | cons y t => exact ht
  exact (List.prefix_append t q).isInfix.trans (suffix_of_suffix_last hhead hend).isInfix

end Window
