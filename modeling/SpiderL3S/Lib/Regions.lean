import Mathlib.Data.List.TakeDrop

/- Regions of a list, over any elements. A region is a start and a length;
   `Placed whole p part` says that `part` is in `whole` from position `p` on. The
   pieces of a concatenation are placed where the pieces in front of them end
   (`placed_flatMap`), and what is placed is what reading its region gives
   (`Placed.read`). -/
namespace Regions

variable {α β : Type*}

structure Region where
  start : Nat
  length : Nat
  deriving DecidableEq, Repr

/-- What is in the region. -/
def Region.read (r : Region) (whole : List α) : List α := (whole.drop r.start).take r.length

/-- The region ends where the list does, or before. -/
def Region.Within (r : Region) (n : Nat) : Prop := r.start + r.length ≤ n

/-- The regions have no position in common. -/
def Region.Apart (r q : Region) : Prop :=
  r.start + r.length ≤ q.start ∨ q.start + q.length ≤ r.start

def Placed (whole : List α) (p : Nat) (part : List α) : Prop :=
  ∃ front back, whole = front ++ (part ++ back) ∧ front.length = p

theorem Placed.read {whole part : List α} {p : Nat} (h : Placed whole p part) :
    Region.read ⟨p, part.length⟩ whole = part := by
  obtain ⟨front, back, rfl, rfl⟩ := h
  show ((front ++ (part ++ back)).drop front.length).take part.length = part
  rw [List.drop_left, List.take_left]

theorem Placed.within {whole part : List α} {p : Nat} (h : Placed whole p part) :
    Region.Within ⟨p, part.length⟩ whole.length := by
  obtain ⟨front, back, rfl, rfl⟩ := h
  show front.length + part.length ≤ _
  rw [List.length_append, List.length_append]
  omega

theorem Placed.take {whole part : List α} {p : Nat} (h : Placed whole p part) (n : Nat) :
    Placed whole p (part.take n) := by
  obtain ⟨front, back, rfl, rfl⟩ := h
  refine ⟨front, part.drop n ++ back, ?_, rfl⟩
  rw [← List.append_assoc (part.take n), List.take_append_drop]

/-- A piece of a concatenation is behind the pieces in front of it. -/
theorem placed_flatMap (f : β → List α) {pieces : List β} {i : Nat} {piece : β}
    (h : pieces[i]? = some piece) :
    Placed (pieces.flatMap f) ((pieces.take i).flatMap f).length (f piece) := by
  obtain ⟨hi, rfl⟩ := List.getElem?_eq_some_iff.mp h
  refine ⟨(pieces.take i).flatMap f, (pieces.drop (i + 1)).flatMap f, ?_, rfl⟩
  calc pieces.flatMap f = (pieces.take i ++ pieces.drop i).flatMap f := by
        rw [List.take_append_drop]
    _ = (pieces.take i).flatMap f ++ (pieces[i] :: pieces.drop (i + 1)).flatMap f := by
        rw [List.flatMap_append, List.drop_eq_getElem_cons hi]
    _ = _ := by rw [List.flatMap_cons]

end Regions
