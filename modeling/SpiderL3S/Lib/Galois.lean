import Mathlib.Data.List.Basic

/- Bytes as the field of 256 elements. A byte is a polynomial over the field of two
   elements, bit `i` the coefficient of the power `i`; addition is `^^^`, and a product is
   reduced by `x^8 + x^4 + x^3 + x + 1`. It is taken bit by bit from the highest on, with
   a multiplication by `x` between two bits (`mul`). The laws of a commutative ring come
   from two facts: multiplication by `x` is additive, and it can be taken inside
   (`xtime_mul`). By them an inverse is the only one (`inv_eq_of_mul_eq_one`), so a table
   of inverses needs one product for each byte to be checked. What holds of every byte
   can be decided byte by byte (`forall_byte`). -/
namespace Galois

/-- Multiplication by `x`. -/
def xtime (b : UInt8) : UInt8 := (b <<< 1) ^^^ (if b.toBitVec.msb then 0x1B else 0)

/-- The product of `a` with the `n` highest bits of `b`. -/
def mulBits (a b : UInt8) : Nat → UInt8
  | 0 => 0
  | n + 1 => xtime (mulBits a b n) ^^^ (if b.toBitVec.getLsbD (7 - n) then a else 0)

def mul (a b : UInt8) : UInt8 := mulBits a b 8

/-- The byte whose product with `a` is 1; 0 where there is none. -/
def inv (a : UInt8) : UInt8 :=
  (((List.range 256).map UInt8.ofNat).find? fun c => mul a c = 1).getD 0

theorem forall_byte {p : UInt8 → Prop} (h : ∀ n < 256, p (UInt8.ofNat n)) (b : UInt8) : p b :=
  UInt8.ofNat_toNat (x := b) ▸ h b.toNat b.toNat_lt

/-! Addition. -/

theorem xor_left_comm (a b c : UInt8) : a ^^^ (b ^^^ c) = b ^^^ (a ^^^ c) := by
  rw [← UInt8.xor_assoc, UInt8.xor_comm a, UInt8.xor_assoc]

@[simp] theorem xor_cancel_left (a b : UInt8) : a ^^^ (a ^^^ b) = b := by
  rw [← UInt8.xor_assoc, UInt8.xor_self, UInt8.zero_xor]

theorem xor_xor_xor_comm (a b c d : UInt8) : (a ^^^ b) ^^^ (c ^^^ d) = (a ^^^ c) ^^^ (b ^^^ d) := by
  rw [UInt8.xor_assoc, UInt8.xor_assoc, xor_left_comm b]

/-! Multiplication. -/

theorem xtime_zero : xtime 0 = 0 := by decide

theorem xtime_xor (a b : UInt8) : xtime (a ^^^ b) = xtime a ^^^ xtime b := by
  unfold xtime
  rw [UInt8.shiftLeft_xor, UInt8.toBitVec_xor, BitVec.msb_xor, xor_xor_xor_comm]
  cases a.toBitVec.msb <;> cases b.toBitVec.msb <;> simp

theorem mulBits_xor (a a' b : UInt8) (n : Nat) :
    mulBits (a ^^^ a') b n = mulBits a b n ^^^ mulBits a' b n := by
  induction n with
  | zero => exact UInt8.xor_self.symm
  | succ n ih =>
    rw [mulBits, mulBits, mulBits, ih, xtime_xor, xor_xor_xor_comm]
    cases b.toBitVec.getLsbD (7 - n) <;> simp

/-- The product is additive in its first factor. -/
theorem xor_mul (a a' b : UInt8) : mul (a ^^^ a') b = mul a b ^^^ mul a' b := mulBits_xor a a' b 8

theorem zero_mul (b : UInt8) : mul 0 b = 0 := by
  have h := xor_mul 0 0 b
  rwa [UInt8.xor_self, UInt8.xor_self] at h

theorem xtime_mulBits (a b : UInt8) (n : Nat) :
    mulBits (xtime a) b n = xtime (mulBits a b n) := by
  induction n with
  | zero => exact xtime_zero.symm
  | succ n ih =>
    rw [mulBits, mulBits, ih, xtime_xor]
    cases b.toBitVec.getLsbD (7 - n) <;> simp [xtime_zero]

theorem xtime_mul (a b : UInt8) : mul (xtime a) b = xtime (mul a b) := xtime_mulBits a b 8

theorem mulBits_mul (a b c : UInt8) (n : Nat) :
    mulBits (mul a b) c n = mul (mulBits a c n) b := by
  induction n with
  | zero => exact (zero_mul b).symm
  | succ n ih =>
    rw [mulBits, mulBits, ih, xor_mul, xtime_mul]
    cases c.toBitVec.getLsbD (7 - n) <;> simp [zero_mul]

/-- Two factors can change places. -/
theorem mul_right_comm (a b c : UInt8) : mul (mul a b) c = mul (mul a c) b := mulBits_mul a b c 8

theorem one_mul (b : UInt8) : mul 1 b = b := by
  have hall : ∀ n < 256, mul 1 (UInt8.ofNat n) = UInt8.ofNat n := by decide +kernel
  exact forall_byte (p := fun b => mul 1 b = b) hall b

theorem mul_comm (a b : UInt8) : mul a b = mul b a := by
  have h := mul_right_comm 1 a b
  rwa [one_mul, one_mul] at h

theorem mul_assoc (a b c : UInt8) : mul (mul a b) c = mul a (mul b c) := by
  rw [mul_comm a b, mul_right_comm, mul_comm]

/-- An inverse is the only one. -/
theorem mul_eq_one_unique {a b c : UInt8} (hb : mul a b = 1) (hc : mul a c = 1) : b = c :=
  calc b = mul (mul a c) b := by rw [hc, one_mul]
    _ = mul (mul a b) c := mul_right_comm a c b
    _ = c := by rw [hb, one_mul]

theorem inv_eq_of_mul_eq_one {a c : UInt8} (h : mul a c = 1) : inv a = c := by
  unfold inv
  cases hfind : ((List.range 256).map UInt8.ofNat).find? fun c => mul a c = 1 with
  | none =>
    have hmem : c ∈ (List.range 256).map UInt8.ofNat :=
      List.mem_map.mpr ⟨c.toNat, List.mem_range.mpr c.toNat_lt, UInt8.ofNat_toNat⟩
    exact absurd (decide_eq_true h) (List.find?_eq_none.mp hfind c hmem)
  | some b =>
    have hb := List.find?_some hfind
    exact mul_eq_one_unique (of_decide_eq_true hb) h

theorem inv_zero : inv 0 = 0 := by
  unfold inv
  rw [List.find?_eq_none.mpr]
  · rfl
  · intro c _ hc
    have hone := of_decide_eq_true hc
    rw [zero_mul] at hone
    exact absurd hone (by decide)

end Galois
