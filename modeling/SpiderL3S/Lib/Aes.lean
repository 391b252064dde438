import Mathlib.Algebra.GroupWithZero.Nat
import Mathlib.Data.Fin.Basic
import Mathlib.Logic.Function.Basic
import SpiderL3S.Lib.Galois

/- The AES cipher as FIPS-197 writes it, step by step, for any number of rounds, any
   schedule of round keys and any S-box. A state is the four by four array of its bytes by
   row and column. Each step has its inverse beside it. A mixed column is a product by a
   fixed polynomial whose square is `{05} + {04}y^2` (`mixColumn_mixColumn`), and that one is its
   own inverse: all about columns follows from these two facts. The rounds are undone
   from the last to the first (`invRounds_rounds`), so the inverse cipher is the inverse on
   both sides for every schedule (`invCipher_cipher`, `cipher_invCipher`). -/
namespace Aes
open Galois

/-- The bytes by row and column. -/
abbrev State := Fin 4 → Fin 4 → UInt8

/-- Four bytes: a column of a state, or a word of a key schedule. -/
abbrev Word := Fin 4 → UInt8

def State.column (s : State) (c : Fin 4) : Word := fun r => s r c

/-! The S-box. -/

def rotl (b n : UInt8) : UInt8 := (b <<< n) ||| (b >>> (8 - n))

def affine (b : UInt8) : UInt8 := b ^^^ rotl b 1 ^^^ rotl b 2 ^^^ rotl b 3 ^^^ rotl b 4 ^^^ 0x63

def invAffine (b : UInt8) : UInt8 := rotl b 1 ^^^ rotl b 3 ^^^ rotl b 6 ^^^ 0x05

/-- The affine map of the inverse. -/
def subByte (b : UInt8) : UInt8 := affine (inv b)

/-- Bit `i` of the affine map, with the indices taken modulo 8. -/
theorem affine_bit (b : UInt8) (i : Nat) (hi : i < 8) :
    (affine b).toBitVec.getLsbD i =
      ((((b.toBitVec.getLsbD i ^^ b.toBitVec.getLsbD ((i + 4) % 8)) ^^
        b.toBitVec.getLsbD ((i + 5) % 8)) ^^ b.toBitVec.getLsbD ((i + 6) % 8)) ^^
        b.toBitVec.getLsbD ((i + 7) % 8)) ^^ (0x63 : UInt8).toBitVec.getLsbD i := by
  have hall : ∀ n < 256, ∀ i < 8, (affine (UInt8.ofNat n)).toBitVec.getLsbD i =
      (((((UInt8.ofNat n).toBitVec.getLsbD i ^^ (UInt8.ofNat n).toBitVec.getLsbD ((i + 4) % 8)) ^^
        (UInt8.ofNat n).toBitVec.getLsbD ((i + 5) % 8)) ^^
        (UInt8.ofNat n).toBitVec.getLsbD ((i + 6) % 8)) ^^
        (UInt8.ofNat n).toBitVec.getLsbD ((i + 7) % 8)) ^^
        (0x63 : UInt8).toBitVec.getLsbD i := by decide +kernel
  have h := hall b.toNat b.toNat_lt i hi
  rwa [UInt8.ofNat_toNat] at h

theorem affine_invAffine (b : UInt8) : affine (invAffine b) = b := by
  have hall : ∀ n < 256, affine (invAffine (UInt8.ofNat n)) = UInt8.ofNat n := by decide +kernel
  exact forall_byte (p := fun b => affine (invAffine b) = b) hall b

/-- A byte of the S-box is checked by one product. -/
theorem subByte_eq {b c : UInt8} (h : mul b (invAffine c) = 1) : subByte b = c := by
  rw [subByte, inv_eq_of_mul_eq_one h, affine_invAffine]

theorem subByte_zero : subByte 0 = 0x63 := by
  rw [subByte, inv_zero]
  decide

/-! The four steps. -/

def subBytes (S : UInt8 → UInt8) (s : State) : State := fun r c => S (s r c)

/-- Row `r` is rotated to the left by `r` bytes. -/
def shiftRows (s : State) : State := fun r c => s r (c + r)
def invShiftRows (s : State) : State := fun r c => s r (c - r)

def mixColumn (a : Word) : Word := fun r =>
  mul 2 (a r) ^^^ mul 3 (a (r + 1)) ^^^ a (r + 2) ^^^ a (r + 3)
def invMixColumn (a : Word) : Word := fun r =>
  mul 0x0e (a r) ^^^ mul 0x0b (a (r + 1)) ^^^ mul 0x0d (a (r + 2)) ^^^ mul 0x09 (a (r + 3))

def mixColumns (s : State) : State := fun r c => mixColumn (s.column c) r
def invMixColumns (s : State) : State := fun r c => invMixColumn (s.column c) r

def addRoundKey (k : State) (s : State) : State := fun r c => s r c ^^^ k r c

@[simp] theorem addRoundKey_addRoundKey (k s : State) : addRoundKey k (addRoundKey k s) = s := by
  funext r c
  simp only [addRoundKey, UInt8.xor_assoc, UInt8.xor_self, UInt8.xor_zero]

@[simp] theorem invShiftRows_shiftRows (s : State) : invShiftRows (shiftRows s) = s := by
  funext r c
  simp only [invShiftRows, shiftRows, show c - r + r = c by omega]

@[simp] theorem shiftRows_invShiftRows (s : State) : shiftRows (invShiftRows s) = s := by
  funext r c
  simp only [invShiftRows, shiftRows, show c + r - r = c by omega]

theorem subBytes_subBytes {S R : UInt8 → UInt8} (h : Function.LeftInverse R S) (s : State) :
    subBytes R (subBytes S s) = s := by
  funext r c
  exact h (s r c)

/-! Mixed columns. -/

theorem two_mul (b : UInt8) : mul 2 b = xtime b := by
  rw [show (2 : UInt8) = xtime 1 by decide, xtime_mul, one_mul]

theorem three_mul (b : UInt8) : mul 3 b = xtime b ^^^ b := by
  rw [show (3 : UInt8) = 2 ^^^ 1 by decide, xor_mul, two_mul, one_mul]

theorem four_mul (b : UInt8) : mul 4 b = xtime (xtime b) := by
  rw [show (4 : UInt8) = xtime 2 by decide, xtime_mul, two_mul]

theorem eight_mul (b : UInt8) : mul 8 b = xtime (xtime (xtime b)) := by
  rw [show (8 : UInt8) = xtime 4 by decide, xtime_mul, four_mul]

/-- The sum of a column. -/
def total (a : Word) : UInt8 := a 0 ^^^ a 1 ^^^ a 2 ^^^ a 3

/-- The sum can be taken from any row on. -/
theorem total_eq (a : Word) (r : Fin 4) :
    a r ^^^ a (r + 1) ^^^ a (r + 2) ^^^ a (r + 3) = total a := by
  match r with
  | 0 => rfl
  | 1 =>
    show a 1 ^^^ a 2 ^^^ a 3 ^^^ a 0 = a 0 ^^^ a 1 ^^^ a 2 ^^^ a 3
    ac_rfl
  | 2 =>
    show a 2 ^^^ a 3 ^^^ a 0 ^^^ a 1 = a 0 ^^^ a 1 ^^^ a 2 ^^^ a 3
    ac_rfl
  | 3 =>
    show a 3 ^^^ a 0 ^^^ a 1 ^^^ a 2 = a 0 ^^^ a 1 ^^^ a 2 ^^^ a 3
    ac_rfl

/-- A mixed column with one product for each byte. -/
theorem mixColumn_eq (a : Word) (r : Fin 4) :
    mixColumn a r = a r ^^^ xtime (a r ^^^ a (r + 1)) ^^^ total a := by
  rw [mixColumn, two_mul, three_mul, xtime_xor, ← total_eq a r]
  simp [UInt8.xor_assoc, xor_left_comm, UInt8.xor_comm]

theorem total_mixColumn (a : Word) : total (mixColumn a) = total a := by
  simp only [total, mixColumn_eq, xtime_xor, Fin.isValue, Fin.reduceAdd]
  simp [UInt8.xor_assoc, xor_left_comm, UInt8.xor_comm]

/-- The square of the mixing polynomial. -/
def mixTwice (a : Word) : Word := fun r => a r ^^^ mul 4 (a r ^^^ a (r + 2))

/-- Two rows share a product. -/
theorem mixTwice_eq (a : Word) (r : Fin 4) :
    mixTwice a r = a r ^^^ xtime (xtime (a (r % 2) ^^^ a (r % 2 + 2))) := by
  rw [mixTwice, four_mul]
  match r with
  | 0 => rfl
  | 1 => rfl
  | 2 =>
    rw [UInt8.xor_comm (a 2) (a (2 + 2))]
    rfl
  | 3 =>
    rw [UInt8.xor_comm (a 3) (a (3 + 2))]
    rfl

theorem mixColumn_mixColumn (a : Word) : mixColumn (mixColumn a) = mixTwice a := by
  funext r
  rw [mixColumn_eq, total_mixColumn, mixColumn_eq, mixColumn_eq,
    show r + 1 + 1 = r + 2 by omega, mixTwice, four_mul]
  simp only [xtime_xor]
  simp [UInt8.xor_assoc, xor_left_comm, UInt8.xor_comm]

theorem mixTwice_mixTwice (a : Word) : mixTwice (mixTwice a) = a := by
  funext r
  have hround : r + 2 + 2 = r := by omega
  simp [mixTwice, four_mul, xtime_xor, hround, UInt8.xor_assoc, xor_left_comm, UInt8.xor_comm]

/-- The inverse polynomial is the cube of the mixing one. -/
theorem mixColumn_mixTwice (a : Word) : mixColumn (mixTwice a) = invMixColumn a := by
  funext r
  have hround : r + 1 + 2 = r + 3 ∧ r + 2 + 2 = r ∧ r + 3 + 2 = r + 1 := by omega
  have he : (0x0e : UInt8) = 8 ^^^ 4 ^^^ 2 := by decide
  have hb : (0x0b : UInt8) = 8 ^^^ 3 := by decide
  have hd : (0x0d : UInt8) = 8 ^^^ 4 ^^^ 1 := by decide
  have h9 : (0x09 : UInt8) = 8 ^^^ 1 := by decide
  rw [invMixColumn, he, hb, hd, h9]
  simp only [mixColumn, mixTwice, hround, xor_mul, one_mul, two_mul, three_mul, four_mul, eight_mul,
    xtime_xor]
  generalize a r = x, a (r + 1) = y, a (r + 2) = z, a (r + 3) = w
  simp [xor_left_comm, UInt8.xor_comm]

theorem invMixColumn_mixColumn (a : Word) : invMixColumn (mixColumn a) = a :=
  calc invMixColumn (mixColumn a) = mixColumn (mixTwice (mixColumn a)) := (mixColumn_mixTwice _).symm
    _ = mixColumn (mixColumn (mixColumn (mixColumn a))) := by rw [mixColumn_mixColumn (mixColumn a)]
    _ = mixTwice (mixTwice a) := by rw [mixColumn_mixColumn a, mixColumn_mixColumn]
    _ = a := mixTwice_mixTwice a

theorem mixColumn_invMixColumn (a : Word) : mixColumn (invMixColumn a) = a := by
  rw [← mixColumn_mixTwice, mixColumn_mixColumn, mixTwice_mixTwice]

@[simp] theorem invMixColumns_mixColumns (s : State) : invMixColumns (mixColumns s) = s := by
  funext r c
  exact congrFun (invMixColumn_mixColumn (s.column c)) r

@[simp] theorem mixColumns_invMixColumns (s : State) : mixColumns (invMixColumns s) = s := by
  funext r c
  exact congrFun (mixColumn_invMixColumn (s.column c)) r

/-! The cipher and its inverse, for `nr` rounds. -/

section Cipher
variable {S R : UInt8 → UInt8} (k : Nat → State)

/-- The state after `n` rounds, round key `n` added. -/
def rounds (S : UInt8 → UInt8) (k : Nat → State) : Nat → State → State
  | 0, s => addRoundKey (k 0) s
  | n + 1, s => addRoundKey (k (n + 1)) (mixColumns (shiftRows (subBytes S (rounds S k n s))))

def cipher (S : UInt8 → UInt8) (k : Nat → State) (nr : Nat) (s : State) : State :=
  addRoundKey (k nr) (shiftRows (subBytes S (rounds S k (nr - 1) s)))

/-- The rounds from `n` on down to the start. -/
def invRounds (R : UInt8 → UInt8) (k : Nat → State) : Nat → State → State
  | 0, s => addRoundKey (k 0) (subBytes R (invShiftRows s))
  | n + 1, s =>
    invRounds R k n (invMixColumns (addRoundKey (k (n + 1)) (subBytes R (invShiftRows s))))

def invCipher (R : UInt8 → UInt8) (k : Nat → State) (nr : Nat) (s : State) : State :=
  invRounds R k (nr - 1) (addRoundKey (k nr) s)

/-- The rounds are undone from the last to the first. -/
theorem invRounds_rounds (h : Function.LeftInverse R S) (n : Nat) (s : State) :
    invRounds R k n (shiftRows (subBytes S (rounds S k n s))) = s := by
  induction n with
  | zero => simp only [invRounds, rounds, invShiftRows_shiftRows, subBytes_subBytes h,
      addRoundKey_addRoundKey]
  | succ n ih => rw [invRounds, rounds, invShiftRows_shiftRows, subBytes_subBytes h,
      addRoundKey_addRoundKey, invMixColumns_mixColumns, ih]

theorem rounds_invRounds (h : Function.LeftInverse S R) (n : Nat) (s : State) :
    shiftRows (subBytes S (rounds S k n (invRounds R k n s))) = s := by
  induction n generalizing s with
  | zero => simp only [invRounds, rounds, addRoundKey_addRoundKey, subBytes_subBytes h,
      shiftRows_invShiftRows]
  | succ n ih => rw [invRounds, rounds, ih, mixColumns_invMixColumns, addRoundKey_addRoundKey,
      subBytes_subBytes h, shiftRows_invShiftRows]

theorem rounds_congr {k k' : Nat → State} {n : Nat} (h : ∀ i ≤ n, k i = k' i) (s : State) :
    rounds S k n s = rounds S k' n s := by
  induction n with
  | zero => rw [rounds, rounds, h 0 (Nat.le_refl 0)]
  | succ n ih => rw [rounds, rounds, h _ (Nat.le_refl _), ih fun i hi => h i (Nat.le_succ_of_le hi)]

theorem invRounds_congr {k k' : Nat → State} {n : Nat} (h : ∀ i ≤ n, k i = k' i) (s : State) :
    invRounds R k n s = invRounds R k' n s := by
  induction n generalizing s with
  | zero => rw [invRounds, invRounds, h 0 (Nat.le_refl 0)]
  | succ n ih =>
    rw [invRounds, invRounds, h _ (Nat.le_refl _), ih fun i hi => h i (Nat.le_succ_of_le hi)]

/-- No round key behind the last is taken. -/
theorem cipher_congr {k k' : Nat → State} {nr : Nat} (h : ∀ i ≤ nr, k i = k' i) (s : State) :
    cipher S k nr s = cipher S k' nr s := by
  rw [cipher, cipher, h nr (Nat.le_refl nr),
    rounds_congr fun i hi => h i (Nat.le_trans hi (Nat.sub_le nr 1))]

theorem invCipher_congr {k k' : Nat → State} {nr : Nat} (h : ∀ i ≤ nr, k i = k' i) (s : State) :
    invCipher R k nr s = invCipher R k' nr s := by
  rw [invCipher, invCipher, h nr (Nat.le_refl nr),
    invRounds_congr fun i hi => h i (Nat.le_trans hi (Nat.sub_le nr 1))]

theorem invCipher_cipher (h : Function.LeftInverse R S) (nr : Nat) (s : State) :
    invCipher R k nr (cipher S k nr s) = s := by
  rw [invCipher, cipher, addRoundKey_addRoundKey, invRounds_rounds k h]

theorem cipher_invCipher (h : Function.LeftInverse S R) (nr : Nat) (s : State) :
    cipher S k nr (invCipher R k nr s) = s := by
  rw [invCipher, cipher, rounds_invRounds k h, addRoundKey_addRoundKey]

end Cipher

/-! The key schedule, for a key of `nk` words. -/

def subWord (S : UInt8 → UInt8) (a : Word) : Word := fun r => S (a r)
def rotWord (a : Word) : Word := fun r => a (r + 1)
def addWord (a b : Word) : Word := fun r => a r ^^^ b r

/-- The round constant: a power of `x` in the first byte. -/
def rcon (i : Nat) : Word := fun r => if r = 0 then xtime^[i - 1] 1 else 0

/-- The words of the schedule. -/
def keyExpansion (S : UInt8 → UInt8) {nk : Nat} [NeZero nk] (key : Fin nk → Word) (i : Nat) :
    Word :=
  if h : i < nk then key ⟨i, h⟩
  else
    addWord (keyExpansion S key (i - nk))
      (if i % nk = 0 then addWord (subWord S (rotWord (keyExpansion S key (i - 1)))) (rcon (i / nk))
      else if 6 < nk ∧ i % nk = 4 then subWord S (keyExpansion S key (i - 1))
      else keyExpansion S key (i - 1))
termination_by i
decreasing_by all_goals have := Nat.pos_of_neZero nk; omega

/-- Four words of the schedule, one to a column. -/
def roundKey (w : Nat → Word) (n : Nat) : State := fun r c => w (4 * n + c) r

section Four
variable (S : UInt8 → UInt8) (key : Fin 4 → Word) (n : Nat)

/-- The first word of a round key. -/
theorem keyExpansion_first :
    keyExpansion S key (4 * (n + 1)) = addWord (keyExpansion S key (4 * n))
      (addWord (subWord S (rotWord (keyExpansion S key (4 * n + 3)))) (rcon (n + 1))) := by
  rw [keyExpansion, dif_neg (by omega), show 4 * (n + 1) - 1 = 4 * n + 3 by omega,
    show 4 * (n + 1) - 4 = 4 * n by omega, if_pos (by omega), show 4 * (n + 1) / 4 = n + 1 by omega]

/-- The other words. -/
theorem keyExpansion_next (c : Nat) (hc : c < 3) :
    keyExpansion S key (4 * (n + 1) + (c + 1)) = addWord (keyExpansion S key (4 * n + (c + 1)))
      (keyExpansion S key (4 * (n + 1) + c)) := by
  rw [keyExpansion, dif_neg (by omega), show 4 * (n + 1) + (c + 1) - 1 = 4 * (n + 1) + c by omega,
    show 4 * (n + 1) + (c + 1) - 4 = 4 * n + (c + 1) by omega, if_neg (by omega), if_neg (by omega)]

end Four

end Aes
