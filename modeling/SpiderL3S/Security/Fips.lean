import Mathlib.Data.FinEnum
import Mathlib.Data.Fintype.EquivFin
import Mathlib.Tactic.FinCases
import Mathlib.Tactic.IntervalCases
import SpiderL3S.Lib.Aes
import SpiderL3S.Security.Cipher

/- The unrolled code is the cipher of FIPS-197. Each pass over the block is a composition
   of steps of the standard on the state in column order: adding the round key, the S-box and the
   rotation at once (`sboxShiftrows_toState`), the columns one by one with a product
   shared between two bytes (`mixCol_toState`), and the inverse columns as a multiplication
   in front of the mixed ones (`mixcolums_barreto_toState`). The loops then follow the
   rounds with the round keys one step behind (`encrLoop_toState`, `decrLoop_toState`). The tables
   are checked entry by entry: for the S-box one product with the claimed inverse is
   enough. The expanded key is the schedule word by word (`expandKey_words`). -/
namespace SpiderL3S
open Galois Aes

/-- The block as a state, column by column. -/
def Block.toState (b : Block) : State := fun r c => b[4 * c.val + r.val]

/-- Round key `n` as it stands in memory. -/
def keyState (m : Mem) (n : Nat) : State := fun r c => m (n * 16 + (4 * c.val + r.val))

theorem Block.toState_injective {a b : Block} (h : a.toState = b.toState) : a = b := by
  apply Vector.ext
  intro i hi
  have hbyte := congrFun (congrFun h ⟨i % 4, by omega⟩) ⟨i / 4, by omega⟩
  simp only [Block.toState, Nat.div_add_mod] at hbyte
  exact hbyte

/-- What holds of every sixteen bytes holds of every block. -/
theorem Block.forall_bytes {p : Block → Prop} (h : ∀ a0 a1 a2 a3 a4 a5 a6 a7 a8 a9 a10 a11 a12 a13
    a14 a15, p #v[a0, a1, a2, a3, a4, a5, a6, a7, a8, a9, a10, a11, a12, a13, a14, a15])
    (b : Block) : p b := by
  have hb : b = #v[b[0], b[1], b[2], b[3], b[4], b[5], b[6], b[7], b[8], b[9], b[10], b[11], b[12],
      b[13], b[14], b[15]] := by
    apply Vector.ext
    intro i hi
    interval_cases i <;> rfl
  rw [hb]
  exact h ..

/-! The tables. -/

/-- What holds of every entry of a table at its place holds of every lookup. -/
theorem forall_table {t : List UInt8} (ht : t.length = 256) {p : UInt8 → UInt8 → Prop}
    (h : ∀ e ∈ t.zipIdx, p (UInt8.ofNat e.2) e.1) (b : UInt8) : p b (t.getD b.toNat 0) := by
  have hb := b.toNat_lt
  have hmem : (t[b.toNat], b.toNat) ∈ t.zipIdx := List.mem_zipIdx_iff_getElem?.mpr
    (List.getElem?_eq_getElem (by omega))
  have hp := h _ hmem
  rw [UInt8.ofNat_toNat] at hp
  rwa [List.getD_eq_getElem?_getD, List.getElem?_eq_getElem (by omega), Option.getD_some]

/-- One product for each byte shows the table to be the affine map of the inverses. -/
theorem sbox_eq (b : UInt8) : sbox b = subByte b := by
  have hall : ∀ e ∈ sboxTable.zipIdx, UInt8.ofNat e.2 ≠ 0 →
      mul (UInt8.ofNat e.2) (invAffine e.1) = 1 := by decide +kernel
  by_cases hb : b = 0
  · subst hb
    rw [subByte_zero]
    rfl
  · exact (subByte_eq (forall_table (by decide +kernel)
      (p := fun b c => b ≠ 0 → mul b (invAffine c) = 1) hall b hb)).symm

theorem rsbox_sbox (b : UInt8) : rsbox (sbox b) = b := by
  have hall : ∀ e ∈ sboxTable.zipIdx, rsbox e.1 = UInt8.ofNat e.2 := by decide +kernel
  exact forall_table (by decide +kernel) (p := fun b c => rsbox c = b) hall b

/-- There are as many bytes on both sides. -/
theorem sbox_rsbox (b : UInt8) : sbox (rsbox b) = b := by
  have hleft : Function.LeftInverse rsbox sbox := rsbox_sbox
  have hsurj : Function.Surjective sbox := Finite.surjective_of_injective hleft.injective
  exact hleft.rightInverse_of_surjective hsurj b

theorem galoisMul2_eq (b : UInt8) : galoisMul2 b = xtime b := by
  have hall : ∀ n < 256, galoisMul2 (UInt8.ofNat n) = xtime (UInt8.ofNat n) := by decide +kernel
  exact forall_byte (p := fun b => galoisMul2 b = xtime b) hall b

/-! The passes over the block. -/

theorem sboxShiftrows_toState (s : Block) (m : Mem) (n : Nat) :
    (sboxShiftrows s m n).toState =
      shiftRows (subBytes sbox (addRoundKey (keyState m n) s.toState)) := by
  apply s.forall_bytes
  intro a0 a1 a2 a3 a4 a5 a6 a7 a8 a9 a10 a11 a12 a13 a14 a15
  simp [sboxShiftrows]
  funext r c
  fin_cases r <;> fin_cases c <;> rfl

/-- A column is changed and the other three stay. -/
def onColumn (f : Word → Word) (col : Fin 4) (s : State) : State :=
  fun r c => if c = col then f (s.column c) r else s r c

/-- A loop over columns changes each of them once. -/
theorem foldl_toState {pass : Block → Fin 4 → Block} {f : Word → Word}
    (h : ∀ s col, (pass s col).toState = onColumn f col s.toState) {cols : List (Fin 4)}
    (hcols : cols.Nodup) (s : Block) : (cols.foldl pass s).toState =
      fun r c => if c ∈ cols then f (s.toState.column c) r else s.toState r c := by
  induction cols generalizing s with
  | nil => simp
  | cons col cols ih =>
    obtain ⟨hnew, hrest⟩ := List.nodup_cons.mp hcols
    rw [List.foldl_cons, ih hrest, h]
    funext r c
    by_cases hc : c = col
    · subst hc
      simp [hnew, onColumn]
    · have hcolumn : State.column (onColumn f col s.toState) c = s.toState.column c := by
        funext r
        simp [State.column, onColumn, hc]
      simp [hc, hcolumn, onColumn]

/-- All of the columns. -/
theorem foldl_finRange_toState {pass : Block → Fin 4 → Block} {f : Word → Word}
    (h : ∀ s col, (pass s col).toState = onColumn f col s.toState) (s : Block) :
    ((List.finRange 4).foldl pass s).toState = fun r c => f (s.toState.column c) r := by
  simp only [foldl_toState h (List.nodup_finRange 4), List.mem_finRange, if_true]

/-- The four bytes of a column are not those of another. -/
theorem index_ne {col c : Fin 4} (hc : c ≠ col) (r : Fin 4) {k : Nat} (hk : k < 4) :
    ¬ 4 * col.val + k = 4 * c.val + r.val := by omega

theorem mixCol_other (s : Block) {col c : Fin 4} (hc : c ≠ col) (r : Fin 4) :
    (mixCol s col).toState r c = s.toState r c := by
  have h0 := index_ne hc r (k := 0) (by decide)
  have h1 := index_ne hc r (k := 1) (by decide)
  have h2 := index_ne hc r (k := 2) (by decide)
  have h3 := index_ne hc r (k := 3) (by decide)
  rw [Nat.add_zero] at h0
  simp only [Block.toState, mixCol, Vector.getElem_set, h0, h1, h2, h3, if_false]

theorem mixCol_toState (s : Block) (col : Fin 4) :
    (mixCol s col).toState = onColumn mixColumn col s.toState := by
  funext r c
  by_cases hc : c = col
  · subst hc
    rw [onColumn, if_pos rfl, mixColumn_eq]
    fin_cases r <;> simp [mixCol, Block.toState, State.column, total, galoisMul2_eq]
  · rw [onColumn, if_neg hc, mixCol_other s hc]

theorem barretoCol_other (s : Block) {col c : Fin 4} (hc : c ≠ col) (r : Fin 4) :
    (barretoCol s col).toState r c = s.toState r c := by
  have h0 := index_ne hc r (k := 0) (by decide)
  have h1 := index_ne hc r (k := 1) (by decide)
  have h2 := index_ne hc r (k := 2) (by decide)
  have h3 := index_ne hc r (k := 3) (by decide)
  rw [Nat.add_zero] at h0
  simp only [Block.toState, barretoCol, Vector.getElem_set, h0, h1, h2, h3, if_false]

theorem barretoCol_toState (s : Block) (col : Fin 4) :
    (barretoCol s col).toState = onColumn mixTwice col s.toState := by
  funext r c
  by_cases hc : c = col
  · subst hc
    rw [onColumn, if_pos rfl, mixTwice_eq]
    fin_cases r <;> simp [barretoCol, Block.toState, State.column, galoisMul2_eq]
  · rw [onColumn, if_neg hc, barretoCol_other s hc]

theorem mixcolums_toState (s : Block) : (mixcolums s).toState = mixColumns s.toState :=
  foldl_finRange_toState mixCol_toState s

theorem barreto_toState (s : Block) :
    (barreto s).toState = fun r c => mixTwice (s.toState.column c) r :=
  foldl_finRange_toState barretoCol_toState s

/-- The multiplication in front of the mixed columns makes them the inverse. -/
theorem mixcolums_barreto_toState (s : Block) :
    (mixcolums (barreto s)).toState = invMixColumns s.toState := by
  rw [mixcolums_toState, barreto_toState]
  funext r c
  exact congrFun (mixColumn_mixTwice (s.toState.column c)) r

theorem addroundkey_toState (s : Block) (m : Mem) :
    (addroundkey s m).toState = addRoundKey (keyState m 10) s.toState := by
  funext r c
  simp only [Block.toState, addroundkey, Vector.getElem_ofFn]
  rfl

theorem rsboxShiftrows_toState (s : Block) (m : Mem) (n : Nat) :
    (rsboxShiftrows s m n).toState =
      addRoundKey (keyState m n) (subBytes rsbox (invShiftRows s.toState)) := by
  apply s.forall_bytes
  intro a0 a1 a2 a3 a4 a5 a6 a7 a8 a9 a10 a11 a12 a13 a14 a15
  simp [rsboxShiftrows]
  funext r c
  fin_cases r <;> fin_cases c <;> rfl

/-! The loops over the rounds. -/

/-- After `n` turns the loop is behind the rounds of the cipher by one round key. -/
theorem encrLoop_toState (s : Block) (m : Mem) (n : Nat) :
    addRoundKey (keyState m n) (encrLoop s m n).toState = rounds sbox (keyState m) n s.toState := by
  induction n with
  | zero => rfl
  | succ n ih => rw [encrLoop, mixcolums_toState, sboxShiftrows_toState, ih, rounds]

theorem aesEncr_toState (s : Block) (m : Mem) :
    (aesEncr s m).toState = cipher sbox (keyState m) 10 s.toState := by
  rw [aesEncr, addroundkey_toState, sboxShiftrows_toState, encrLoop_toState, cipher]

theorem decrLoop_toState (s : Block) (m : Mem) (n : Nat) :
    (decrLoop m n (rsboxShiftrows s m n)).toState = invRounds rsbox (keyState m) n s.toState := by
  induction n generalizing s with
  | zero => exact rsboxShiftrows_toState s m 0
  | succ n ih =>
    rw [decrLoop, ih, mixcolums_barreto_toState, rsboxShiftrows_toState, invRounds]

theorem aesDecr_toState (s : Block) (m : Mem) :
    (aesDecr s m).toState = invCipher rsbox (keyState m) 10 s.toState := by
  rw [aesDecr, decrLoop_toState, addroundkey_toState, invCipher]

/-! The key schedule. -/

/-- Word `i` of a key schedule in memory. -/
def keyWord (m : Mem) (i : Nat) : Word := fun r => m (4 * i + r.val)

theorem keyState_eq (m : Mem) (n : Nat) : keyState m n = roundKey (keyWord m) n := by
  funext r c
  simp only [keyState, roundKey, keyWord]
  congr 1
  omega

theorem Mem.set_ne (m : Mem) {i j : Nat} (b : UInt8) (h : j ≠ i) : m.set i b j = m j := if_neg h

theorem expandTurn_ne (m : Mem) {n j : Nat} (h : j < (n + 1) * 16 ∨ (n + 2) * 16 ≤ j) :
    expandTurn m (n + 1) j = m j := by
  simp (disch := omega) only [expandTurn, Mem.set_ne]

theorem rcon_eq {n : Nat} (h : n < 10) : rcon (n + 1) = xtime^[n] 1 := by
  have hall : ∀ n < 10, rcon (n + 1) = xtime^[n] 1 := by decide
  exact hall n h

theorem expandTurn_first (m : Mem) {n : Nat} (h : n < 10) :
    keyWord (expandTurn m (n + 1)) (4 * (n + 1)) = addWord (keyWord m (4 * n))
      (addWord (subWord sbox (rotWord (keyWord m (4 * n + 3)))) (Aes.rcon (n + 1))) := by
  funext r
  simp only [keyWord, addWord, subWord, rotWord, Aes.rcon, Nat.add_sub_cancel, ← rcon_eq h,
    Nat.mul_add, ← Nat.mul_assoc, Nat.reduceMul]
  fin_cases r <;> simp [expandTurn, Mem.set, Nat.add_mul, Nat.mul_comm, Nat.add_assoc,
    UInt8.xor_comm, xor_left_comm]

theorem expandTurn_next (m : Mem) (n c : Nat) (hc : c < 3) :
    keyWord (expandTurn m (n + 1)) (4 * (n + 1) + (c + 1)) = addWord (keyWord m (4 * n + (c + 1)))
      (keyWord (expandTurn m (n + 1)) (4 * (n + 1) + c)) := by
  funext r
  simp only [keyWord, addWord, Nat.mul_add, ← Nat.mul_assoc, Nat.reduceMul]
  interval_cases c <;> fin_cases r <;> simp [expandTurn, Mem.set, Nat.add_mul, Nat.mul_comm]

/-- The bytes of the key are the first four words. -/
theorem keyWord_store (m : Mem) (k : Block) {i : Nat} (hi : i < 4) :
    keyWord (m.store 0 k.toList) i = k.toState.column ⟨i, hi⟩ := by
  funext r
  have hr := r.isLt
  simp only [keyWord, State.column, Block.toState]
  rw [Mem.store_in _ (by omega) (by rw [Vector.length_toList]; omega), Nat.sub_zero,
    List.getD_eq_getElem?_getD, List.getElem?_eq_getElem (by rw [Vector.length_toList]; omega),
    Option.getD_some, Vector.getElem_toList]

/-- A turn of the loop is the next four words of the schedule. -/
theorem expandTurn_words {m : Mem} {n : Nat} (hn : n < 10) {key : Fin 4 → Word}
    (hw : ∀ i < 4 * (n + 1), keyWord m i = keyExpansion sbox key i) {i : Nat}
    (hi : i < 4 * (n + 2)) : keyWord (expandTurn m (n + 1)) i = keyExpansion sbox key i := by
  have hfirst :
      keyWord (expandTurn m (n + 1)) (4 * (n + 1)) = keyExpansion sbox key (4 * (n + 1)) := by
    rw [expandTurn_first m hn, keyExpansion_first, hw _ (by omega), hw _ (by omega)]
  have hnext : ∀ c < 4, keyWord (expandTurn m (n + 1)) (4 * (n + 1) + c) =
      keyExpansion sbox key (4 * (n + 1) + c) := by
    intro c hc
    induction c with
    | zero => exact hfirst
    | succ c ih =>
      rw [expandTurn_next m n c (by omega), keyExpansion_next _ _ _ _ (by omega), hw _ (by omega),
        ih (by omega)]
  by_cases hold : i < 4 * (n + 1)
  · rw [← hw i hold]
    funext r
    exact expandTurn_ne m (.inl (by have := r.isLt; omega))
  · obtain ⟨c, rfl⟩ := Nat.exists_eq_add_of_le (Nat.le_of_not_lt hold)
    exact hnext c (by omega)

theorem expandLoop_words (m : Mem) (k : Block) {n : Nat} (hn : n ≤ 10) {i : Nat}
    (hi : i < 4 * (n + 1)) :
    keyWord (expandLoop (m.store 0 k.toList) n) i = keyExpansion sbox k.toState.column i := by
  induction n generalizing i with
  | zero => rw [expandLoop, keyWord_store m k hi, keyExpansion, dif_pos hi]
  | succ n ih =>
    rw [expandLoop]
    exact expandTurn_words (by omega) (fun j hj => ih (by omega) hj) hi

/-- The array holds the schedule of the key. -/
theorem expandKey_words (m : Mem) (k : Block) {i : Nat} (hi : i < 44) :
    keyWord (expandKey m k) i = keyExpansion subByte k.toState.column i := by
  rw [← funext sbox_eq]
  exact expandLoop_words m k (Nat.le_refl 10) hi

/-- What lies behind the array is left alone. -/
theorem expandKey_out (m : Mem) (k : Block) {j : Nat} (hj : 176 ≤ j) : expandKey m k j = m j := by
  have hloop : ∀ n ≤ 10, expandLoop (m.store 0 k.toList) n j = m j := by
    intro n hn
    induction n with
    | zero => exact Mem.store_out m (by rw [Vector.length_toList]; omega)
    | succ n ih => rw [expandLoop, expandTurn_ne _ (.inr (by omega)), ih (by omega)]
  exact hloop 10 (Nat.le_refl 10)

theorem keyState_expandKey (m : Mem) (k : Block) {n : Nat} (hn : n ≤ 10) :
    keyState (expandKey m k) n = roundKey (keyExpansion subByte k.toState.column) n := by
  rw [keyState_eq]
  funext r c
  simp only [roundKey]
  rw [expandKey_words m k (by omega)]

/-! Encryption is the cipher, and decryption undoes it. -/

theorem aesEncrypt_toState (m : Mem) (state key : Block) :
    (aesEncrypt m state key).1.toState =
      cipher subByte (roundKey (keyExpansion subByte key.toState.column)) 10 state.toState := by
  rw [aesEncrypt, aesEncr_toState, funext sbox_eq]
  exact cipher_congr (fun n hn => keyState_expandKey m key hn) state.toState

theorem aesDecrypt_toState (m : Mem) (state key : Block) :
    (aesDecrypt m state key).1.toState =
      invCipher rsbox (roundKey (keyExpansion subByte key.toState.column)) 10 state.toState := by
  rw [aesDecrypt, aesDecr_toState]
  exact invCipher_congr (fun n hn => keyState_expandKey m key hn) state.toState

theorem rsbox_leftInverse : Function.LeftInverse rsbox subByte := fun b => by
  rw [← sbox_eq, rsbox_sbox]

theorem rsbox_rightInverse : Function.LeftInverse subByte rsbox := fun b => by
  rw [← sbox_eq, sbox_rsbox]

/-- **Decryption undoes encryption.** What the key array holds before a call plays no part. -/
theorem decrypt_encrypt (m m' : Mem) (state key : Block) :
    (aesDecrypt m' (aesEncrypt m state key).1 key).1 = state := by
  apply Block.toState_injective
  rw [aesDecrypt_toState, aesEncrypt_toState, invCipher_cipher _ rsbox_leftInverse]

theorem encrypt_decrypt (m m' : Mem) (state key : Block) :
    (aesEncrypt m' (aesDecrypt m state key).1 key).1 = state := by
  apply Block.toState_injective
  rw [aesEncrypt_toState, aesDecrypt_toState, cipher_invCipher _ rsbox_rightInverse]

/-- **The two directions are inverse to each other**, for every key and every block. -/
theorem aesDecrypt_aesEncrypt (m m' : Mem) (state key : Block) :
    (aesDecrypt m' (aesEncrypt m state key).1 key).1 = state ∧
      (aesEncrypt m' (aesDecrypt m state key).1 key).1 = state :=
  ⟨decrypt_encrypt m m' state key, encrypt_decrypt m m' state key⟩

/-- **AES-128.** The 44 words of the expanded key are those of the schedule, and the block
    becomes the output of the cipher, taken step by step with the affine map of the inverse as
    S-box. -/
theorem aesEncrypt_cipher (m : Mem) (state key : Block) :
    (∀ i < 44, keyWord (aesEncrypt m state key).2 i =
        keyExpansion subByte key.toState.column i) ∧
      (aesEncrypt m state key).1.toState =
        cipher subByte (roundKey (keyExpansion subByte key.toState.column)) 10 state.toState :=
  ⟨fun _ hi => expandKey_words m key hi, aesEncrypt_toState m state key⟩

-- The example of the standard's appendix B.
example : (aesEncrypt (fun _ => 0)
    #v[0x32, 0x43, 0xf6, 0xa8, 0x88, 0x5a, 0x30, 0x8d, 0x31, 0x31, 0x98, 0xa2, 0xe0, 0x37, 0x07, 0x34]
    #v[0x2b, 0x7e, 0x15, 0x16, 0x28, 0xae, 0xd2, 0xa6, 0xab, 0xf7, 0x15, 0x88, 0x09, 0xcf, 0x4f,
      0x3c]).1 =
    #v[0x39, 0x25, 0x84, 0x1d, 0x02, 0xdc, 0x09, 0xfb, 0xdc, 0x11, 0x85, 0x97, 0x19, 0x6a, 0x0b,
      0x32] := by
  decide +kernel

end SpiderL3S
