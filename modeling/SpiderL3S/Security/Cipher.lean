import Mathlib.Data.List.FinRange
import SpiderL3S.Common

/- AES128 of `security.c`. `state` is a block of 16 bytes that is changed in place, the
   byte in row `r` and column `c` at `4 * c + r`; `expandedKey` is a global of 176 bytes, round key
   `round` from `round * 16` on. The source unrolls a round by hand: adding the round key,
   the S-box and the rotation of the rows are one pass over the bytes, and the columns are
   mixed in place after it. Each of the passes is a function here, under the word the
   source's comments have for it. -/
namespace SpiderL3S

def sboxTable : List UInt8 :=
  [0x63, 0x7c, 0x77, 0x7b, 0xf2, 0x6b, 0x6f, 0xc5, 0x30, 0x01, 0x67, 0x2b, 0xfe, 0xd7, 0xab, 0x76,
    0xca, 0x82, 0xc9, 0x7d, 0xfa, 0x59, 0x47, 0xf0, 0xad, 0xd4, 0xa2, 0xaf, 0x9c, 0xa4, 0x72, 0xc0,
    0xb7, 0xfd, 0x93, 0x26, 0x36, 0x3f, 0xf7, 0xcc, 0x34, 0xa5, 0xe5, 0xf1, 0x71, 0xd8, 0x31, 0x15,
    0x04, 0xc7, 0x23, 0xc3, 0x18, 0x96, 0x05, 0x9a, 0x07, 0x12, 0x80, 0xe2, 0xeb, 0x27, 0xb2, 0x75,
    0x09, 0x83, 0x2c, 0x1a, 0x1b, 0x6e, 0x5a, 0xa0, 0x52, 0x3b, 0xd6, 0xb3, 0x29, 0xe3, 0x2f, 0x84,
    0x53, 0xd1, 0x00, 0xed, 0x20, 0xfc, 0xb1, 0x5b, 0x6a, 0xcb, 0xbe, 0x39, 0x4a, 0x4c, 0x58, 0xcf,
    0xd0, 0xef, 0xaa, 0xfb, 0x43, 0x4d, 0x33, 0x85, 0x45, 0xf9, 0x02, 0x7f, 0x50, 0x3c, 0x9f, 0xa8,
    0x51, 0xa3, 0x40, 0x8f, 0x92, 0x9d, 0x38, 0xf5, 0xbc, 0xb6, 0xda, 0x21, 0x10, 0xff, 0xf3, 0xd2,
    0xcd, 0x0c, 0x13, 0xec, 0x5f, 0x97, 0x44, 0x17, 0xc4, 0xa7, 0x7e, 0x3d, 0x64, 0x5d, 0x19, 0x73,
    0x60, 0x81, 0x4f, 0xdc, 0x22, 0x2a, 0x90, 0x88, 0x46, 0xee, 0xb8, 0x14, 0xde, 0x5e, 0x0b, 0xdb,
    0xe0, 0x32, 0x3a, 0x0a, 0x49, 0x06, 0x24, 0x5c, 0xc2, 0xd3, 0xac, 0x62, 0x91, 0x95, 0xe4, 0x79,
    0xe7, 0xc8, 0x37, 0x6d, 0x8d, 0xd5, 0x4e, 0xa9, 0x6c, 0x56, 0xf4, 0xea, 0x65, 0x7a, 0xae, 0x08,
    0xba, 0x78, 0x25, 0x2e, 0x1c, 0xa6, 0xb4, 0xc6, 0xe8, 0xdd, 0x74, 0x1f, 0x4b, 0xbd, 0x8b, 0x8a,
    0x70, 0x3e, 0xb5, 0x66, 0x48, 0x03, 0xf6, 0x0e, 0x61, 0x35, 0x57, 0xb9, 0x86, 0xc1, 0x1d, 0x9e,
    0xe1, 0xf8, 0x98, 0x11, 0x69, 0xd9, 0x8e, 0x94, 0x9b, 0x1e, 0x87, 0xe9, 0xce, 0x55, 0x28, 0xdf,
    0x8c, 0xa1, 0x89, 0x0d, 0xbf, 0xe6, 0x42, 0x68, 0x41, 0x99, 0x2d, 0x0f, 0xb0, 0x54, 0xbb, 0x16]

def rsboxTable : List UInt8 :=
  [0x52, 0x09, 0x6a, 0xd5, 0x30, 0x36, 0xa5, 0x38, 0xbf, 0x40, 0xa3, 0x9e, 0x81, 0xf3, 0xd7, 0xfb,
    0x7c, 0xe3, 0x39, 0x82, 0x9b, 0x2f, 0xff, 0x87, 0x34, 0x8e, 0x43, 0x44, 0xc4, 0xde, 0xe9, 0xcb,
    0x54, 0x7b, 0x94, 0x32, 0xa6, 0xc2, 0x23, 0x3d, 0xee, 0x4c, 0x95, 0x0b, 0x42, 0xfa, 0xc3, 0x4e,
    0x08, 0x2e, 0xa1, 0x66, 0x28, 0xd9, 0x24, 0xb2, 0x76, 0x5b, 0xa2, 0x49, 0x6d, 0x8b, 0xd1, 0x25,
    0x72, 0xf8, 0xf6, 0x64, 0x86, 0x68, 0x98, 0x16, 0xd4, 0xa4, 0x5c, 0xcc, 0x5d, 0x65, 0xb6, 0x92,
    0x6c, 0x70, 0x48, 0x50, 0xfd, 0xed, 0xb9, 0xda, 0x5e, 0x15, 0x46, 0x57, 0xa7, 0x8d, 0x9d, 0x84,
    0x90, 0xd8, 0xab, 0x00, 0x8c, 0xbc, 0xd3, 0x0a, 0xf7, 0xe4, 0x58, 0x05, 0xb8, 0xb3, 0x45, 0x06,
    0xd0, 0x2c, 0x1e, 0x8f, 0xca, 0x3f, 0x0f, 0x02, 0xc1, 0xaf, 0xbd, 0x03, 0x01, 0x13, 0x8a, 0x6b,
    0x3a, 0x91, 0x11, 0x41, 0x4f, 0x67, 0xdc, 0xea, 0x97, 0xf2, 0xcf, 0xce, 0xf0, 0xb4, 0xe6, 0x73,
    0x96, 0xac, 0x74, 0x22, 0xe7, 0xad, 0x35, 0x85, 0xe2, 0xf9, 0x37, 0xe8, 0x1c, 0x75, 0xdf, 0x6e,
    0x47, 0xf1, 0x1a, 0x71, 0x1d, 0x29, 0xc5, 0x89, 0x6f, 0xb7, 0x62, 0x0e, 0xaa, 0x18, 0xbe, 0x1b,
    0xfc, 0x56, 0x3e, 0x4b, 0xc6, 0xd2, 0x79, 0x20, 0x9a, 0xdb, 0xc0, 0xfe, 0x78, 0xcd, 0x5a, 0xf4,
    0x1f, 0xdd, 0xa8, 0x33, 0x88, 0x07, 0xc7, 0x31, 0xb1, 0x12, 0x10, 0x59, 0x27, 0x80, 0xec, 0x5f,
    0x60, 0x51, 0x7f, 0xa9, 0x19, 0xb5, 0x4a, 0x0d, 0x2d, 0xe5, 0x7a, 0x9f, 0x93, 0xc9, 0x9c, 0xef,
    0xa0, 0xe0, 0x3b, 0x4d, 0xae, 0x2a, 0xf5, 0xb0, 0xc8, 0xeb, 0xbb, 0x3c, 0x83, 0x53, 0x99, 0x61,
    0x17, 0x2b, 0x04, 0x7e, 0xba, 0x77, 0xd6, 0x26, 0xe1, 0x69, 0x14, 0x63, 0x55, 0x21, 0x0c, 0x7d]

def rconTable : List UInt8 :=
  [0x8d, 0x01, 0x02, 0x04, 0x08, 0x10, 0x20, 0x40, 0x80, 0x1b, 0x36]

/-- The 16 bytes `state` points to. -/
abbrev Block := Vector UInt8 16

/-- `sbox[b]`. -/
def sbox (b : UInt8) : UInt8 := sboxTable.getD b.toNat 0

/-- `rsbox[b]`. -/
def rsbox (b : UInt8) : UInt8 := rsboxTable.getD b.toNat 0

/-- `Rcon[ii]`. -/
def rcon (ii : Nat) : UInt8 := rconTable.getD ii 0

def Mem.set (m : Mem) (i : Nat) (b : UInt8) : Mem := fun j => if j = i then b else m j

/-- One turn of the second loop of `expandKey`: 16 bytes of the key array `k`
from the 16 in front of them. -/
def expandTurn (k : Mem) (ii : Nat) : Mem :=
  let buf1 := k (ii * 16 - 4)
  let k := k.set (ii * 16 + 0) (sbox (k (ii * 16 - 3)) ^^^ k ((ii - 1) * 16 + 0) ^^^ rcon ii)
  let k := k.set (ii * 16 + 1) (sbox (k (ii * 16 - 2)) ^^^ k ((ii - 1) * 16 + 1))
  let k := k.set (ii * 16 + 2) (sbox (k (ii * 16 - 1)) ^^^ k ((ii - 1) * 16 + 2))
  let k := k.set (ii * 16 + 3) (sbox buf1 ^^^ k ((ii - 1) * 16 + 3))
  let k := k.set (ii * 16 + 4) (k ((ii - 1) * 16 + 4) ^^^ k (ii * 16 + 0))
  let k := k.set (ii * 16 + 5) (k ((ii - 1) * 16 + 5) ^^^ k (ii * 16 + 1))
  let k := k.set (ii * 16 + 6) (k ((ii - 1) * 16 + 6) ^^^ k (ii * 16 + 2))
  let k := k.set (ii * 16 + 7) (k ((ii - 1) * 16 + 7) ^^^ k (ii * 16 + 3))
  let k := k.set (ii * 16 + 8) (k ((ii - 1) * 16 + 8) ^^^ k (ii * 16 + 4))
  let k := k.set (ii * 16 + 9) (k ((ii - 1) * 16 + 9) ^^^ k (ii * 16 + 5))
  let k := k.set (ii * 16 + 10) (k ((ii - 1) * 16 + 10) ^^^ k (ii * 16 + 6))
  let k := k.set (ii * 16 + 11) (k ((ii - 1) * 16 + 11) ^^^ k (ii * 16 + 7))
  let k := k.set (ii * 16 + 12) (k ((ii - 1) * 16 + 12) ^^^ k (ii * 16 + 8))
  let k := k.set (ii * 16 + 13) (k ((ii - 1) * 16 + 13) ^^^ k (ii * 16 + 9))
  let k := k.set (ii * 16 + 14) (k ((ii - 1) * 16 + 14) ^^^ k (ii * 16 + 10))
  k.set (ii * 16 + 15) (k ((ii - 1) * 16 + 15) ^^^ k (ii * 16 + 11))

/-- The second loop after `n` turns. -/
def expandLoop (expandedKey : Mem) : Nat → Mem
  | 0 => expandedKey
  | n + 1 => expandTurn (expandLoop expandedKey n) (n + 1)

def expandKey (expandedKey : Mem) (key : Block) : Mem :=
  expandLoop (expandedKey.store 0 key.toList) 10

def galoisMul2 (value : UInt8) : UInt8 :=
  if value >>> 7 ≠ 0 then (value <<< 1) ^^^ 0x1b else value <<< 1

/-! The passes over the block. -/

/-- `addroundkey, sbox and shiftrows`. -/
def sboxShiftrows (state : Block) (expandedKey : Mem) (round : Nat) : Block :=
  -- row 0
  let state := state.set 0 (sbox (state[0] ^^^ expandedKey (round * 16 + 0)))
  let state := state.set 4 (sbox (state[4] ^^^ expandedKey (round * 16 + 4)))
  let state := state.set 8 (sbox (state[8] ^^^ expandedKey (round * 16 + 8)))
  let state := state.set 12 (sbox (state[12] ^^^ expandedKey (round * 16 + 12)))
  -- row 1
  let buf1 := state[1] ^^^ expandedKey (round * 16 + 1)
  let state := state.set 1 (sbox (state[5] ^^^ expandedKey (round * 16 + 5)))
  let state := state.set 5 (sbox (state[9] ^^^ expandedKey (round * 16 + 9)))
  let state := state.set 9 (sbox (state[13] ^^^ expandedKey (round * 16 + 13)))
  let state := state.set 13 (sbox buf1)
  -- row 2
  let buf1 := state[2] ^^^ expandedKey (round * 16 + 2)
  let buf2 := state[6] ^^^ expandedKey (round * 16 + 6)
  let state := state.set 2 (sbox (state[10] ^^^ expandedKey (round * 16 + 10)))
  let state := state.set 6 (sbox (state[14] ^^^ expandedKey (round * 16 + 14)))
  let state := state.set 10 (sbox buf1)
  let state := state.set 14 (sbox buf2)
  -- row 3
  let buf1 := state[15] ^^^ expandedKey (round * 16 + 15)
  let state := state.set 15 (sbox (state[11] ^^^ expandedKey (round * 16 + 11)))
  let state := state.set 11 (sbox (state[7] ^^^ expandedKey (round * 16 + 7)))
  let state := state.set 7 (sbox (state[3] ^^^ expandedKey (round * 16 + 3)))
  state.set 3 (sbox buf1)

/-- The columns are mixed one by one, each by the same lines. -/
def mixCol (state : Block) (col : Fin 4) : Block :=
  let buf1 := state[4 * col.val] ^^^ state[4 * col.val + 1] ^^^ state[4 * col.val + 2] ^^^
    state[4 * col.val + 3]
  let buf2 := state[4 * col.val]
  let buf3 := galoisMul2 (state[4 * col.val] ^^^ state[4 * col.val + 1])
  let state := state.set (4 * col.val) (state[4 * col.val] ^^^ buf3 ^^^ buf1)
  let buf3 := galoisMul2 (state[4 * col.val + 1] ^^^ state[4 * col.val + 2])
  let state := state.set (4 * col.val + 1) (state[4 * col.val + 1] ^^^ buf3 ^^^ buf1)
  let buf3 := galoisMul2 (state[4 * col.val + 2] ^^^ state[4 * col.val + 3])
  let state := state.set (4 * col.val + 2) (state[4 * col.val + 2] ^^^ buf3 ^^^ buf1)
  let buf3 := galoisMul2 (state[4 * col.val + 3] ^^^ buf2)
  state.set (4 * col.val + 3) (state[4 * col.val + 3] ^^^ buf3 ^^^ buf1)

/-- The four columns in turn. -/
def mixcolums (state : Block) : Block := (List.finRange 4).foldl mixCol state

/-- The lines of `last addroundkey` and `initial addroundkey`. -/
def addroundkey (state : Block) (expandedKey : Mem) : Block :=
  .ofFn fun i => state[i] ^^^ expandedKey (160 + i)

def barretoCol (state : Block) (col : Fin 4) : Block :=
  let buf1 := galoisMul2 (galoisMul2 (state[4 * col.val] ^^^ state[4 * col.val + 2]))
  let buf2 := galoisMul2 (galoisMul2 (state[4 * col.val + 1] ^^^ state[4 * col.val + 3]))
  let state := state.set (4 * col.val) (state[4 * col.val] ^^^ buf1)
  let state := state.set (4 * col.val + 1) (state[4 * col.val + 1] ^^^ buf2)
  let state := state.set (4 * col.val + 2) (state[4 * col.val + 2] ^^^ buf1)
  state.set (4 * col.val + 3) (state[4 * col.val + 3] ^^^ buf2)

def barreto (state : Block) : Block := (List.finRange 4).foldl barretoCol state

/-- `rsbox` and `shiftrows` backwards, then `addroundkey`. -/
def rsboxShiftrows (state : Block) (expandedKey : Mem) (round : Nat) : Block :=
  -- row 0
  let state := state.set 0 (rsbox state[0] ^^^ expandedKey (round * 16 + 0))
  let state := state.set 4 (rsbox state[4] ^^^ expandedKey (round * 16 + 4))
  let state := state.set 8 (rsbox state[8] ^^^ expandedKey (round * 16 + 8))
  let state := state.set 12 (rsbox state[12] ^^^ expandedKey (round * 16 + 12))
  -- row 1
  let buf1 := rsbox state[13] ^^^ expandedKey (round * 16 + 1)
  let state := state.set 13 (rsbox state[9] ^^^ expandedKey (round * 16 + 13))
  let state := state.set 9 (rsbox state[5] ^^^ expandedKey (round * 16 + 9))
  let state := state.set 5 (rsbox state[1] ^^^ expandedKey (round * 16 + 5))
  let state := state.set 1 buf1
  -- row 2
  let buf1 := rsbox state[2] ^^^ expandedKey (round * 16 + 10)
  let buf2 := rsbox state[6] ^^^ expandedKey (round * 16 + 14)
  let state := state.set 2 (rsbox state[10] ^^^ expandedKey (round * 16 + 2))
  let state := state.set 6 (rsbox state[14] ^^^ expandedKey (round * 16 + 6))
  let state := state.set 10 buf1
  let state := state.set 14 buf2
  -- row 3
  let buf1 := rsbox state[3] ^^^ expandedKey (round * 16 + 15)
  let state := state.set 3 (rsbox state[7] ^^^ expandedKey (round * 16 + 3))
  let state := state.set 7 (rsbox state[11] ^^^ expandedKey (round * 16 + 7))
  let state := state.set 11 (rsbox state[15] ^^^ expandedKey (round * 16 + 11))
  state.set 15 buf1

/-! Encryption and decryption. -/

/-- The loop of `aes_encr` after `n` turns. -/
def encrLoop (state : Block) (expandedKey : Mem) : Nat → Block
  | 0 => state
  | n + 1 => mixcolums (sboxShiftrows (encrLoop state expandedKey n) expandedKey n)

def aesEncr (state : Block) (expandedKey : Mem) : Block :=
  addroundkey (sboxShiftrows (encrLoop state expandedKey 9) expandedKey 9) expandedKey

/-- The loop of `aes_decr` from `round = n - 1` on. -/
def decrLoop (expandedKey : Mem) : Nat → Block → Block
  | 0, state => state
  | n + 1, state =>
    decrLoop expandedKey n (rsboxShiftrows (mixcolums (barreto state)) expandedKey n)

def aesDecr (state : Block) (expandedKey : Mem) : Block :=
  decrLoop expandedKey 9 (rsboxShiftrows (addroundkey state expandedKey) expandedKey 9)

/-- The block, and the global key array as the call leaves it. -/
def aesEncrypt (expandedKey : Mem) (state key : Block) : Block × Mem :=
  let expandedKey := expandKey expandedKey key
  (aesEncr state expandedKey, expandedKey)

def aesDecrypt (expandedKey : Mem) (state key : Block) : Block × Mem :=
  let expandedKey := expandKey expandedKey key
  (aesDecr state expandedKey, expandedKey)

end SpiderL3S
