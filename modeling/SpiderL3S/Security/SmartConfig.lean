import Mathlib.Data.List.GetD
import SpiderL3S.Recv
import SpiderL3S.Security.Fips
import SpiderL3S.Tx.Bounds

/- `wlan_smart_config_process` of `wlan.c`: the profile that Smart Config has left in a
   file is read, its key decrypted in place, and the profile added. In front of the encrypted
   32 bytes the file has the length and the bytes of the SSID, the length 32 and the
   security type. The length of the passphrase is the first decrypted byte, except that a
   passphrase of 32 bytes leaves no room for it; the code tells the cases apart by the last
   byte and a first byte of 31 (`trueKey_spec`). That is right for printable passphrases,
   since none of them has a zero or begins with 31 (`smartConfig_addsProfile`). -/
namespace SpiderL3S

def wlanSecUnsec : UInt8 := 0
def wlanSecWep : UInt8 := 1
def wlanSecWpa : UInt8 := 2
def wlanSecWpa2 : UInt8 := 3

/-- The arguments of `wlan_add_profile`. -/
structure AddProfile where
  ulSecType : UInt32
  ucSsid : Mem
  ulSsidLen : UInt32
  ucBssid : Option Mem
  ulPriority : UInt32
  ulPairwiseCipherOrTxKeyLen : UInt32
  ulGroupCipherTxKeyIndex : UInt32
  ulKeyMgmt : UInt32
  ucPfOrKey : Option Mem
  ulPassPhraseLen : UInt32

/-- The command it sends. -/
def AddProfile.command (a : AddProfile) (argLen : UInt16) : Command :=
  .wlanAddProfile a.ulSecType a.ucSsid a.ulSsidLen a.ucBssid a.ulPriority
    a.ulPairwiseCipherOrTxKeyLen a.ulGroupCipherTxKeyIndex a.ulKeyMgmt
    (a.ucPfOrKey.getD (Mem.ofList [])) a.ulPassPhraseLen argLen

/-- How `wlan_smart_config_process` ends: with a value of its own, or with that of
`wlan_add_profile`. -/
inductive SmartConfigEnd where
  | returns (returnValue : UInt32)
  | adds (profile : AddProfile)

/-- The block at offset `p`. -/
def Mem.block (m : Mem) (p : Nat) : Block := .ofFn fun i => m (p + i)

/-- `aes_decrypt` of the block at offset `p` of `state`: the array as it is left, and the global
key array. -/
def aesDecryptAt (expandedKey state : Mem) (p : Nat) (key : Mem) : Mem × Mem :=
  let (block, expandedKey) := aesDecrypt expandedKey (state.block p) (key.block 0)
  (state.store p block.toList, expandedKey)

/-- The two decryptions. -/
def decryptKey (expandedKey profileArray : Mem) (decKeyPtr : Nat) (key : Mem) : Mem :=
  let (profileArray, expandedKey) := aesDecryptAt expandedKey profileArray decKeyPtr key
  if 16 < profileArray ((profileArray 0).toNat + 1) then
    (aesDecryptAt expandedKey profileArray (decKeyPtr + 16) key).1
  else profileArray

/-- `keyLen`, and `decKeyPtr` where the key begins. -/
def trueKey (profileArray : Mem) (decKeyPtr : Nat) : UInt32 × Nat :=
  if profileArray (decKeyPtr + 31) ≠ 0 then
    if profileArray decKeyPtr = 31 then (31, decKeyPtr + 1) else (32, decKeyPtr)
  else ((profileArray decKeyPtr).toUInt32, decKeyPtr + 1)

/-- The switch over the security type; `returnValue` is that of the second read. -/
def addProfileSwitch (returnValue : UInt32) (profileArray : Mem) (keyLen : UInt32)
    (decKeyPtr : Nat) : SmartConfigEnd :=
  let ssidPtr := profileArray.drop 1
  let ssidLen := (profileArray 0).toUInt32
  let secType := profileArray ((profileArray 0).toNat + 2)
  if secType = wlanSecUnsec then
    .adds ⟨secType.toUInt32, ssidPtr, ssidLen, none, 1, 0, 0, 0, none, 0⟩
  else if secType = wlanSecWep then
    .adds ⟨secType.toUInt32, ssidPtr, ssidLen, none, 1, keyLen, 0, 0,
      some (profileArray.drop decKeyPtr), 0⟩
  else if secType = wlanSecWpa ∨ secType = wlanSecWpa2 then
    .adds ⟨wlanSecWpa2.toUInt32, ssidPtr, ssidLen, none, 1, 0x18, 0x1e, 2,
      some (profileArray.drop decKeyPtr), keyLen⟩
  else .returns returnValue

/-- What arrives while a read of the NVMEM waits: events until the reply, and packets
until the data. -/
structure NvmemReply where
  events : List Mem
  packets : List Mem

/-- `aes_read_key` behind its command, which asks for the 16 bytes of file 12. -/
def aesReadKey (sl : SLInfo) (key : Mem) (reply : NvmemReply) :
    Option (SLInfo × WaitArgs × UInt32) :=
  nvmemReadWaits sl key reply.events reply.packets

/-- `wlan_smart_config_process`. The second read asks for 67 bytes of file 13. None where
a read waits for good. -/
def wlanSmartConfigProcess (sl : SLInfo) (key profileArray expandedKey : Mem)
    (keyReply profileReply : NvmemReply) : Option SmartConfigEnd :=
  match aesReadKey sl key keyReply with
  | none => none
  | some (sl, keyArgs, returnValue) =>
    if returnValue ≠ 0 then some (.returns returnValue)
    else match nvmemReadWaits sl profileArray profileReply.events profileReply.packets with
    | none => none
    | some (_, profileArgs, returnValue) =>
      if returnValue ≠ 0 then some (.returns returnValue)
      else
        let key := keyArgs.ret.mem
        let profileArray := profileArgs.ret.mem
        let decKeyPtr := (profileArray 0).toNat + 3
        let profileArray := decryptKey expandedKey profileArray decKeyPtr key
        let (keyLen, decKeyPtr) := trueKey profileArray decKeyPtr
        some (addProfileSwitch returnValue profileArray keyLen decKeyPtr)

/-! The file, as the other side writes it. -/

/-- The 32 bytes that are encrypted for the passphrase `p`. -/
def paddedKey (p : List UInt8) : List UInt8 :=
  if p.length = 32 then p else p.length.toUInt8 :: p ++ List.replicate (31 - p.length) 0

def Block.ofList (bs : List UInt8) : Block := .ofFn fun i => bs.getD i 0

/-- The bytes of a block, encrypted. -/
def encrypted (key : Block) (bs : List UInt8) : List UInt8 :=
  (aesEncrypt (fun _ => 0) (Block.ofList bs) key).1.toList

/-- The shared memory file. -/
def profileFile (ssid : List UInt8) (secType : UInt8) (key : Block) (p : List UInt8) : List UInt8 :=
  ssid.length.toUInt8 :: ssid ++ [32, secType] ++ encrypted key ((paddedKey p).take 16) ++
    encrypted key ((paddedKey p).drop 16)

/-! The decryption in place. -/

theorem paddedKey_length {p : List UInt8} (hp : p.length ≤ 32) : (paddedKey p).length = 32 := by
  unfold paddedKey
  split
  · assumption
  · simp only [List.cons_append, List.length_cons, List.length_append, List.length_replicate]
    omega

theorem Block.toList_ofList {bs : List UInt8} (h : bs.length = 16) :
    (Block.ofList bs).toList = bs := by
  apply List.ext_getElem (by rw [Vector.length_toList, h])
  intro i hi hi'
  simp only [Vector.getElem_toList, Block.ofList, Vector.getElem_ofFn]
  rw [List.getD_eq_getElem?_getD, List.getElem?_eq_getElem hi', Option.getD_some]

theorem encrypted_length (key : Block) (bs : List UInt8) : (encrypted key bs).length = 16 :=
  Vector.length_toList

theorem Mem.block_eq {m : Mem} {p : Nat} {b : Block} (h : m.slice p 16 = b.toList) :
    m.block p = b := by
  apply Vector.ext
  intro i hi
  rw [Mem.block, Vector.getElem_ofFn, ← Mem.slice_getD m (p := p) hi, h,
    List.getD_eq_getElem?_getD, List.getElem?_eq_getElem (by rwa [Vector.length_toList]),
    Option.getD_some, Vector.getElem_toList]

/-- A block that holds what was encrypted holds the plain bytes after the call. -/
theorem aesDecryptAt_encrypted (expandedKey : Mem) {m key : Mem} {k : Block} {q : Nat}
    {bs : List UInt8} (hkey : key.block 0 = k) (hbs : bs.length = 16)
    (h : m.slice q 16 = encrypted k bs) :
    (aesDecryptAt expandedKey m q key).1 = m.store q bs := by
  have hblock : m.block q = (aesEncrypt (fun _ => 0) (Block.ofList bs) k).1 := Mem.block_eq h
  rw [aesDecryptAt, hkey, hblock]
  dsimp only
  rw [decrypt_encrypt, Block.toList_ofList hbs]

/-- Both halves are decrypted, and nothing else is changed. -/
theorem decryptKey_encrypted (expandedKey : Mem) {m key : Mem} {k : Block} {q : Nat}
    {bs : List UInt8} (hkey : key.block 0 = k) (hbs : bs.length = 32)
    (hlow : m.slice q 16 = encrypted k (bs.take 16))
    (hhigh : m.slice (q + 16) 16 = encrypted k (bs.drop 16)) (hlen : m ((m 0).toNat + 1) = 32)
    (hq : (m 0).toNat + 1 < q) : decryptKey expandedKey m q key = m.store q bs := by
  have htake : (bs.take 16).length = 16 := by rw [List.length_take]; omega
  have hdrop : (bs.drop 16).length = 16 := by rw [List.length_drop]; omega
  have hfirst := aesDecryptAt_encrypted expandedKey hkey htake hlow
  rw [decryptKey]
  generalize aesDecryptAt expandedKey m q key = first at hfirst
  obtain ⟨m₁, expandedKey₁⟩ := first
  obtain rfl : m₁ = m.store q (bs.take 16) := hfirst
  dsimp only
  have hsame : (m.store q (bs.take 16)) 0 = m 0 := m.store_out (by omega)
  have hhigh₁ : (m.store q (bs.take 16)).slice (q + 16) 16 = encrypted k (bs.drop 16) := by
    rw [← hhigh]
    apply Mem.slice_congr
    intro i hi
    exact m.store_out (by omega)
  have hlen₁ : (m.store q (bs.take 16)) ((m 0).toNat + 1) = 32 := by
    rw [m.store_out (by omega), hlen]
  rw [hsame, hlen₁, if_pos (by decide), aesDecryptAt_encrypted _ hkey hdrop hhigh₁]
  have htwo := m.store_store q (bs.take 16) (bs.drop 16)
  rwa [htake, List.take_append_drop] at htwo

/-! The length of the passphrase. -/

/-- A passphrase that can be typed. -/
def Printable (p : List UInt8) : Prop := ∀ b ∈ p, 0x20 ≤ b ∧ b ≤ 0x7E

instance (p : List UInt8) : Decidable (Printable p) :=
  inferInstanceAs (Decidable (∀ b ∈ p, 0x20 ≤ b ∧ b ≤ 0x7E))

theorem Printable.bounds {p : List UInt8} (h : Printable p) {i : Nat} (hi : i < p.length) :
    32 ≤ (p[i]).toNat ∧ (p[i]).toNat ≤ 126 :=
  ⟨UInt8.le_iff_toNat_le.mp (h _ (List.getElem_mem hi)).1,
    UInt8.le_iff_toNat_le.mp (h _ (List.getElem_mem hi)).2⟩

/-- No byte below the blank is in it. -/
theorem Printable.ne {p : List UInt8} (h : Printable p) {i : Nat} (hi : i < p.length) {b : UInt8}
    (hb : b.toNat < 32) : p[i] ≠ b := by
  intro heq
  have hbounds := h.bounds hi
  rw [heq] at hbounds
  omega

theorem paddedKey_short {p : List UInt8} (h : p.length ≠ 32) :
    paddedKey p = p.length.toUInt8 :: p ++ List.replicate (31 - p.length) 0 := if_neg h

/-- Behind the length byte stands the passphrase. -/
theorem slice_paddedKey {m : Mem} {q : Nat} {p : List UInt8} (hp : p.length < 32)
    (h : m.slice q 32 = paddedKey p) : m.slice (q + 1) p.length = p := by
  have hhead : m.slice q 1 ++ m.slice (q + 1) p.length = p.length.toUInt8 :: p :=
    calc m.slice q 1 ++ m.slice (q + 1) p.length = m.slice q (1 + p.length) := m.slice_append q 1 _
      _ = (m.slice q 32).take (1 + p.length) := (m.take_slice (by omega)).symm
      _ = (p.length.toUInt8 :: p).take (1 + p.length) := by
        rw [h, paddedKey_short (by omega),
          List.take_append_of_le_length (by rw [List.length_cons]; omega)]
      _ = p.length.toUInt8 :: p := List.take_of_length_le (by rw [List.length_cons]; omega)
  exact (List.cons.inj hhead).2

theorem paddedKey_byte {m : Mem} {q : Nat} {p : List UInt8} (h : m.slice q 32 = paddedKey p)
    {i : Nat} (hi : i < 32) : m (q + i) = (paddedKey p).getD i 0 := by
  rw [← h, Mem.slice_getD m hi]

/-- Without a length byte the last byte is a character, and so is the first. -/
theorem trueKey_full {m : Mem} {q : Nat} {p : List UInt8} (hp : p.length = 32)
    (hprint : Printable p) (h : m.slice q 32 = paddedKey p) : trueKey m q = (32, q) := by
  have hpad : paddedKey p = p := if_pos hp
  have hfirst : m q = p[0] := by
    have hbyte := paddedKey_byte h (i := 0) (by decide)
    rwa [hpad, List.getD_eq_getElem _ _ (by omega)] at hbyte
  have hlast : m (q + 31) = p[31] := by
    have hbyte := paddedKey_byte h (i := 31) (by decide)
    rwa [hpad, List.getD_eq_getElem _ _ (by omega)] at hbyte
  rw [trueKey, hlast, hfirst, if_pos (hprint.ne (by omega) (by decide)),
    if_neg (hprint.ne (by omega) (by decide))]

/-- Behind 31 characters there is no padding, and the first byte is their number. -/
theorem trueKey_31 {m : Mem} {q : Nat} {p : List UInt8} (hp : p.length = 31)
    (hprint : Printable p) (h : m.slice q 32 = paddedKey p) : trueKey m q = (31, q + 1) := by
  have hpad := paddedKey_short (p := p) (by omega)
  have hfirst : m q = 31 := by
    have hbyte := paddedKey_byte h (i := 0) (by decide)
    rw [hpad, hp] at hbyte
    exact hbyte
  have hlast : m (q + 31) = p[30] := by
    rw [paddedKey_byte h (by decide), hpad, List.getD_eq_getElem _ _ (by simp; omega)]
    simp [hp]
  rw [trueKey, hlast, hfirst, if_pos (hprint.ne (by omega) (by decide)), if_pos rfl]

/-- The last byte is padding otherwise. -/
theorem trueKey_short {m : Mem} {q : Nat} {p : List UInt8} (hp : p.length < 31)
    (h : m.slice q 32 = paddedKey p) : trueKey m q = (p.length.toUInt8.toUInt32, q + 1) := by
  have hpad := paddedKey_short (p := p) (by omega)
  have hfirst : m q = p.length.toUInt8 := by
    have hbyte := paddedKey_byte h (i := 0) (by decide)
    rw [hpad] at hbyte
    exact hbyte
  have hlast : m (q + 31) = 0 := by
    rw [paddedKey_byte h (by decide), hpad, List.getD_eq_getElem _ _ (by simp; omega),
      List.getElem_append_right (by simp; omega), List.getElem_replicate]
  rw [trueKey, hlast, hfirst, if_neg (by simp)]

/-- The three cases come apart, and each gives the passphrase back. -/
theorem trueKey_spec {m : Mem} {q : Nat} {p : List UInt8} (hp : p.length ≤ 32)
    (hprint : Printable p) (h : m.slice q 32 = paddedKey p) :
    (trueKey m q).1 = p.length.toUInt32 ∧ m.slice (trueKey m q).2 p.length = p := by
  by_cases hfull : p.length = 32
  · have hpad : paddedKey p = p := if_pos hfull
    rw [trueKey_full hfull hprint h, hfull]
    exact ⟨rfl, h.trans hpad⟩
  · have hkey := slice_paddedKey (by omega) h
    by_cases hnext : p.length = 31
    · rw [trueKey_31 hnext hprint h]
      exact ⟨by rw [hnext]; rfl, hkey⟩
    · rw [trueKey_short (by omega) h]
      refine ⟨?_, hkey⟩
      apply UInt32.toNat_inj.mp
      simp
      omega

/-! The whole file. -/

/-- The profile of an SSID and a passphrase. An open network has none. -/
def AddsProfile (ssid : List UInt8) (secType : UInt8) (p : List UInt8) (a : AddProfile) : Prop :=
  a.ulSsidLen.toNat = ssid.length ∧ a.ucSsid.slice 0 ssid.length = ssid ∧
    if secType = wlanSecUnsec then a.ulSecType = wlanSecUnsec.toUInt32
    else a.ulSecType = wlanSecWpa2.toUInt32 ∧ a.ulPassPhraseLen.toNat = p.length ∧
      ∃ ucPfOrKey, a.ucPfOrKey = some ucPfOrKey ∧ ucPfOrKey.slice 0 p.length = p

/-- The fields of a file in memory. -/
structure HoldsProfile (m : Mem) (ssid : List UInt8) (secType : UInt8) (k : Block)
    (p : List UInt8) : Prop where
  length : (m 0).toNat = ssid.length
  name : m.slice 1 ssid.length = ssid
  keyLength : m (ssid.length + 1) = 32
  kind : m (ssid.length + 2) = secType
  low : m.slice (ssid.length + 3) 16 = encrypted k ((paddedKey p).take 16)
  high : m.slice (ssid.length + 3 + 16) 16 = encrypted k ((paddedKey p).drop 16)

/-- A slice of a slice. -/
theorem Mem.slice_of_append {m : Mem} {p n : Nat} {a b c : List UInt8}
    (h : m.slice p n = a ++ b ++ c) : m.slice (p + a.length) b.length = b := by
  have hn : n = a.length + b.length + c.length := by
    have hlen := congrArg List.length h
    rwa [Mem.slice_length, List.length_append, List.length_append] at hlen
  rw [hn, ← m.slice_append, ← m.slice_append] at h
  have hab := List.append_inj_left h (by simp only [List.length_append, Mem.slice_length])
  exact List.append_inj_right hab (Mem.slice_length _ _ _)

theorem holdsProfile {m : Mem} {ssid : List UInt8} {secType : UInt8} {k : Block} {p : List UInt8}
    (hssid : ssid.length ≤ 32)
    (h : m.slice 0 (ssid.length + 35) = profileFile ssid secType k p) :
    HoldsProfile m ssid secType k p := by
  have hlow := encrypted_length k ((paddedKey p).take 16)
  have hhigh := encrypted_length k ((paddedKey p).drop 16)
  unfold profileFile at h
  generalize hlo : encrypted k ((paddedKey p).take 16) = low at h hlow
  generalize hhi : encrypted k ((paddedKey p).drop 16) = high at h hhigh
  have part : ∀ a b c : List UInt8, m.slice 0 (ssid.length + 35) = a ++ b ++ c →
      m.slice a.length b.length = b := by
    intro a b c habc
    have hb := Mem.slice_of_append habc
    rwa [Nat.zero_add] at hb
  have hhead : m.slice 0 1 = [ssid.length.toUInt8] :=
    part [] [ssid.length.toUInt8] (ssid ++ [32, secType] ++ low ++ high) (by simp [h])
  have hname : m.slice 1 ssid.length = ssid :=
    part [ssid.length.toUInt8] ssid ([32, secType] ++ low ++ high) (by simp [h])
  have hkind : m.slice (ssid.length + 1) 2 = [32, secType] :=
    part (ssid.length.toUInt8 :: ssid) [32, secType] (low ++ high) (by simp [h])
  have hl := part (ssid.length.toUInt8 :: ssid ++ [32, secType]) low high h
  have hh := part (ssid.length.toUInt8 :: ssid ++ [32, secType] ++ low) high [] (by simp [h])
  have hpre : (ssid.length.toUInt8 :: ssid ++ [32, secType]).length = ssid.length + 3 := by simp
  rw [hpre, hlow] at hl
  rw [List.length_append, hpre, hlow, hhigh] at hh
  obtain ⟨hthirty, hsec⟩ := List.cons.inj hkind
  refine ⟨?_, hname, hthirty, (List.cons.inj hsec).1, hl.trans hlo.symm,
    hh.trans hhi.symm⟩
  rw [show m 0 = ssid.length.toUInt8 from (List.cons.inj hhead).1, UInt8.toNat_ofNat']
  omega

/-- The fields once the key is decrypted. -/
structure HoldsKey (m : Mem) (ssid : List UInt8) (secType : UInt8) (p : List UInt8) : Prop where
  length : (m 0).toNat = ssid.length
  name : m.slice 1 ssid.length = ssid
  kind : m (ssid.length + 2) = secType
  key : m.slice (ssid.length + 3) 32 = paddedKey p

/-- The fields in front of the key are left as they are. -/
theorem HoldsProfile.holdsKey (expandedKey : Mem) {m key : Mem} {ssid : List UInt8}
    {secType : UInt8} {k : Block} {p : List UInt8} (hm : HoldsProfile m ssid secType k p)
    (hkey : key.block 0 = k) (hp : p.length ≤ 32) :
    HoldsKey (decryptKey expandedKey m ((m 0).toNat + 3) key) ssid secType p := by
  have hpad := paddedKey_length hp
  have hdec : decryptKey expandedKey m ((m 0).toNat + 3) key =
      m.store (ssid.length + 3) (paddedKey p) := by
    rw [hm.length]
    exact decryptKey_encrypted expandedKey hkey hpad hm.low hm.high
      (by rw [hm.length, hm.keyLength]) (by rw [hm.length]; omega)
  have hout : ∀ i < ssid.length + 3, m.store (ssid.length + 3) (paddedKey p) i = m i :=
    fun i hi => m.store_out (by omega)
  rw [hdec]
  refine ⟨?_, ?_, ?_, ?_⟩
  · rw [hout 0 (by omega), hm.length]
  · exact (Mem.slice_congr fun i hi => hout _ (by omega)).trans hm.name
  · rw [hout _ (by omega), hm.kind]
  · rw [← hpad, Mem.slice_store]

/-- From there the switch takes the call. -/
theorem HoldsKey.addsProfile {m : Mem} {ssid : List UInt8} {secType : UInt8} {p : List UInt8}
    (hm : HoldsKey m ssid secType p) (hp : p.length ≤ 32) (hprint : Printable p)
    (htype : secType = wlanSecUnsec ∨ secType = wlanSecWpa ∨ secType = wlanSecWpa2) :
    ∃ a, addProfileSwitch 0 m (trueKey m ((m 0).toNat + 3)).1 (trueKey m ((m 0).toNat + 3)).2 =
        .adds a ∧ AddsProfile ssid secType p a := by
  obtain ⟨hlen, hbytes⟩ := trueKey_spec hp hprint hm.key
  rw [hm.length]
  have hlen' : (trueKey m (ssid.length + 3)).1.toNat = p.length := by
    rw [hlen, UInt32.toNat_ofNat']
    omega
  generalize trueKey m (ssid.length + 3) = t at hlen' hbytes
  have hssidLen : ((m 0).toUInt32).toNat = ssid.length := by rw [UInt8.toNat_toUInt32, hm.length]
  have hname : (m.drop 1).slice 0 ssid.length = ssid := (m.drop_slice 1 0 _).trans hm.name
  have hkind : m ((m 0).toNat + 2) = secType := by rw [hm.length, hm.kind]
  have hslice : (m.drop t.2).slice 0 p.length = p := by rwa [Mem.drop_slice, Nat.add_zero]
  rw [addProfileSwitch, hkind]
  rcases htype with rfl | rfl | rfl
  · exact ⟨_, rfl, hssidLen, hname, rfl⟩
  · exact ⟨_, rfl, hssidLen, hname, rfl, hlen', _, rfl, hslice⟩
  · exact ⟨_, rfl, hssidLen, hname, rfl, hlen', _, rfl, hslice⟩

/-- **Smart Config gives back the network.** For every SSID and every printable
passphrase, the two reads successful and the file as laid out, `wlan_add_profile` is
called with the SSID and its length, and for WPA and WPA2 with type WPA2, the passphrase
and its length. -/
theorem smartConfig_addsProfile {sl sl₁ sl₂ : SLInfo} {key profileArray : Mem} (expandedKey : Mem)
    {keyReply profileReply : NvmemReply} {keyArgs profileArgs : WaitArgs}
    {ssid p : List UInt8} {secType : UInt8} {k : Block}
    (hssid : ssid.length ≤ 32) (hp : p.length ≤ 32) (hprint : Printable p)
    (htype : secType = wlanSecUnsec ∨ secType = wlanSecWpa ∨ secType = wlanSecWpa2)
    (hkey : aesReadKey sl key keyReply = some (sl₁, keyArgs, 0))
    (hkeyBytes : keyArgs.ret.mem.slice 0 16 = k.toList)
    (hprofile : nvmemReadWaits sl₁ profileArray profileReply.events profileReply.packets =
      some (sl₂, profileArgs, 0))
    (hfile : profileArgs.ret.mem.slice 0 (ssid.length + 35) = profileFile ssid secType k p) :
    ∃ a, wlanSmartConfigProcess sl key profileArray expandedKey keyReply profileReply =
        some (.adds a) ∧ AddsProfile ssid secType p a := by
  have hheld := (holdsProfile hssid hfile).holdsKey expandedKey (Mem.block_eq hkeyBytes) hp
  have hbefore := (holdsProfile hssid hfile).length
  obtain ⟨a, hadds, ha⟩ := hheld.addsProfile hp hprint htype
  rw [hheld.length, ← hbefore] at hadds
  refine ⟨a, ?_, ha⟩
  rw [wlanSmartConfigProcess, hkey]
  dsimp only
  rw [if_neg (by decide), hprofile]
  dsimp only
  rw [if_neg (by decide), hadds]

/-- The command for such a profile stays inside the transmit buffer. -/
theorem AddsProfile.command_inside {ssid p : List UInt8} {secType : UInt8} {a : AddProfile}
    (h : AddsProfile ssid secType p a) (hssid : ssid.length ≤ 32) (hp : p.length ≤ 32)
    (argLen : UInt16) : (a.command argLen).Inside := by
  obtain ⟨hlen, -, hkind⟩ := h
  apply (command_inside_iff _).mpr
  rw [AddProfile.command, Command.Fits]
  split at hkind
  · rw [hkind]
    show 24 + a.ulSsidLen.toNat ≤ 201
    omega
  · obtain ⟨htype, hkeyLen, -⟩ := hkind
    rw [htype]
    show 44 + a.ulSsidLen.toNat + a.ulPassPhraseLen.toNat ≤ 201
    omega

/-- A data frame that carries `bs`. -/
def carries (bs : List UInt8) : Mem :=
  Mem.ofList ([hciTypeData, 0, 0] ++ uint16Bytes bs.length.toUInt16 ++ bs)

theorem slice_ofList_append (a b : List UInt8) :
    (Mem.ofList (a ++ b)).slice a.length b.length = b := by
  apply List.ext_getElem (Mem.slice_length _ _ _)
  intro i hi hi'
  simp only [Mem.slice, List.getElem_map, List.getElem_range, Mem.ofList]
  rw [List.getD_eq_getElem?_getD, List.getElem?_append_right (by omega), Nat.add_sub_cancel_left,
    List.getElem?_eq_getElem hi', Option.getD_some]

theorem dataBytes_carries {bs : List UInt8} (h : bs.length < 65536) :
    dataBytes (carries bs) = bs := by
  have hlen : streamToUint16 (carries bs) hciPacketLengthOffset = bs.length.toUInt16 :=
    streamToUint16_of_slice rfl
  have hsize : streamToUint8 (carries bs) hciPacketArgsizeOffset = 0 := rfl
  have hcount : (bs.length.toUInt16 - (0 : UInt8).toUInt16).toNat = bs.length := by
    rw [show (0 : UInt8).toUInt16 = 0 from rfl, UInt16.sub_zero, UInt16.toNat_ofNat']
    exact Nat.mod_eq_of_lt h
  rw [dataBytes, hlen, hsize, hcount]
  exact slice_ofList_append ([hciTypeData, 0, 0] ++ uint16Bytes bs.length.toUInt16) bs

/-- A read that is answered with success and with `bs`. -/
def nvmemAnswer (bs : List UInt8) : NvmemReply where
  events := [replyEvent hciCmndNvmemRead (Mem.ofList [])]
  packets := [carries bs]

theorem nvmemReadWaits_answer (buff : Mem) (bs : List UInt8) (h : bs.length < 65536) :
    ∃ args, nvmemReadWaits (SLInfo.start true) buff (nvmemAnswer bs).events
        (nvmemAnswer bs).packets = some (SLInfo.start true, args, 0) ∧
      args.ret.mem.slice 0 bs.length = bs := by
  have hdata : ¬ IsEvent (carries bs) := fun h =>
    absurd (show hciTypeData = hciTypeEvnt from h) (by decide)
  obtain ⟨args, hread⟩ : ∃ args, nvmemReadWaits (SLInfo.start true) buff (nvmemAnswer bs).events
      (nvmemAnswer bs).packets = some (SLInfo.start true, args, 0) := ⟨_, rfl⟩
  refine ⟨args, hread, ?_⟩
  rw [nvmemReadWaits_ret hdata hread, dataBytes_carries h, Stream.poke_mem]
  exact Mem.slice_store buff 0 bs

/-- The network "net" with the passphrase "secret". -/
theorem smartConfig_addsProfile_net :
    ∃ a, wlanSmartConfigProcess (SLInfo.start true) (Mem.ofList []) (Mem.ofList []) (Mem.ofList [])
        (nvmemAnswer (Block.ofList [1]).toList)
        (nvmemAnswer (profileFile [0x6e, 0x65, 0x74] wlanSecWpa (Block.ofList [1])
          [0x73, 0x65, 0x63, 0x72, 0x65, 0x74])) = some (.adds a) ∧
      AddsProfile [0x6e, 0x65, 0x74] wlanSecWpa [0x73, 0x65, 0x63, 0x72, 0x65, 0x74] a := by
  have hlen : (profileFile [0x6e, 0x65, 0x74] wlanSecWpa (Block.ofList [1])
      [0x73, 0x65, 0x63, 0x72, 0x65, 0x74]).length = 38 := by
    simp only [profileFile, List.cons_append, List.nil_append, List.length_cons, List.length_append,
      encrypted_length]
  obtain ⟨keyArgs, hkey, hkeyBytes⟩ := nvmemReadWaits_answer (Mem.ofList [])
    (Block.ofList [1]).toList (by rw [Vector.length_toList]; decide)
  obtain ⟨profileArgs, hprofile, hfile⟩ := nvmemReadWaits_answer (Mem.ofList [])
    (profileFile [0x6e, 0x65, 0x74] wlanSecWpa (Block.ofList [1])
      [0x73, 0x65, 0x63, 0x72, 0x65, 0x74]) (by rw [hlen]; decide)
  rw [hlen] at hfile
  exact smartConfig_addsProfile (Mem.ofList []) (by decide) (by decide) (by decide +kernel)
    (.inr (.inl rfl)) hkey hkeyBytes hprofile hfile

end SpiderL3S
