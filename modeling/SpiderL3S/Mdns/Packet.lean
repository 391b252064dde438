import Mathlib.Data.List.GetD
import SpiderL3S.Evnt
import SpiderL3S.Lib.CString
import SpiderL3S.Tx.Commands

/- The mDNS packet that `mdnsAdvertiser` builds in the `MDNS_ADVERTISE_HOST` variant. A
   packet for a device without a name is laid out by a moving pointer (`mdnsLayout`), with
   fixed numbers in place of offsets. The name is then put in at two places, what lies
   behind is moved up each time, and the lengths and the last pointer are corrected.

   What the layout leaves in the zeroed buffer is a list of bytes (`Filled`), one part
   of it for each answer. The later steps change a byte of such a list, put bytes into it or
   add to its end (`Holds`), so that the packet is known for every name
   (`mdnsBuild_holds`). It takes 177 bytes and the name twice, and the buffer has 220
   (`mdnsBuild_inside_iff`). -/
namespace SpiderL3S

/-! The function. -/

-- `_device-info`, `_udp`, `local`, `_services`, `_dns-sd`
def deviceInfoText : List UInt8 :=
  [0x5f, 0x64, 0x65, 0x76, 0x69, 0x63, 0x65, 0x2d, 0x69, 0x6e, 0x66, 0x6f]
def udpText : List UInt8 := [0x5f, 0x75, 0x64, 0x70]
def localText : List UInt8 := [0x6c, 0x6f, 0x63, 0x61, 0x6c]
def servicesText : List UInt8 := [0x5f, 0x73, 0x65, 0x72, 0x76, 0x69, 0x63, 0x65, 0x73]
def dnsSdText : List UInt8 := [0x5f, 0x64, 0x6e, 0x73, 0x2d, 0x73, 0x64]

-- `dev=CC3000`, `vendor=Texas-Instruments`
def devText : List UInt8 := [0x64, 0x65, 0x76, 0x3d, 0x43, 0x43, 0x33, 0x30, 0x30, 0x30]
def vendorText : List UInt8 :=
  [0x76, 0x65, 0x6e, 0x64, 0x6f, 0x72, 0x3d, 0x54, 0x65, 0x78, 0x61, 0x73, 0x2d, 0x49, 0x6e, 0x73,
    0x74, 0x72, 0x75, 0x6d, 0x65, 0x6e, 0x74, 0x73]

/-- The pointer is set to a place of the buffer. -/
def Stream.goto (s : Stream) (p : Nat) : Stream := { s with ptr := p }

/-- `memmove(&buffer[dst], &buffer[src], n)`. -/
def Stream.memmove (s : Stream) (dst src n : Nat) : Stream :=
  { s with
    mem := s.mem.store dst (s.mem.slice src n)
    written := s.written ++ List.range' dst n }

/-- `sizeof(mdnsResponse)`. -/
def mdnsResponseSize : Nat := 220

/-- `memset`, and the mDNS header. -/
def mdnsHeader (s : Stream) : Stream :=
  let s := s.poke (List.replicate mdnsResponseSize 0)
  let s := (s.goto 2).poke [0x84]
  let s := (s.goto 7).poke [0x5]
  s.goto 12

/-- The device service name. -/
def mdnsAnswer1 (s : Stream) : Stream :=
  let s := ((s.put [12]).poke deviceInfoText).skip 12
  let s := ((s.put [4]).poke udpText).skip 4
  let s := ((s.put [5]).poke localText).skip 7
  let s := (s.poke [0xc]).skip 2
  let s := (s.poke [0x1]).skip 3
  let s := ((s.put [0x11]).poke [0x94]).skip 4
  (s.put [0xc0]).put [0x0c]

/-- The device-info service. -/
def mdnsAnswer2 (s : Stream) : Stream :=
  let s := ((s.put [9]).poke servicesText).skip 9
  let s := ((s.put [7]).poke dnsSdText).skip 7
  let s := ((s.put [4]).poke udpText).skip 4
  let s := ((s.put [5]).poke localText).skip 7
  let s := (s.poke [0xc]).skip 2
  let s := (s.poke [0x1]).skip 3
  let s := ((s.put [0x11]).poke [0x94]).skip 2
  ((s.put [2]).put [0xc0]).put [0x0c]

/-- TXT record of the service. -/
def mdnsAnswer3 (s : Stream) : Stream :=
  let s := ((s.put [0xc0]).poke [0x2f]).skip 2
  let s := (s.put [0x10]).put [0x80]
  let s := (s.poke [0x1]).skip 3
  let s := ((s.put [0x11]).poke [0x94]).skip 2
  let s := s.put [36]
  let s := ((s.put [10]).poke devText).skip 10
  ((s.put [24]).poke vendorText).skip 24

/-- SRV record of the service. -/
def mdnsAnswer4 (s : Stream) : Stream :=
  let s := ((s.put [0xc0]).poke [0x2f]).skip 2
  let s := (s.put [0x21]).put [0x80]
  let s := (s.poke [0x1]).skip 3
  let s := ((s.put [0x11]).poke [0x94]).skip 2
  let s := ((s.skip 5).put [0x4]).put [0xd2]
  ((s.skip 1).put [0xc0]).put [0x1e]

/-- ADDRESS record of the service. The pointer is the place where it stands less 4. -/
def mdnsAnswer5 (s : Stream) : Stream :=
  let s := s.put [0xc0]
  let s := (s.poke [(s.ptr - 4).toUInt8]).skip 2
  let s := (s.put [0x1]).put [0x80]
  let s := (s.poke [0x1]).skip 3
  let s := ((s.put [0x11]).poke [0x94]).skip 2
  s.put [4]

/-- The domain of the first answer: its length, and the name put in at 48. -/
def mdnsDomain (s : Stream) (mdnsResponseLength : Nat) (deviceServiceName : List UInt8) : Stream :=
  let deviceNameLen := deviceServiceName.length
  let s := (s.goto 46).put [(3 + deviceNameLen).toUInt8]
  let s := s.put [deviceNameLen.toUInt8]
  let s := s.memmove (s.ptr + deviceNameLen) s.ptr (mdnsResponseLength - 48)
  s.poke deviceServiceName

/-- The data length of SRV, and the name put in for its target. -/
def mdnsTarget (s : Stream) (mdnsResponseLength : Nat) (deviceServiceName : List UInt8) : Stream :=
  let deviceNameLen := deviceServiceName.length
  let s := (s.goto (151 + deviceNameLen)).poke [(9 + deviceNameLen).toUInt8]
  let s := (s.goto (158 + deviceNameLen)).put [deviceNameLen.toUInt8]
  let s := s.memmove (s.ptr + deviceNameLen) s.ptr (mdnsResponseLength - 158)
  s.poke deviceServiceName

/-- The end of the packet: the address, and its owner's pointer. -/
def mdnsAddress (s : Stream) (mdnsResponseLength deviceNameLen : Nat) (localIP : Mem) : Stream :=
  let s := s.goto (mdnsResponseLength + deviceNameLen + deviceNameLen)
  let s := (((s.put [localIP 3]).put [localIP 2]).put [localIP 1]).put [localIP 0]
  let owner := s.mem (s.ptr - 15) + deviceNameLen.toUInt8
  ((s.goto (s.ptr - 15)).poke [owner]).goto s.ptr

/-- The packet without the name and the address. -/
def mdnsLayout (stack : Mem) : Stream :=
  mdnsAnswer5 (mdnsAnswer4 (mdnsAnswer3 (mdnsAnswer2 (mdnsAnswer1 (mdnsHeader ⟨0, stack, []⟩)))))

/-- The buffer when the packet is finished, the pointer at its end; `stack` is what is on
the stack before. -/
def mdnsBuild (stack : Mem) (deviceServiceName : List UInt8) (localIP : Mem) : Stream :=
  let s := mdnsLayout stack
  let mdnsResponseLength := s.ptr
  let s := mdnsDomain s mdnsResponseLength deviceServiceName
  let s := mdnsTarget s mdnsResponseLength deviceServiceName
  mdnsAddress s mdnsResponseLength deviceServiceName.length localIP

/-- `tSocketAddr`: port 5353 at 224.0.0.251; the rest is what is on the stack. -/
def mdnsSocketAddr (stack : Mem) : Mem :=
  stack.store 0 [2, 0, 0x14, 0xe9, 0xe0, 0x00, 0x00, 0xfb]

/-- How the function ends: before the packet is built, or with `sendto`, after which the
socket is closed. -/
inductive MdnsEnd where
  | returns (ret : Int16)
  | sends (mdnsResponse : Stream) (mdnsResponseLength : Nat) (call : Command)

/-- `mdnsAdvertiser` with `MDNS_ADVERTISE_HOST`. `deviceServiceName` is the array the pointer
leads to, `mdnsSocket` the result of `socket`, and `res` that of the wait for a free
buffer in `sendto`. -/
def mdnsAdvertiserHost (stack : Mem) (deviceServiceName : Option (List UInt8))
    (deviceServiceNameLength : UInt16) (localIP : Mem) (mdnsSocket : Int32) (res : Int16) :
    MdnsEnd :=
  match deviceServiceName with
  | none => .returns (-1)
  | some name =>
    if deviceServiceNameLength > mdnsDeviceServiceMaxLength then .returns (-1)
    else if mdnsSocket < 0 then .returns (-1)
    else
      let s := mdnsBuild stack (CString.text name) localIP
      .sends s s.ptr
        (.sendto res mdnsSocket s.mem mdnsResponseSize.toInt32 0 (mdnsSocketAddr stack)
          s.ptr.toUInt32)

/-! The layout without a name. -/

def deviceInfoName : List UInt8 :=
  12 :: deviceInfoText ++ 4 :: udpText ++ 5 :: localText ++ [0]
def servicesName : List UInt8 :=
  9 :: servicesText ++ 7 :: dnsSdText ++ 4 :: udpText ++ 5 :: localText ++ [0]

def mdnsHeaderBytes : List UInt8 := [0, 0, 0x84, 0, 0, 0, 0, 5, 0, 0, 0, 0]

def mdnsAnswer1Bytes : List UInt8 :=
  deviceInfoName ++ [0, 0xc, 0, 1, 0, 0, 0x11, 0x94, 0] ++ [0, 0] ++ [0xc0, 0x0c]

def mdnsAnswer2Bytes : List UInt8 :=
  servicesName ++ [0, 0xc, 0, 1, 0, 0, 0x11, 0x94, 0, 2] ++ [0xc0, 0x0c]

def mdnsAnswer3Bytes : List UInt8 :=
  [0xc0, 0x2f] ++ [0, 0x10, 0x80, 1, 0, 0, 0x11, 0x94, 0, 36] ++ 10 :: devText ++ 24 :: vendorText

def mdnsAnswer4Bytes : List UInt8 :=
  [0xc0, 0x2f] ++ [0, 0x21, 0x80, 1, 0, 0, 0x11, 0x94, 0] ++ [0] ++ [0, 0, 0, 0, 0x4, 0xd2] ++ [0] ++
    [0xc0, 0x1e]

def mdnsAnswer5Bytes (place : UInt8) : List UInt8 :=
  [0xc0, place] ++ [0, 1, 0x80, 1, 0, 0, 0x11, 0x94, 0, 4]

/-- `bs` has been laid out from the start of the zeroed buffer, and the pointer is behind. -/
structure Filled (s : Stream) (bs : List UInt8) : Prop where
  ptr : s.ptr = bs.length
  mem : ∀ i < mdnsResponseSize, s.mem i = bs.getD i 0
  written : ∀ i ∈ s.written, i < max mdnsResponseSize bs.length

namespace Filled
variable {s : Stream} {bs : List UInt8}

theorem put (h : Filled s bs) (xs : List UInt8) : Filled (s.put xs) (bs ++ xs) where
  ptr := by rw [Stream.put_ptr, h.ptr, List.length_append]
  mem := by
    intro i hi
    rw [Stream.put_mem, h.ptr]
    by_cases hold : i < bs.length
    · rw [List.getD_append _ _ _ _ hold, Mem.store_out _ (by omega), h.mem i hi]
    · rw [List.getD_append_right _ _ _ _ (by omega)]
      by_cases hnew : i < bs.length + xs.length
      · rw [Mem.store_in _ (by omega) hnew]
      · rw [Mem.store_out _ (by omega), h.mem i hi, List.getD_eq_default _ _ (by omega),
          List.getD_eq_default _ _ (by omega)]
  written := by
    intro i hi
    rw [Stream.put_written, List.mem_append, List.mem_range'_1, h.ptr] at hi
    rw [List.length_append]
    rcases hi with hi | hi
    · exact Nat.lt_of_lt_of_le (h.written i hi) (by omega)
    · omega

theorem skip (h : Filled s bs) (n : Nat) : Filled (s.skip n) (bs ++ List.replicate n 0) where
  ptr := by rw [List.length_append, List.length_replicate, ← h.ptr]; rfl
  mem := by
    intro i hi
    rw [show (s.skip n).mem = s.mem from rfl, h.mem i hi]
    by_cases hold : i < bs.length
    · rw [List.getD_append _ _ _ _ hold]
    · rw [List.getD_append_right _ _ _ _ (by omega), List.getD_eq_default _ _ (by omega)]
      simp only [List.getD_eq_getElem?_getD, List.getElem?_replicate]
      split <;> rfl
  written := by
    intro i hi
    rw [List.length_append]
    exact Nat.lt_of_lt_of_le (h.written i hi) (by omega)

/-- What is stored at the pointer before it moves over it is laid out. -/
theorem pokeSkip (h : Filled s bs) (xs : List UInt8) (n : Nat) (hn : xs.length ≤ n) :
    Filled ((s.poke xs).skip n) (bs ++ (xs ++ List.replicate (n - xs.length) 0)) := by
  have heq : (s.poke xs).skip n = (s.put xs).skip (n - xs.length) := by
    simp only [Stream.skip, Stream.poke, Stream.put]
    congr 1
    omega
  rw [heq, ← List.append_assoc]
  exact (h.put xs).skip _

theorem header (stack : Mem) : Filled (mdnsHeader ⟨0, stack, []⟩) mdnsHeaderBytes where
  ptr := rfl
  mem := by
    intro i hi
    simp only [mdnsHeader, Stream.goto, Stream.poke_mem]
    have hzero : Mem.store stack 0 (List.replicate mdnsResponseSize 0) i = 0 := by
      rw [Mem.store_in _ (Nat.zero_le i) (by rw [List.length_replicate]; omega),
        List.getD_eq_getElem?_getD, List.getElem?_replicate]
      split <;> rfl
    by_cases h7 : i = 7
    · subst h7
      rfl
    by_cases h2 : i = 2
    · subst h2
      rfl
    rw [Mem.store_out _ (by simp; omega), Mem.store_out _ (by simp; omega), hzero]
    by_cases hin : i < 12
    · have hall : ∀ i < 12, i ≠ 7 → i ≠ 2 → mdnsHeaderBytes.getD i 0 = 0 := by decide
      exact (hall i hin h7 h2).symm
    · exact (List.getD_eq_default _ _ (by simp [mdnsHeaderBytes]; omega)).symm
  written := by
    intro i hi
    simp only [mdnsHeader, Stream.goto, Stream.poke_written, List.length_replicate,
      List.length_singleton, List.mem_append, List.mem_range'_1, List.not_mem_nil, false_or] at hi
    simp only [mdnsResponseSize] at hi ⊢
    omega

theorem answer1 (h : Filled s bs) : Filled (mdnsAnswer1 s) (bs ++ mdnsAnswer1Bytes) := by
  have hall := ((((((((((((h.put [12]).pokeSkip deviceInfoText 12 (by decide)).put [4]).pokeSkip
    udpText 4 (by decide)).put [5]).pokeSkip localText 7 (by decide)).pokeSkip [0xc] 2
    (by decide)).pokeSkip [0x1] 3 (by decide)).put [0x11]).pokeSkip [0x94] 4 (by decide)).put
    [0xc0]).put [0x0c])
  simp only [List.append_assoc] at hall
  exact hall

theorem answer2 (h : Filled s bs) : Filled (mdnsAnswer2 s) (bs ++ mdnsAnswer2Bytes) := by
  have hall := (((((((((((((((h.put [9]).pokeSkip servicesText 9 (by decide)).put [7]).pokeSkip
    dnsSdText 7 (by decide)).put [4]).pokeSkip udpText 4 (by decide)).put [5]).pokeSkip localText 7
    (by decide)).pokeSkip [0xc] 2 (by decide)).pokeSkip [0x1] 3 (by decide)).put [0x11]).pokeSkip
    [0x94] 2 (by decide)).put [2]).put [0xc0]).put [0x0c])
  simp only [List.append_assoc] at hall
  exact hall

theorem answer3 (h : Filled s bs) : Filled (mdnsAnswer3 s) (bs ++ mdnsAnswer3Bytes) := by
  have hall := ((((((((((((h.put [0xc0]).pokeSkip [0x2f] 2 (by decide)).put [0x10]).put
    [0x80]).pokeSkip [0x1] 3 (by decide)).put [0x11]).pokeSkip [0x94] 2 (by decide)).put
    [36]).put [10]).pokeSkip devText 10 (by decide)).put [24]).pokeSkip vendorText 24 (by decide))
  simp only [List.append_assoc] at hall
  exact hall

theorem answer4 (h : Filled s bs) : Filled (mdnsAnswer4 s) (bs ++ mdnsAnswer4Bytes) := by
  have hall := (((((((((((((h.put [0xc0]).pokeSkip [0x2f] 2 (by decide)).put [0x21]).put
    [0x80]).pokeSkip [0x1] 3 (by decide)).put [0x11]).pokeSkip [0x94] 2 (by decide)).skip 5).put
    [0x4]).put [0xd2]).skip 1).put [0xc0]).put [0x1e])
  simp only [List.append_assoc] at hall
  exact hall

theorem answer5 (h : Filled s bs) :
    Filled (mdnsAnswer5 s) (bs ++ mdnsAnswer5Bytes (bs.length - 3).toUInt8) := by
  have hplace : (s.put [0xc0]).ptr - 4 = bs.length - 3 := by
    rw [Stream.put_ptr, h.ptr]
    rfl
  have hall := (((((((h.put [0xc0]).pokeSkip [((s.put [0xc0]).ptr - 4).toUInt8] 2
    (Nat.le_succ 1)).put [0x1]).put [0x80]).pokeSkip [0x1] 3 (by decide)).put
    [0x11]).pokeSkip [0x94] 2 (by decide)).put [4]
  rw [hplace] at hall
  simp only [List.append_assoc] at hall
  rw [mdnsAnswer5, hplace]
  exact hall

end Filled

/-- The packet for a device without a name. -/
def mdnsBaseBytes : List UInt8 :=
  mdnsHeaderBytes ++ mdnsAnswer1Bytes ++ mdnsAnswer2Bytes ++ mdnsAnswer3Bytes ++ mdnsAnswer4Bytes ++
    mdnsAnswer5Bytes 158

theorem mdnsBaseBytes_length : mdnsBaseBytes.length = 173 := by decide +kernel

theorem filled_base (stack : Mem) :
    Filled (mdnsLayout stack) mdnsBaseBytes := by
  have hall := (Filled.header stack).answer1.answer2.answer3.answer4.answer5
  have hplace : ((mdnsHeaderBytes ++ mdnsAnswer1Bytes ++ mdnsAnswer2Bytes ++ mdnsAnswer3Bytes ++
      mdnsAnswer4Bytes).length - 3).toUInt8 = 158 := by decide +kernel
  rwa [hplace] at hall

/-! The name is put in. -/

/-- Memory that begins with `bs`. -/
def Holds (m : Mem) (bs : List UInt8) : Prop := m.slice 0 bs.length = bs

namespace Holds
variable {m : Mem} {a b : List UInt8} {p : Nat}

theorem get (h : Holds m a) {i : Nat} (hi : i < a.length) : m i = a.getD i 0 := by
  rw [← h, Mem.slice_getD m hi, Nat.zero_add]

theorem of_get (h : ∀ i < a.length, m i = a.getD i 0) : Holds m a := by
  apply List.ext_getElem (Mem.slice_length _ _ _)
  intro i hi hi'
  simp only [Mem.slice, List.getElem_map, List.getElem_range, Nat.zero_add]
  rw [h i hi', List.getD_eq_getElem _ _ hi']

theorem read {x : UInt8} (h : Holds m (a ++ x :: b)) (hp : a.length = p) : m p = x := by
  rw [h.get (by rw [List.length_append, List.length_cons]; omega),
    List.getD_append_right _ _ _ _ (by omega), hp, Nat.sub_self]
  rfl

/-- A byte is changed. -/
theorem overwrite {x : UInt8} (h : Holds m (a ++ x :: b)) (hp : a.length = p) (y : UInt8) :
    Holds (m.store p [y]) (a ++ y :: b) := by
  apply of_get
  intro i hi
  rw [List.length_append, List.length_cons] at hi
  have hold := h.get (i := i) (by rw [List.length_append, List.length_cons]; exact hi)
  by_cases hfront : i < p
  · rw [Mem.store_out _ (by omega), hold, List.getD_append _ _ _ _ (by omega),
      List.getD_append _ _ _ _ (by omega)]
  · rw [List.getD_append_right _ _ _ _ (by omega)] at hold ⊢
    by_cases hplace : i = p
    · subst hplace
      rw [Mem.store_in _ (by omega) (by rw [List.length_singleton]; omega), hp, Nat.sub_self]
      rfl
    · obtain ⟨k, hk⟩ := Nat.exists_eq_add_one_of_ne_zero (show i - a.length ≠ 0 by omega)
      rw [Mem.store_out _ (by rw [List.length_singleton]; omega), hold, hk]
      rfl

/-- The bytes from a place on are moved up, and others put in. -/
theorem insert (h : Holds m (a ++ b)) (hp : a.length = p) (xs : List UInt8) {n : Nat}
    (hn : b.length ≤ n) :
    Holds ((m.store (p + xs.length) (m.slice p n)).store p xs) (a ++ (xs ++ b)) := by
  apply of_get
  intro i hi
  rw [List.length_append, List.length_append] at hi
  by_cases hfront : i < p
  · rw [Mem.store_out _ (by omega), Mem.store_out _ (by omega),
      h.get (by rw [List.length_append]; omega), List.getD_append _ _ _ _ (by omega),
      List.getD_append _ _ _ _ (by omega)]
  · rw [List.getD_append_right _ _ _ _ (by omega)]
    by_cases hin : i < p + xs.length
    · rw [Mem.store_in _ (by omega) hin, List.getD_append _ _ _ _ (by omega), hp]
    · rw [Mem.store_out _ (by omega), Mem.store_in _ (by omega) (by rw [Mem.slice_length]; omega),
        Mem.slice_getD _ (by omega), h.get (by rw [List.length_append]; omega),
        List.getD_append_right _ _ _ _ (by omega), List.getD_append_right _ _ _ _ (by omega)]
      congr 1
      omega

theorem extend (h : Holds m a) (hp : a.length = p) (xs : List UInt8) :
    Holds (m.store p xs) (a ++ xs) := by
  have hins := insert (b := []) (n := 0) (by rwa [List.append_nil]) hp xs (Nat.le_refl 0)
  rwa [show m.slice p 0 = [] from rfl, Mem.store_nil, List.append_nil] at hins

end Holds

/-- The layout, with the places that are filled in later taken out. -/
def mdnsFront : List UInt8 :=
  mdnsHeaderBytes ++ deviceInfoName ++ [0, 0xc, 0, 1, 0, 0, 0x11, 0x94, 0]

def mdnsMiddle : List UInt8 :=
  [0xc0, 0x0c] ++ mdnsAnswer2Bytes ++ mdnsAnswer3Bytes ++
    [0xc0, 0x2f] ++ [0, 0x21, 0x80, 1, 0, 0, 0x11, 0x94, 0]

def mdnsPort : List UInt8 := [0, 0, 0, 0, 0x4, 0xd2]

def mdnsRest : List UInt8 := [0, 1, 0x80, 1, 0, 0, 0x11, 0x94, 0, 4]

theorem mdnsBaseBytes_split : mdnsBaseBytes = mdnsFront ++ 0 :: 0 :: (mdnsMiddle ++ 0 :: (mdnsPort ++
    0 :: ([0xc0, 0x1e, 0xc0] ++ 158 :: mdnsRest))) := by decide +kernel

theorem mdnsFront_length : mdnsFront.length = 46 := rfl

theorem mdnsMiddle_length : mdnsMiddle.length = 103 := rfl

/-- The packet for a name and an address. -/
def mdnsPacket (name : List UInt8) (localIP : Mem) : List UInt8 :=
  mdnsFront ++ (3 + name.length).toUInt8 :: name.length.toUInt8 :: (name ++ (mdnsMiddle ++
    (9 + name.length).toUInt8 :: (mdnsPort ++ name.length.toUInt8 :: (name ++ ([0xc0, 0x1e, 0xc0] ++
      (158 + name.length.toUInt8) :: (mdnsRest ++
        [localIP 3, localIP 2, localIP 1, localIP 0]))))))

section Steps
variable {s : Stream} {a rest : List UInt8} (name : List UInt8)

theorem mdnsDomain_holds (h : Holds s.mem (a ++ 0 :: 0 :: rest)) (ha : a.length = 46)
    (hrest : rest.length = 125) :
    Holds (mdnsDomain s 173 name).mem
      (a ++ (3 + name.length).toUInt8 :: name.length.toUInt8 :: (name ++ rest)) := by
  have h₁ := h.overwrite ha (3 + name.length).toUInt8
  rw [List.append_cons] at h₁
  have h₂ := h₁.overwrite (p := 47) (by simp [ha]) name.length.toUInt8
  rw [List.append_cons] at h₂
  have h₃ := h₂.insert (p := 48) (by simp [ha]) name (Nat.le_of_eq hrest)
  simp only [List.append_assoc, List.cons_append, List.nil_append] at h₃
  exact h₃

theorem mdnsTarget_holds (h : Holds s.mem (a ++ 0 :: (mdnsPort ++ 0 :: rest)))
    (ha : a.length = 151 + name.length) (hrest : rest.length ≤ 15) :
    Holds (mdnsTarget s 173 name).mem
      (a ++ (9 + name.length).toUInt8 :: (mdnsPort ++ name.length.toUInt8 :: (name ++ rest))) := by
  have h₁ := h.overwrite ha (9 + name.length).toUInt8
  rw [List.append_cons, ← List.append_assoc] at h₁
  have h₂ := h₁.overwrite (p := 158 + name.length) (by simp [ha, mdnsPort]; omega)
    name.length.toUInt8
  rw [List.append_cons] at h₂
  have h₃ := h₂.insert (p := 158 + name.length + 1) (by simp [ha, mdnsPort]; omega) name hrest
  simp only [List.append_assoc, List.cons_append, List.nil_append] at h₃
  exact h₃

theorem mdnsAddress_holds {x : UInt8} {n : Nat} (localIP : Mem)
    (h : Holds s.mem (a ++ x :: mdnsRest)) (ha : a.length = 162 + n + n) :
    Holds (mdnsAddress s 173 n localIP).mem
      (a ++ (x + n.toUInt8) :: (mdnsRest ++ [localIP 3, localIP 2, localIP 1, localIP 0])) := by
  have h₁ := h.extend (p := 173 + n + n) (by simp [ha, mdnsRest]; omega)
    [localIP 3, localIP 2, localIP 1, localIP 0]
  simp only [List.append_assoc, List.cons_append] at h₁
  have h₂ := h₁.overwrite ha (x + n.toUInt8)
  have hplace : 173 + n + n + 4 - 15 = 162 + n + n := by omega
  simp only [mdnsAddress, Stream.put_put, Stream.goto, Stream.poke_mem, Stream.put_mem,
    Stream.put_ptr, List.cons_append, List.nil_append, List.length_cons, List.length_nil,
    Nat.zero_add, Nat.reduceAdd, hplace, h₁.read ha]
  exact h₂

end Steps

theorem mdnsLayout_ptr (stack : Mem) : (mdnsLayout stack).ptr = 173 := by
  rw [(filled_base stack).ptr, mdnsBaseBytes_length]

theorem mdnsLayout_holds (stack : Mem) : Holds (mdnsLayout stack).mem mdnsBaseBytes := by
  apply Holds.of_get
  intro i hi
  rw [mdnsBaseBytes_length] at hi
  exact (filled_base stack).mem i (by rw [mdnsResponseSize]; omega)

/-- **The packet.** The buffer holds it from the start, whatever its size. -/
theorem mdnsBuild_holds (stack : Mem) (name : List UInt8) (localIP : Mem) :
    Holds (mdnsBuild stack name localIP).mem (mdnsPacket name localIP) := by
  have h := mdnsLayout_holds stack
  rw [mdnsBaseBytes_split] at h
  have h₁ := mdnsDomain_holds name h mdnsFront_length rfl
  -- up to the data length of SRV
  have hassoc₁ : mdnsFront ++ (3 + name.length).toUInt8 :: name.length.toUInt8 :: (name ++
      (mdnsMiddle ++ 0 :: (mdnsPort ++ 0 :: ([0xc0, 0x1e, 0xc0] ++ 158 :: mdnsRest)))) =
      (mdnsFront ++ (3 + name.length).toUInt8 :: name.length.toUInt8 :: (name ++ mdnsMiddle)) ++
        0 :: (mdnsPort ++ 0 :: ([0xc0, 0x1e, 0xc0] ++ 158 :: mdnsRest)) := by
    simp only [List.append_assoc, List.cons_append]
  rw [hassoc₁] at h₁
  have h₂ := mdnsTarget_holds name h₁ (by simp [mdnsFront_length, mdnsMiddle_length]; omega) (by decide)
  -- up to the pointer to the target
  generalize hA : mdnsFront ++ (3 + name.length).toUInt8 :: name.length.toUInt8 ::
    (name ++ mdnsMiddle) = A at h₂
  have hassoc₂ : A ++ (9 + name.length).toUInt8 :: (mdnsPort ++ name.length.toUInt8 :: (name ++
      ([0xc0, 0x1e, 0xc0] ++ 158 :: mdnsRest))) =
      (A ++ (9 + name.length).toUInt8 :: (mdnsPort ++ name.length.toUInt8 ::
        (name ++ [0xc0, 0x1e, 0xc0]))) ++ 158 :: mdnsRest := by
    simp only [List.append_assoc, List.cons_append]
  rw [hassoc₂] at h₂
  have h₃ := mdnsAddress_holds (n := name.length) localIP h₂
    (by simp [← hA, mdnsFront_length, mdnsMiddle_length, mdnsPort]; omega)
  rw [mdnsBuild, mdnsLayout_ptr, mdnsPacket]
  rw [← hA] at h₃
  simp only [List.append_assoc, List.cons_append] at h₃ ⊢
  exact h₃

theorem mdnsBuild_ptr (stack : Mem) (name : List UInt8) (localIP : Mem) :
    (mdnsBuild stack name localIP).ptr = 177 + name.length + name.length := by
  simp only [mdnsBuild, mdnsLayout_ptr, mdnsAddress, Stream.goto, Stream.put_ptr,
    List.length_singleton]
  omega

/-- Nothing is stored behind the buffer. -/
def InsideResponse (s : Stream) : Prop := ∀ i ∈ s.written, i < mdnsResponseSize

/-- The name fits twice in what the packet leaves of the buffer. -/
theorem mdnsBuild_inside_iff (stack : Mem) (name : List UInt8) (localIP : Mem) :
    InsideResponse (mdnsBuild stack name localIP) ↔ name.length ≤ 21 := by
  have hlayout : ∀ i ∈ (mdnsLayout stack).written, i < mdnsResponseSize := by
    intro i hi
    have hmax := (filled_base stack).written i hi
    rw [mdnsBaseBytes_length] at hmax
    exact hmax
  simp only [InsideResponse, mdnsBuild, mdnsAddress, mdnsTarget, mdnsDomain, Stream.goto,
    Stream.memmove, Stream.put_written, Stream.poke_written, Stream.put_ptr, mdnsLayout_ptr,
    List.length_singleton, List.mem_append, List.mem_range'_1]
  constructor
  · intro h
    have hend := h (176 + name.length + name.length) (by omega)
    rw [mdnsResponseSize] at hend
    omega
  · intro h i hi
    by_cases hl : i ∈ (mdnsLayout stack).written
    · exact hlayout i hl
    · simp only [hl, false_or] at hi
      rw [mdnsResponseSize]
      omega

end SpiderL3S
