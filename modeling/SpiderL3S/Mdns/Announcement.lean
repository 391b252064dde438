import SpiderL3S.Lib.Dns
import SpiderL3S.Mdns.Packet

/- What the mDNS packet says, and what is sent of it. Each answer is read from the bytes
   that are left to the next one; its names go through pointers to four places, of
   which two depend on the name (`service_read`, `target_read`). So the packet is
   read as the five records it is meant to be, for every name and address
   (`mdnsPacket_parse`). But `sendto` is given the size of the buffer for a length, and
   the length of the packet for that of the address (`hostAnnouncement_never`). -/
namespace SpiderL3S

/-! The packet is read. -/

def deviceInfoLabels : Dns.Name := [deviceInfoText, udpText, localText]
def servicesLabels : Dns.Name := [servicesText, dnsSdText, udpText, localText]

/-- What the packet is meant to say. -/
def announcement (name : List UInt8) (localIP : Mem) : Dns.Message where
  id := 0
  flags := 0x8400
  answers :=
    [ ⟨deviceInfoLabels, 1, 4500, .ptr (name :: deviceInfoLabels)⟩,
      ⟨servicesLabels, 1, 4500, .ptr deviceInfoLabels⟩,
      ⟨name :: deviceInfoLabels, 0x8001, 4500, .txt [devText, vendorText]⟩,
      ⟨name :: deviceInfoLabels, 0x8001, 4500, .srv 0 0 1234 [name, localText]⟩,
      ⟨[name, localText], 0x8001, 4500, .a [localIP 3, localIP 2, localIP 1, localIP 0]⟩ ]

section Packet
variable (name : List UInt8) (localIP : Mem)

/-- The bytes from each answer on. -/
def mdnsTail5 : List UInt8 :=
  0xc0 :: (158 + name.length.toUInt8) :: 0 :: 1 :: 0x80 :: 1 :: 0 :: 0 :: 0x11 :: 0x94 :: 0 :: 4 ::
    [localIP 3, localIP 2, localIP 1, localIP 0]
def mdnsTail4 : List UInt8 :=
  0xc0 :: 0x2f :: 0 :: 0x21 :: 0x80 :: 1 :: 0 :: 0 :: 0x11 :: 0x94 :: 0 ::
    (9 + name.length).toUInt8 :: 0 :: 0 :: 0 :: 0 :: 0x4 :: 0xd2 :: name.length.toUInt8 ::
    (name ++ 0xc0 :: 0x1e :: mdnsTail5 name localIP)
def mdnsTail3 : List UInt8 :=
  0xc0 :: 0x2f :: 0 :: 0x10 :: 0x80 :: 1 :: 0 :: 0 :: 0x11 :: 0x94 :: 0 :: 36 ::
    (10 :: devText ++ 24 :: vendorText ++ mdnsTail4 name localIP)
def mdnsTail2 : List UInt8 :=
  servicesName ++ 0 :: 0xc :: 0 :: 1 :: 0 :: 0 :: 0x11 :: 0x94 :: 0 :: 2 :: 0xc0 :: 0x0c ::
    mdnsTail3 name localIP
def mdnsTail1 : List UInt8 :=
  deviceInfoName ++ 0 :: 0xc :: 0 :: 1 :: 0 :: 0 :: 0x11 :: 0x94 :: 0 :: (3 + name.length).toUInt8 ::
    name.length.toUInt8 :: (name ++ 0xc0 :: 0x0c :: mdnsTail2 name localIP)

theorem mdnsPacket_eq : mdnsPacket name localIP = mdnsHeaderBytes ++ mdnsTail1 name localIP := by
  simp only [mdnsPacket, mdnsFront, mdnsMiddle, mdnsPort, mdnsRest, mdnsTail1, mdnsTail2, mdnsTail3,
    mdnsTail4, mdnsTail5, mdnsAnswer2Bytes, mdnsAnswer3Bytes, List.append_assoc, List.cons_append,
    List.nil_append]

theorem mdnsPacket_length : (mdnsPacket name localIP).length = 177 + name.length + name.length := by
  simp only [mdnsPacket, mdnsPort, mdnsRest, List.length_append, List.length_cons, List.length_nil,
    mdnsFront_length, mdnsMiddle_length]
  omega

/-! The names that pointers lead to. -/

theorem local_read (msg rest : List UInt8) :
    Dns.readName msg 2 (5 :: (localText ++ 0 :: rest)) = some ([localText], rest) :=
  Dns.readName_label localText (by decide) (by decide) (Dns.readName_root msg rest)

theorem deviceInfo_read (msg rest : List UInt8) :
    Dns.readName msg 4 (deviceInfoName ++ rest) = some (deviceInfoLabels, rest) := by
  simp only [deviceInfoName, List.append_assoc, List.cons_append, List.nil_append]
  exact Dns.readName_label deviceInfoText (by decide) (by decide)
    (Dns.readName_label udpText (by decide) (by decide) (local_read msg rest))

theorem services_read (msg rest : List UInt8) :
    Dns.readName msg 5 (servicesName ++ rest) = some (servicesLabels, rest) := by
  simp only [servicesName, List.append_assoc, List.cons_append, List.nil_append]
  exact Dns.readName_label servicesText (by decide) (by decide)
    (Dns.readName_label dnsSdText (by decide) (by decide)
      (Dns.readName_label udpText (by decide) (by decide) (local_read msg rest)))

theorem drop_of_append {msg pre suf : List UInt8} {p : Nat} (h : msg = pre ++ suf)
    (hp : pre.length = p) : msg.drop p = suf := by
  rw [h, List.drop_left' hp]

theorem mdnsPacket_drop12 : (mdnsPacket name localIP).drop 12 = mdnsTail1 name localIP :=
  drop_of_append (mdnsPacket_eq name localIP) rfl

theorem mdnsPacket_drop30 : ∃ rest,
    (mdnsPacket name localIP).drop 30 = 5 :: (localText ++ 0 :: rest) := by
  rw [mdnsPacket_eq]
  exact ⟨_, rfl⟩

theorem mdnsPacket_drop47 : (mdnsPacket name localIP).drop 47 =
    name.length.toUInt8 :: (name ++ 0xc0 :: 0x0c :: mdnsTail2 name localIP) := by
  rw [mdnsPacket_eq]
  rfl

theorem mdnsPacket_drop158 : (mdnsPacket name localIP).drop (158 + name.length) =
    name.length.toUInt8 :: (name ++ 0xc0 :: 0x1e :: mdnsTail5 name localIP) := by
  have hsplit : mdnsPacket name localIP = (mdnsFront ++ (3 + name.length).toUInt8 ::
      name.length.toUInt8 :: (name ++ (mdnsMiddle ++ (9 + name.length).toUInt8 :: mdnsPort))) ++
        name.length.toUInt8 :: (name ++ 0xc0 :: 0x1e :: mdnsTail5 name localIP) := by
    simp only [mdnsPacket, mdnsTail5, mdnsRest, List.append_assoc, List.cons_append,
      List.nil_append]
  apply drop_of_append hsplit
  simp only [List.length_append, List.length_cons, mdnsFront_length, mdnsMiddle_length, mdnsPort,
    List.length_nil]
  omega

theorem mdnsTail5_length : (mdnsTail5 name localIP).length = 16 := rfl

theorem mdnsTail4_length : (mdnsTail4 name localIP).length = 37 + name.length := by
  simp only [mdnsTail4, List.length_cons, List.length_append, mdnsTail5_length]
  omega

theorem mdnsTail3_length : (mdnsTail3 name localIP).length = 85 + name.length := by
  have hdev : devText.length = 10 := rfl
  have hvendor : vendorText.length = 24 := rfl
  simp only [mdnsTail3, List.length_cons, List.length_append, mdnsTail4_length, hdev, hvendor]
  omega

theorem mdnsTail2_length : (mdnsTail2 name localIP).length = 127 + name.length := by
  have hservices : servicesName.length = 30 := rfl
  simp only [mdnsTail2, List.length_cons, List.length_append, mdnsTail3_length, hservices]
  omega

/-- The name of the service at its place. -/
theorem service_read {name : List UInt8} (hne : name ≠ []) (hlen : name.length ≤ 32) :
    Dns.readName (mdnsPacket name localIP) 6
      (name.length.toUInt8 :: (name ++ 0xc0 :: 0x0c :: mdnsTail2 name localIP)) =
        some (name :: deviceInfoLabels, mdnsTail2 name localIP) := by
  apply Dns.readName_label name hne (by omega)
  apply Dns.readName_pointer (by decide) (by decide : _ = 12)
  · rw [mdnsTail2_length, mdnsPacket_length]
    omega
  · rw [mdnsPacket_drop12]
    exact deviceInfo_read _ _

/-- A pointer to the name of the service, with room behind it. -/
theorem service_pointer {name : List UInt8} (hne : name ≠ []) (hlen : name.length ≤ 32)
    (rest : List UInt8) (hrest : rest.length < 128) :
    Dns.readName (mdnsPacket name localIP) 7 (0xc0 :: 0x2f :: rest) =
      some (name :: deviceInfoLabels, rest) := by
  apply Dns.readName_pointer (by decide) (by decide : _ = 47)
  · rw [mdnsPacket_length]
    omega
  · rw [mdnsPacket_drop47]
    exact service_read localIP hne hlen

theorem target_read {name : List UInt8} (hne : name ≠ []) (hlen : name.length ≤ 32) :
    Dns.readName (mdnsPacket name localIP) 4
      (name.length.toUInt8 :: (name ++ 0xc0 :: 0x1e :: mdnsTail5 name localIP)) =
        some ([name, localText], mdnsTail5 name localIP) := by
  obtain ⟨rest, hdrop⟩ := mdnsPacket_drop30 name localIP
  apply Dns.readName_label name hne (by omega)
  apply Dns.readName_pointer (by decide) (by decide : _ = 30)
  · rw [mdnsTail5_length, mdnsPacket_length]
    omega
  · rw [hdrop]
    exact local_read _ _

/-! The answers. -/

/-- A length that fits in a byte. -/
theorem length_byte {n : Nat} (h : n < 256) : 256 * (0 : UInt8).toNat + n.toUInt8.toNat = n := by
  rw [UInt8.toNat_ofNat']
  show 256 * 0 + _ = _
  omega

theorem steps_le {n : Nat} (h : n ≤ 12) : n ≤ (mdnsPacket name localIP).length := by
  rw [mdnsPacket_length]
  omega

theorem answer1_read {name : List UInt8} (hne : name ≠ []) (hlen : name.length ≤ 32) :
    Dns.readRecord (mdnsPacket name localIP) (mdnsTail1 name localIP) =
      some (⟨deviceInfoLabels, 1, 4500, .ptr (name :: deviceInfoLabels)⟩,
        mdnsTail2 name localIP) := by
  have howner := Dns.readName_length (steps_le name localIP (by decide))
    (deviceInfo_read (mdnsPacket name localIP) (0 :: 0xc :: 0 :: 1 :: 0 :: 0 :: 0x11 :: 0x94 :: 0 ::
      (3 + name.length).toUInt8 :: name.length.toUInt8 :: (name ++ 0xc0 :: 0x0c ::
        mdnsTail2 name localIP)))
  have hservice := Dns.readName_length (steps_le name localIP (by decide))
    (service_read localIP hne hlen)
  refine Dns.readRecord_eq howner (by decide : _ = 12) (by decide : _ = 1) (by decide : _ = 0)
    (by decide : _ = 4500) (length_byte (by omega)) ?_ ?_
  · simp only [Dns.readData, hservice, Option.map_some]
  · simp only [List.length_cons, List.length_append]
    omega

theorem answer2_read :
    Dns.readRecord (mdnsPacket name localIP) (mdnsTail2 name localIP) =
      some (⟨servicesLabels, 1, 4500, .ptr deviceInfoLabels⟩, mdnsTail3 name localIP) := by
  have howner := Dns.readName_length (steps_le name localIP (by decide))
    (services_read (mdnsPacket name localIP) (0 :: 0xc :: 0 :: 1 :: 0 :: 0 :: 0x11 :: 0x94 :: 0 ::
      2 :: 0xc0 :: 0x0c :: mdnsTail3 name localIP))
  have hback : 12 + (mdnsTail3 name localIP).length + 2 < (mdnsPacket name localIP).length := by
    rw [mdnsTail3_length, mdnsPacket_length]
    omega
  have hdomain : Dns.readName (mdnsPacket name localIP) 5 (0xc0 :: 0x0c :: mdnsTail3 name localIP) =
      some (deviceInfoLabels, mdnsTail3 name localIP) := by
    apply Dns.readName_pointer (by decide) (by decide : _ = 12) hback
    rw [mdnsPacket_drop12]
    exact deviceInfo_read _ _
  refine Dns.readRecord_eq howner (by decide : _ = 12) (by decide : _ = 1) (by decide : _ = 0)
    (by decide : _ = 4500) (by decide : _ = 2) ?_ rfl
  simp only [Dns.readData, Dns.readName_length (steps_le name localIP (by decide)) hdomain,
    Option.map_some]

theorem answer3_read {name : List UInt8} (hne : name ≠ []) (hlen : name.length ≤ 32) :
    Dns.readRecord (mdnsPacket name localIP) (mdnsTail3 name localIP) =
      some (⟨name :: deviceInfoLabels, 0x8001, 4500, .txt [devText, vendorText]⟩,
        mdnsTail4 name localIP) := by
  have hservice := service_pointer localIP hne hlen (0 :: 0x10 :: 0x80 :: 1 :: 0 :: 0 ::
    0x11 :: 0x94 :: 0 :: 36 :: (10 :: devText ++ 24 :: vendorText ++ mdnsTail4 name localIP))
    (by
      have hdev : devText.length = 10 := rfl
      have hvendor : vendorText.length = 24 := rfl
      simp only [List.length_cons, List.length_append, mdnsTail4_length, hdev, hvendor]
      omega)
  have howner := Dns.readName_length (steps_le name localIP (by decide)) hservice
  have htext : (10 :: devText ++ 24 :: vendorText).length = 36 := rfl
  have hstrings : Dns.readStrings 36 (10 :: devText ++ 24 :: vendorText) =
      some [devText, vendorText] := rfl
  refine Dns.readRecord_eq howner (by decide : _ = 16) (by decide : _ = 0x8001)
    (by decide : _ = 0) (by decide : _ = 4500) (by decide : _ = 36) ?_ ?_
  · rw [Dns.readData, List.take_left' htext, List.drop_left' htext, hstrings, Option.map_some]
  · rw [List.length_append, htext, Nat.add_comm]

theorem answer4_read {name : List UInt8} (hne : name ≠ []) (hlen : name.length ≤ 32) :
    Dns.readRecord (mdnsPacket name localIP) (mdnsTail4 name localIP) =
      some (⟨name :: deviceInfoLabels, 0x8001, 4500, .srv 0 0 1234 [name, localText]⟩,
        mdnsTail5 name localIP) := by
  have hservice := service_pointer localIP hne hlen (0 :: 0x21 :: 0x80 :: 1 :: 0 :: 0 ::
    0x11 :: 0x94 :: 0 :: (9 + name.length).toUInt8 :: 0 :: 0 :: 0 :: 0 :: 0x4 :: 0xd2 ::
      name.length.toUInt8 :: (name ++ 0xc0 :: 0x1e :: mdnsTail5 name localIP))
    (by
      simp only [List.length_cons, List.length_append, mdnsTail5_length]
      omega)
  have howner := Dns.readName_length (steps_le name localIP (by decide)) hservice
  have htarget := Dns.readName_length (steps_le name localIP (by decide))
    (target_read localIP hne hlen)
  refine Dns.readRecord_eq howner (by decide : _ = 33) (by decide : _ = 0x8001)
    (by decide : _ = 0) (by decide : _ = 4500) (length_byte (by omega)) ?_ ?_
  · simp only [Dns.readData, Dns.word, Option.bind_eq_bind, Option.bind_some, htarget]
    rfl
  · simp only [List.length_cons, List.length_append]
    omega

theorem answer5_read {name : List UInt8} (hne : name ≠ []) (hlen : name.length ≤ 32) :
    Dns.readRecord (mdnsPacket name localIP) (mdnsTail5 name localIP) =
      some (⟨[name, localText], 0x8001, 4500, .a [localIP 3, localIP 2, localIP 1, localIP 0]⟩,
        []) := by
  have hplace : 256 * ((0xc0 : UInt8).toNat - 192) + (158 + name.length.toUInt8).toNat =
      158 + name.length := by
    simp only [UInt8.toNat_add, UInt8.toNat_ofNat', UInt8.reduceToNat, Nat.sub_self, Nat.mul_zero,
      Nat.zero_add]
    omega
  have hpointer : Dns.readName (mdnsPacket name localIP) 5 (mdnsTail5 name localIP) =
      some ([name, localText], 0 :: 1 :: 0x80 :: 1 :: 0 :: 0 :: 0x11 :: 0x94 :: 0 :: 4 ::
        [localIP 3, localIP 2, localIP 1, localIP 0]) := by
    apply Dns.readName_pointer (by decide) hplace
    · rw [mdnsPacket_length]
      simp only [List.length_cons, List.length_nil]
      omega
    · rw [mdnsPacket_drop158]
      exact target_read localIP hne hlen
  have howner := Dns.readName_length (steps_le name localIP (by decide)) hpointer
  exact Dns.readRecord_eq howner (by decide : _ = 1) (by decide : _ = 0x8001) (by decide : _ = 0)
    (by decide : _ = 4500) (by decide : _ = 4) rfl rfl

end Packet

/-- **The packet is the announcement**, for every name that has room in a label. -/
theorem mdnsPacket_parse {name : List UInt8} (localIP : Mem) (hne : name ≠ [])
    (hlen : name.length ≤ 32) :
    Dns.parse (mdnsPacket name localIP) = some (announcement name localIP) := by
  have hrecords := Dns.readRecords_cons (answer1_read localIP hne hlen)
    (Dns.readRecords_cons (answer2_read name localIP)
      (Dns.readRecords_cons (answer3_read localIP hne hlen)
        (Dns.readRecords_cons (answer4_read localIP hne hlen)
          (Dns.readRecords_cons (answer5_read localIP hne hlen) Dns.readRecords_zero))))
  exact Dns.parse_eq (mdnsPacket_eq name localIP) (by decide) (by decide) hrecords

/-! The call. -/

/-- `sendto` gets the first `n` bytes of the buffer to transmit, and no more. -/
def Transmits (mdnsResponse : Mem) (n : Nat) : Command → Prop
  | .sendto _ _ buf len _ _ _ => buf.slice 0 len.toInt.toNat = mdnsResponse.slice 0 n
  | _ => False

/-- The announcement as it is meant to be: inside the buffer, a message that says what it
should, and exactly that message transmitted. -/
def HostAnnouncement (name : List UInt8) (localIP : Mem) : MdnsEnd → Prop
  | .returns _ => False
  | .sends mdnsResponse mdnsResponseLength call =>
    InsideResponse mdnsResponse ∧
      Dns.parse (mdnsResponse.mem.slice 0 mdnsResponseLength) = some (announcement name localIP) ∧
      Transmits mdnsResponse.mem mdnsResponseLength call

section Call
variable (stack : Mem) {name : List UInt8} (rest : List UInt8) (localIP : Mem) {mdnsSocket : Int32}
  (res : Int16)

/-- With a name of allowed length and a socket the packet is built and sent. -/
theorem mdnsAdvertiserHost_sends (hnul : ∀ b ∈ name, b ≠ 0) (hlen : name.length ≤ 32)
    (hsocket : ¬ mdnsSocket < 0) :
    mdnsAdvertiserHost stack (some (name ++ 0 :: rest)) name.length.toUInt16 localIP mdnsSocket
        res =
      .sends (mdnsBuild stack name localIP) (177 + name.length + name.length)
        (.sendto res mdnsSocket (mdnsBuild stack name localIP).mem mdnsResponseSize.toInt32 0
          (mdnsSocketAddr stack) (177 + name.length + name.length).toUInt32) := by
  have htext : CString.text (name ++ 0 :: rest) = name := by
    rw [CString.text_append_nul, CString.text_of_no_nul hnul]
  have hshort : ¬ name.length.toUInt16 > mdnsDeviceServiceMaxLength := by
    show ¬ mdnsDeviceServiceMaxLength < name.length.toUInt16
    rw [UInt16.lt_iff_toNat_lt, UInt16.toNat_ofNat']
    show ¬ 32 < _
    omega
  rw [mdnsAdvertiserHost, if_neg hshort, if_neg hsocket, htext,
    ← mdnsBuild_ptr stack name localIP]

theorem mdnsBuild_parse (hne : name ≠ []) (hlen : name.length ≤ 32) :
    Dns.parse ((mdnsBuild stack name localIP).mem.slice 0 (177 + name.length + name.length)) =
      some (announcement name localIP) := by
  have hpacket := mdnsBuild_holds stack name localIP
  rw [Holds, mdnsPacket_length] at hpacket
  rw [hpacket, mdnsPacket_parse localIP hne hlen]

/-- The size of the buffer is even, and the length of the packet odd. -/
theorem not_transmits (mdnsSocket : Int32) (res : Int16) (mem tSocketAddr : Mem) (tolen : UInt32)
    (n : Nat) :
    ¬ Transmits mem (177 + n + n)
      (.sendto res mdnsSocket mem mdnsResponseSize.toInt32 0 tSocketAddr tolen) := by
  intro h
  have hsize : mdnsResponseSize.toInt32.toInt.toNat = 220 := by decide
  have hlengths := congrArg List.length h
  rw [Mem.slice_length, Mem.slice_length, hsize] at hlengths
  omega

/-- **The announcement is right, and never sent as it is.** For every name and every
address the packet reads as the five records; it stays inside the buffer exactly for names
up to 21 bytes; and what `sendto` is told to transmit is not the packet, for any name. -/
theorem hostAnnouncement_never (hne : name ≠ []) (hnul : ∀ b ∈ name, b ≠ 0)
    (hlen : name.length ≤ 32) (hsocket : ¬ mdnsSocket < 0) :
    ¬ HostAnnouncement name localIP (mdnsAdvertiserHost stack (some (name ++ 0 :: rest))
        name.length.toUInt16 localIP mdnsSocket res) ∧
      ∃ mdnsResponse mdnsResponseLength call,
        mdnsAdvertiserHost stack (some (name ++ 0 :: rest)) name.length.toUInt16 localIP mdnsSocket
          res = .sends mdnsResponse mdnsResponseLength call ∧
        (InsideResponse mdnsResponse ↔ name.length ≤ 21) ∧
        Dns.parse (mdnsResponse.mem.slice 0 mdnsResponseLength) =
          some (announcement name localIP) ∧
        ¬ Transmits mdnsResponse.mem mdnsResponseLength call := by
  have hsends := mdnsAdvertiserHost_sends stack rest localIP res hnul hlen hsocket
  have hnot := not_transmits mdnsSocket res (mdnsBuild stack name localIP).mem
    (mdnsSocketAddr stack) (177 + name.length + name.length).toUInt32 name.length
  rw [hsends]
  exact ⟨fun h => hnot h.2.2, _, _, _, rfl, mdnsBuild_inside_iff stack name localIP,
    mdnsBuild_parse stack localIP hne hlen, hnot⟩

end Call

/-- The device "a" at 192.168.0.1. -/
theorem hostAnnouncement_never_a :
    ¬ HostAnnouncement [0x61] (Mem.ofList [1, 0, 168, 192]) (mdnsAdvertiserHost (fun _ => 0)
        (some ([0x61] ++ 0 :: [])) [(0x61 : UInt8)].length.toUInt16 (Mem.ofList [1, 0, 168, 192]) 0
        0) ∧
      ∃ mdnsResponse mdnsResponseLength call,
        mdnsAdvertiserHost (fun _ => 0) (some ([0x61] ++ 0 :: [])) [(0x61 : UInt8)].length.toUInt16
          (Mem.ofList [1, 0, 168, 192]) 0 0 = .sends mdnsResponse mdnsResponseLength call ∧
        (InsideResponse mdnsResponse ↔ [(0x61 : UInt8)].length ≤ 21) ∧
        Dns.parse (mdnsResponse.mem.slice 0 mdnsResponseLength) =
          some (announcement [0x61] (Mem.ofList [1, 0, 168, 192])) ∧
        ¬ Transmits mdnsResponse.mem mdnsResponseLength call :=
  hostAnnouncement_never (fun _ => 0) [] (Mem.ofList [1, 0, 168, 192]) 0 (by decide)
    (List.forall_mem_singleton.mpr (by decide)) (by decide) (by decide)

/-- **220 bytes go out for 179.** -/
theorem not_hostAnnouncement :
    ¬ ∀ (stack : Mem) (name rest : List UInt8) (localIP : Mem) (mdnsSocket : Int32) (res : Int16),
      name ≠ [] → (∀ b ∈ name, b ≠ 0) → name.length ≤ 32 → ¬ mdnsSocket < 0 →
      HostAnnouncement name localIP (mdnsAdvertiserHost stack (some (name ++ 0 :: rest))
        name.length.toUInt16 localIP mdnsSocket res) := by
  intro h
  have hnul : ∀ b ∈ [(0x61 : UInt8)], b ≠ 0 := List.forall_mem_singleton.mpr (by decide)
  have hsocket : ¬ (0 : Int32) < 0 := by decide
  have hsent := h (fun _ => 0) [0x61] [] (Mem.ofList [1, 0, 168, 192]) 0 0 (by decide) hnul
    (by decide) hsocket
  have hsends := mdnsAdvertiserHost_sends (fun _ => 0) [] (Mem.ofList [1, 0, 168, 192]) 0 hnul
    (by decide) hsocket
  rw [hsends] at hsent
  exact not_transmits _ _ _ _ _ _ hsent.2.2

end SpiderL3S
