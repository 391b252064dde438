import SpiderL3S.Evnt

/- What `hci_unsol_event_handler` does with an event, case by case. `Unsol sl
   event r` lists the ways it can end, each with the event codes that lead to it,
   and `hciUnsolEventHandler_unsol` says that the function ends in one of them:
   what is proved about the handler is proved over these cases. -/
namespace SpiderL3S

/-- The events the switch over the WLAN class supports. -/
def wlanEvents : List UInt16 :=
  [hciEvntWlanKeepalive, hciEvntWlanUnsolConnect, hciEvntWlanUnsolDisconnect,
    hciEvntWlanUnsolInit, hciEvntWlanAsyncSimpleConfigDone, hciEvntWlanUnsolDhcp,
    hciEvntWlanAsyncPingReport, hciEvntBsdTcpCloseWait, hciEvntAsyncArpDone,
    hciEvntAsyncArpWaiting]

/-- What the callback is given with one of them. -/
def wlanEventData (event : Mem) : List UInt8 :=
  if eventCode event = hciEvntWlanUnsolDhcp then
    event.slice hciEventHeaderSize 20 ++ [streamToUint8 event hciEventStatusOffset]
  else if eventCode event = hciEvntWlanAsyncPingReport then event.slice hciEventHeaderSize 20
  else if eventCode event = hciEvntBsdTcpCloseWait then event.slice hciEventHeaderSize 1
  else []

theorem hciWlanUnsolEvent_eq (sl : SLInfo) (event : Mem) :
    hciWlanUnsolEvent sl event =
      if eventCode event ∈ wlanEvents then
        some (sl.tryCallback (eventCode event) (wlanEventData event))
      else none := by
  unfold hciWlanUnsolEvent wlanEventData
  dsimp only
  generalize eventCode event = code
  by_cases hplain : code ∈ [hciEvntWlanKeepalive, hciEvntWlanUnsolConnect,
      hciEvntWlanUnsolDisconnect, hciEvntWlanUnsolInit, hciEvntWlanAsyncSimpleConfigDone]
  · rw [if_pos hplain]
    simp only [List.mem_cons, List.not_mem_nil, or_false] at hplain
    rcases hplain with rfl | rfl | rfl | rfl | rfl <;> rfl
  rw [if_neg hplain]
  by_cases hdhcp : code = hciEvntWlanUnsolDhcp
  · subst hdhcp
    rfl
  rw [if_neg hdhcp, if_neg hdhcp]
  by_cases hping : code = hciEvntWlanAsyncPingReport
  · subst hping
    rfl
  rw [if_neg hping, if_neg hping]
  by_cases hclose : code = hciEvntBsdTcpCloseWait
  · subst hclose
    rfl
  rw [if_neg hclose, if_neg hclose]
  by_cases harp : code ∈ [hciEvntAsyncArpDone, hciEvntAsyncArpWaiting]
  · rw [if_pos harp]
    simp only [List.mem_cons, List.not_mem_nil, or_false] at harp
    rcases harp with rfl | rfl <;> rfl
  · rw [if_neg harp, if_neg]
    simp only [wlanEvents, List.mem_cons, List.not_mem_nil, or_false, not_or] at hplain harp ⊢
    exact ⟨hplain.1, hplain.2.1, hplain.2.2.1, hplain.2.2.2.1, hplain.2.2.2.2, hdhcp, hping,
      hclose, harp.1, harp.2⟩

theorem wlanEvents_class {code : UInt16} (h : code ∈ wlanEvents) :
    code &&& hciEvntWlanUnsolBase ≠ 0 := by
  have hall : wlanEvents.all (fun code => decide (code &&& hciEvntWlanUnsolBase ≠ 0)) = true := by
    decide
  exact of_decide_eq_true (List.all_eq_true.mp hall code h)

theorem sendClass_class {code : UInt16} (h : sendClass code = true) :
    code &&& hciEvntWlanUnsolBase = 0 := by
  simp only [sendClass, Bool.or_eq_true, decide_eq_true_eq] at h
  rcases h with (rfl | rfl) | rfl <;> decide

/-- FREE_BUFF is of neither class. -/
theorem ne_freeBuff_of_class {code : UInt16}
    (h : code &&& hciEvntWlanUnsolBase ≠ 0 ∨ sendClass code = true) :
    code ≠ hciEvntDataUnsolFreeBuff := by
  intro heq
  subst heq
  revert h
  decide

/-- The ends of `hci_unsol_event_handler`: the globals behind it, and whether it
returned 1. -/
inductive Unsol (sl : SLInfo) (event : Mem) : SLInfo × Bool → Prop where
  /-- Released buffers, all of them or not. -/
  | freeBuff (sl' : SLInfo) (hcode : eventCode event = hciEvntDataUnsolFreeBuff)
      (hsl : sl' = hciEventUnsolFlowcontrolHandler sl event ∨
        sl' = (hciEventUnsolFlowcontrolHandler sl event).callback hciEventCc3000CanShutDown []) :
      Unsol sl event (sl', true)
  | wlan (hcode : eventCode event ∈ wlanEvents) :
      Unsol sl event (sl.tryCallback (eventCode event) (wlanEventData event), true)
  | unsupported (hclass : eventCode event &&& hciEvntWlanUnsolBase ≠ 0)
      (hcode : eventCode event ∉ wlanEvents) : Unsol sl event (sl, false)
  | sendInactive (hcode : sendClass (eventCode event) = true)
      (hstatus : sendStatus event = errorSocketInactive) :
      Unsol sl event
        (updateSocketActiveStatus
          { sl with slTransmitDataError := (streamToUint8 event hciEventStatusOffset).toUInt32 }
          (event.drop hciEventHeaderSize), true)
  | sendOther (hcode : sendClass (eventCode event) = true)
      (hstatus : sendStatus event ≠ errorSocketInactive) : Unsol sl event (sl, false)
  | ignored (hclass : eventCode event &&& hciEvntWlanUnsolBase = 0)
      (hcode : eventCode event ≠ hciEvntDataUnsolFreeBuff)
      (hsend : sendClass (eventCode event) = false)
      (hwait : eventCode event ≠ sl.usRxEventOpcode)
      (hpatch : eventCode event ≠ hciEvntPatchesReq) : Unsol sl event (sl, true)
  | waited (hclass : eventCode event &&& hciEvntWlanUnsolBase = 0)
      (hfree : eventCode event ≠ hciEvntDataUnsolFreeBuff)
      (hsend : sendClass (eventCode event) = false)
      (hcode : eventCode event = sl.usRxEventOpcode ∨ eventCode event = hciEvntPatchesReq) :
      Unsol sl event (sl, false)

/-- The handler ends in one of these ways. -/
theorem hciUnsolEventHandler_unsol (sl : SLInfo) (event : Mem) :
    Unsol sl event (hciUnsolEventHandler sl event) := by
  unfold hciUnsolEventHandler
  dsimp only
  by_cases hfree : eventCode event = hciEvntDataUnsolFreeBuff
  · rw [if_pos ⟨by rw [hfree]; decide, hfree⟩]
    split
    · exact .freeBuff _ hfree (.inr rfl)
    · exact .freeBuff _ hfree (.inl rfl)
  rw [if_neg (fun h => hfree h.2), hciWlanUnsolEvent_eq]
  by_cases hclass : eventCode event &&& hciEvntWlanUnsolBase = 0
  · rw [if_neg (not_not_intro hclass)]
    by_cases hsend : sendClass (eventCode event) = true
    · rw [if_pos hsend]
      by_cases hstatus : sendStatus event = errorSocketInactive
      · rw [if_pos hstatus]
        exact .sendInactive hsend hstatus
      · rw [if_neg hstatus]
        exact .sendOther hsend hstatus
    · rw [if_neg hsend]
      have hsend' := Bool.eq_false_iff.mpr hsend
      split
      · next h => exact .ignored hclass hfree hsend' h.1 h.2
      · next h =>
        apply Unsol.waited hclass hfree hsend'
        by_cases hwait : eventCode event = sl.usRxEventOpcode
        · exact .inl hwait
        · exact .inr (Decidable.not_not.mp fun hpatch => h ⟨hwait, hpatch⟩)
  · rw [if_pos hclass]
    by_cases hcode : eventCode event ∈ wlanEvents
    · rw [if_pos hcode]
      exact .wlan hcode
    · rw [if_neg hcode]
      exact .unsupported hclass hcode

/-- The handler leaves the flag to its callers, and the callback as it is. -/
theorem hciUnsolEventHandler_leaves (sl : SLInfo) (event : Mem) :
    (hciUnsolEventHandler sl event).1.usEventOrDataReceived = sl.usEventOrDataReceived ∧
      (hciUnsolEventHandler sl event).1.sWlanCB = sl.sWlanCB := by
  have hend := hciUnsolEventHandler_unsol sl event
  generalize hciUnsolEventHandler sl event = r at hend
  cases hend with
  | freeBuff sl' _ hsl => rcases hsl with rfl | rfl <;> exact ⟨rfl, rfl⟩
  | wlan _ =>
    unfold SLInfo.tryCallback
    split <;> exact ⟨rfl, rfl⟩
  | sendInactive _ _ =>
    unfold updateSocketActiveStatus setSocketActiveStatus
    split
    · split <;> exact ⟨rfl, rfl⟩
    · exact ⟨rfl, rfl⟩
  | unsupported _ _ => exact ⟨rfl, rfl⟩
  | sendOther _ _ => exact ⟨rfl, rfl⟩
  | ignored _ _ _ _ _ => exact ⟨rfl, rfl⟩
  | waited _ _ _ _ => exact ⟨rfl, rfl⟩

theorem hciUnsolEventHandler_flag (sl : SLInfo) (event : Mem) :
    (hciUnsolEventHandler sl event).1.usEventOrDataReceived = sl.usEventOrDataReceived :=
  (hciUnsolEventHandler_leaves sl event).1

theorem hciUnsolEventHandler_sWlanCB (sl : SLInfo) (event : Mem) :
    (hciUnsolEventHandler sl event).1.sWlanCB = sl.sWlanCB :=
  (hciUnsolEventHandler_leaves sl event).2

/-- The event for which no callback is there is one that is taken. -/
theorem CallsNull.handled {sl : SLInfo} {event : Mem} (h : CallsNull sl event) :
    (hciUnsolEventHandler sl event).2 = true := by
  have hcode : eventCode event = hciEvntDataUnsolFreeBuff := h.2.1
  have hbase : hciEvntDataUnsolFreeBuff &&& hciEvntUnsolBase ≠ 0 := by decide
  unfold hciUnsolEventHandler
  dsimp only
  rw [hcode, if_pos ⟨hbase, rfl⟩]
  split <;> rfl

theorem not_callsNull_of_installed {sl : SLInfo} (h : sl.sWlanCB = true) (event : Mem) :
    ¬ CallsNull sl event :=
  fun hnull => absurd h (ne_true_of_eq_false hnull.1)

theorem not_callsNull_of_refused {sl : SLInfo} {event : Mem}
    (h : (hciUnsolEventHandler sl event).2 = false) : ¬ CallsNull sl event := by
  intro hnull
  cases hnull.handled.symm.trans h

/-! The callback. -/

/-- The calls of the callback that one event frame leads to. -/
def asyncCalls (sl : SLInfo) (frame : Mem) : List WlanCall :=
  (hciUnsolEventHandler sl frame).1.calls.drop sl.calls.length

theorem updateSocketActiveStatus_calls (sl : SLInfo) (respParams : Mem) :
    (updateSocketActiveStatus sl respParams).calls = sl.calls := by
  unfold updateSocketActiveStatus setSocketActiveStatus
  split
  · split <;> rfl
  · rfl

/-- With the callback installed, a supported event leads to one call, with the
event's code; any other event to none, but for the last buffer that is free
again. -/
theorem asyncCalls_cases {sl : SLInfo} (hcb : sl.sWlanCB = true) (frame : Mem) :
    eventCode frame ∈ wlanEvents ∧
        asyncCalls sl frame = [⟨eventCode frame, wlanEventData frame⟩] ∨
      eventCode frame ∉ wlanEvents ∧ (asyncCalls sl frame = [] ∨
        asyncCalls sl frame = [⟨hciEventCc3000CanShutDown, []⟩]) := by
  have hend := hciUnsolEventHandler_unsol sl frame
  unfold asyncCalls
  generalize hciUnsolEventHandler sl frame = r at hend
  cases hend with
  | freeBuff sl' hcode hsl =>
    right
    refine ⟨by rw [hcode]; decide, ?_⟩
    rcases hsl with rfl | rfl
    · left
      exact List.drop_length
    · right
      exact List.drop_left
  | wlan hcode =>
    left
    refine ⟨hcode, ?_⟩
    rw [SLInfo.tryCallback, if_pos hcb]
    exact List.drop_left
  | unsupported hclass hcode => exact .inr ⟨hcode, .inl List.drop_length⟩
  | sendInactive hcode hstatus =>
    right
    refine ⟨fun h => wlanEvents_class h (sendClass_class hcode), .inl ?_⟩
    rw [updateSocketActiveStatus_calls]
    exact List.drop_length
  | sendOther hcode hstatus =>
    exact .inr ⟨fun h => wlanEvents_class h (sendClass_class hcode), .inl List.drop_length⟩
  | ignored hclass hcode hsend hwait hpatch =>
    exact .inr ⟨fun h => wlanEvents_class h hclass, .inl List.drop_length⟩
  | waited hclass hfree hsend hcode =>
    exact .inr ⟨fun h => wlanEvents_class h hclass, .inl List.drop_length⟩

end SpiderL3S
