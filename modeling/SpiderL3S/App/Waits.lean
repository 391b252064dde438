import SpiderL3S.App.LinkFlags

/- The steps that wait for the disconnection. The last link event is followed
   from the call of `Spider_begin` on; a function leaves its wait when the test
   of its loop fails, and `Spider_Disconnect` also promises by returning 0. In a
   run in which no function clears `SpiderConnected` under a link that is up, and
   none comes up between that and the return of `Spider_Disconnect`, a CONNECT
   that is the last link event still stands in the flag, so every wait finds the
   link down (`waits_of_run`). -/
namespace SpiderL3S

open Runs Code

inductive LinkEvent where
  | connect
  | disconnect
  deriving DecidableEq, Repr

/-- The last link event since `Spider_begin`. -/
def observeLink (link : Option LinkEvent) (_ : Spider) (l : SpiderLabel) (_ : Spider) :
    Option LinkEvent :=
  match l with
  | .call .begin => none
  | .frame _ data =>
    if eventCode data = hciEvntWlanUnsolConnect then some .connect
    else if eventCode data = hciEvntWlanUnsolDisconnect then some .disconnect
    else link
  | _ => link

/-- The step leaves a loop that waits for the disconnection, or returns 0 from
`Spider_Disconnect`. -/
def Spider.Leaves (s : Spider) : SpiderLabel → Prop
  | .stmt .whileConnected => s.flags .spiderConnected ≠ 1
  | .stmt (.returns (.disconnect _) value) => value = 0
  | _ => False

/-- `Spider_Disconnect` has cleared the flag and has its 0 still to return. -/
def Cleared (todo : List SpiderStmt) : Prop :=
  (∃ ret, .returns (.disconnect ret) 0 ∈ todo) ∧ ∀ v, .assign .spiderConnected v ∉ todo

/-- The step does not lose a link: it does not clear the flag of a link that is
up, and does not bring one up behind the clearing. -/
def KeepsLink (x : Spider × Option LinkEvent) : SpiderLabel → Prop
  | .stmt (.assign .spiderConnected _) => x.2 ≠ some .connect
  | .frame _ data => eventCode data = hciEvntWlanUnsolConnect → ¬ Cleared x.1.todo
  | _ => True

/-! The shape of the code. -/

/-- A statement nothing is left to do behind. -/
def SpiderStmt.final : SpiderStmt → Bool
  | .returns _ _ => true
  | .ifInitialed _ => true
  | _ => false

/-- Only the last statement is final. -/
def closedCode : List SpiderStmt → Bool
  | [] => true
  | s :: rest => (!s.final || rest.isEmpty) && closedCode rest

theorem closedCode_spiderCode (c : SpiderCall) : closedCode (spiderCode c) = true := by
  cases c with
  | smartConfig started =>
    rw [spiderCode, smartConfigStarted]
    split <;> rfl
  | _ => rfl

theorem closedCode_initialedCode (c : SpiderCall) : closedCode (initialedCode c) = true := by
  cases c with
  | disconnect ret =>
    rw [initialedCode, disconnectAnswered]
    split <;> rfl
  | _ => rfl

theorem closedCode_exec {s : SpiderStmt} {rest : List SpiderStmt}
    (h : closedCode (s :: rest) = true) (flags : Flags) :
    closedCode ((s.exec flags).2 ++ rest) = true := by
  obtain ⟨hlast, hrest⟩ := Bool.and_eq_true_iff.mp h
  cases s with
  | ifInitialed c =>
    -- the last statement of its function, so its code is all that is left
    obtain rfl : rest = [] := List.isEmpty_iff.mp hlast
    rw [List.append_nil, SpiderStmt.exec]
    split
    · rfl
    · exact closedCode_initialedCode c
  | whileConnected | whileDHCP | andConnected | whileNotFinished =>
    rw [SpiderStmt.exec]
    split <;> exact hrest
  | _ => exact hrest

/-- The code that returns 0 from `Spider_Disconnect` clears the flag first. -/
theorem assign_mem_exec {s : SpiderStmt} {flags : Flags} {ret : Int32}
    (h : .returns (.disconnect ret) 0 ∈ (s.exec flags).2) :
    .assign .spiderConnected 0 ∈ (s.exec flags).2 := by
  cases s with
  | ifInitialed c =>
    rw [SpiderStmt.exec] at h ⊢
    split at h
    · simp at h
    · next hon =>
      rw [if_neg hon]
      cases c with
      | disconnect ret' =>
        rw [initialedCode, disconnectAnswered] at h ⊢
        split
        · next hrefused => simp [hrefused] at h
        · simp
      | _ => simp [initialedCode] at h
  | whileConnected | whileDHCP | andConnected | whileNotFinished =>
    rw [SpiderStmt.exec] at h
    split at h <;> simp at h
  | _ => simp [SpiderStmt.exec] at h

theorem returns_not_mem_spiderCode (c : SpiderCall) (ret : Int32) :
    .returns (.disconnect ret) 0 ∉ spiderCode c := by
  intro h
  cases c with
  | smartConfig started =>
    rw [spiderCode, smartConfigStarted] at h
    split at h <;> simp at h
  | _ => simp [spiderCode] at h

/-- A link that is up shows in the flag, and there is none between the clearing
and the return. -/
structure WaitInv (x : Spider × Option LinkEvent) : Prop where
  closed : closedCode x.1.todo = true
  flag : x.2 = some .connect → x.1.flags .spiderConnected = 1
  cleared : Cleared x.1.todo → x.2 ≠ some .connect

theorem WaitInv.stmt {flags : Flags} {link : Option LinkEvent} {s : SpiderStmt}
    {rest : List SpiderStmt} (h : WaitInv (⟨flags, s :: rest⟩, link))
    (hkeep : KeepsLink (⟨flags, s :: rest⟩, link) (.stmt s)) :
    WaitInv (⟨(s.exec flags).1, (s.exec flags).2 ++ rest⟩, link) := by
  refine ⟨closedCode_exec h.closed flags, ?_, ?_⟩
  · intro hlink
    have hother : ∀ v, s ≠ .assign .spiderConnected v := by
      intro v hv
      subst hv
      exact hkeep hlink
    calc (s.exec flags).1 .spiderConnected = flags .spiderConnected := exec_flag hother flags
      _ = 1 := h.flag hlink
  · intro hcleared hlink
    obtain ⟨⟨ret, hret⟩, hassign⟩ := hcleared
    rcases List.mem_append.mp hret with hnew | hold
    · exact hassign 0 (List.mem_append_left _ (assign_mem_exec hnew))
    · apply h.cleared ⟨⟨ret, List.mem_cons_of_mem s hold⟩, _⟩ hlink
      intro v hv
      rcases List.mem_cons.mp hv with heq | hrest
      · subst heq
        exact hkeep hlink
      · exact hassign v (List.mem_append_right _ hrest)

theorem WaitInv.frame {s : Spider} {link : Option LinkEvent} {sl : SLInfo}
    (hcb : sl.sWlanCB = true) {data : Mem} (h : WaitInv (s, link))
    (hkeep : KeepsLink (s, link) (.frame sl data)) {t : Spider} :
    WaitInv (s.receive sl data, observeLink link s (.frame sl data) t) := by
  have hflag := receive_linkFlag (.inl rfl) hcb data s
  change _ = if eventCode data = hciEvntWlanUnsolConnect then 1 else _ at hflag
  refine ⟨h.closed, ?_, ?_⟩
  · show (if _ then _ else _) = _ → (s.receive sl data).flags .spiderConnected = 1
    rw [hflag]
    intro hlink
    split at hlink
    · next hup => rw [if_pos hup]
    · next hup =>
      rw [if_neg hup]
      split at hlink
      · cases hlink
      · next hdown =>
        rw [if_neg hdown]
        exact h.flag hlink
  · intro hcleared
    show (if _ then _ else _) ≠ _
    split
    · next hup => exact absurd hcleared (hkeep hup)
    · split
      · exact fun hlink => by cases hlink
      · exact h.cleared hcleared

theorem WaitInv.step {x y : Spider × Option LinkEvent} {l : SpiderLabel} (h : WaitInv x)
    (hs : guarded KeepsLink (watch SpiderStep observeLink) x l y) : WaitInv y := by
  obtain ⟨s, link⟩ := x
  obtain ⟨t, link'⟩ := y
  obtain ⟨hkeep, hstep, hlink⟩ := hs
  dsimp only at hstep hlink
  subst hlink
  cases hstep with
  | stmt => exact h.stmt hkeep
  | frame data hcb => exact h.frame hcb hkeep
  | call c =>
    refine ⟨closedCode_spiderCode c, ?_, ?_⟩
    · intro hlink
      apply h.flag
      cases c <;> first | exact hlink | cases hlink
    · intro hcleared
      obtain ⟨⟨ret, hret⟩, -⟩ := hcleared
      exact absurd hret (returns_not_mem_spiderCode c ret)

/-- **The waits wait.** In every run that loses no link, a function that leaves
its wait for the disconnection, or returns 0 from `Spider_Disconnect`, does so
when the last link event since `Spider_begin` is not a CONNECT. -/
theorem waits_of_run {ls : List SpiderLabel} {s t : Spider} {link : Option LinkEvent}
    {l : SpiderLabel}
    (h : Run (guarded KeepsLink (watch SpiderStep observeLink)) (Spider.start, none) ls (s, link))
    (hstep : SpiderStep s l t) (hleaves : s.Leaves l) : link ≠ some .connect := by
  have hinv : WaitInv (s, link) := by
    apply h.invariant (P := WaitInv)
    · refine ⟨rfl, fun hlink => ?_, fun hcleared => ?_⟩
      · cases hlink
      · obtain ⟨⟨ret, hret⟩, -⟩ := hcleared
        exact absurd hret List.not_mem_nil
    · intro a l b _
      exact WaitInv.step
  intro hlink
  cases hstep with
  | @stmt flags stmt rest =>
    cases stmt with
    | whileConnected => exact hleaves (hinv.flag hlink)
    | returns c value =>
      cases c with
      | disconnect ret =>
        obtain rfl : value = 0 := hleaves
        -- nothing is left behind the return, so the flag has been cleared
        obtain rfl : rest = [] := List.isEmpty_iff.mp (Bool.and_eq_true_iff.mp hinv.closed).1
        apply hinv.cleared ⟨⟨ret, List.mem_singleton_self _⟩, _⟩ hlink
        intro v hv
        cases List.mem_singleton.mp hv
      | _ => exact hleaves
    | _ => exact hleaves
  | call c => exact hleaves
  | frame data hcb => exact hleaves

/-! Two runs. -/

theorem keepsLink_stmt {link : Option LinkEvent} (h : link ≠ some .connect) (a : Spider)
    (s : SpiderStmt) : KeepsLink (a, link) (.stmt s) := by
  cases s with
  | assign f v =>
    cases f with
    | spiderConnected => exact h
    | _ => trivial
  | _ => trivial

/-- An event with code `low + 256 * high` that carries nothing. -/
def linkFrame (low high : UInt8) : Mem := Mem.ofList [0x04, low, high, 1, 0]

/-- `Spider_begin`, and the link comes up. -/
theorem connected_run :
    ∃ ls flags, Run (guarded KeepsLink (watch SpiderStep observeLink)) (Spider.start, none) ls
      (⟨flags, []⟩, some .connect) ∧ flags .hwInitialed = 1 := by
  have hcall : guarded KeepsLink (watch SpiderStep observeLink) (Spider.start, none)
      (.call .begin) (⟨Spider.start.flags, spiderCode .begin⟩, none) :=
    ⟨trivial, .call .begin, rfl⟩
  obtain ⟨ls, hbegin⟩ := @spider_runAlone _ KeepsLink observeLink none
    (keepsLink_stmt fun h => by cases h) (fun _ _ _ => rfl) 12
    ⟨Spider.start.flags, spiderCode .begin⟩
  have hhw : (Spider.alone 12 ⟨Spider.start.flags, spiderCode .begin⟩).flags .hwInitialed = 1 := rfl
  have htodo : (Spider.alone 12 ⟨Spider.start.flags, spiderCode .begin⟩).todo = [] := rfl
  generalize Spider.alone 12 _ = s at hbegin hhw htodo
  obtain ⟨flags, todo⟩ := s
  obtain rfl : todo = [] := htodo
  have hframe : guarded KeepsLink (watch SpiderStep observeLink) (⟨flags, []⟩, none)
      (.frame (.start true) (linkFrame 0x01 0x80))
      (Spider.receive ⟨flags, []⟩ (.start true) (linkFrame 0x01 0x80), some .connect) := by
    refine ⟨fun _ hcleared => ?_, .frame _ rfl, rfl⟩
    obtain ⟨⟨ret, hret⟩, -⟩ := hcleared
    exact absurd hret List.not_mem_nil
  exact ⟨_, _, .cons hcall (hbegin.append (.single hframe)), hhw⟩

theorem waits_autoConnect :
    ∃ ls s l t, Run (guarded KeepsLink (watch SpiderStep observeLink)) (Spider.start, none) ls
      (s, some .disconnect) ∧ SpiderStep s l t ∧ s.Leaves l ∧
      (some .disconnect : Option LinkEvent) ≠ some .connect := by
  obtain ⟨ls, flags, hup, hhw⟩ := connected_run
  -- the link goes down again before `Spider_AutoConnect` is called
  have hframe : guarded KeepsLink (watch SpiderStep observeLink) (⟨flags, []⟩, some .connect)
      (.frame (.start true) (linkFrame 0x02 0x80))
      (Spider.receive ⟨flags, []⟩ (.start true) (linkFrame 0x02 0x80), some .disconnect) := by
    refine ⟨fun hcode => ?_, .frame _ rfl, rfl⟩
    exact absurd hcode (by decide)
  have hhw' : (Spider.receive ⟨flags, []⟩ (.start true) (linkFrame 0x02 0x80)).flags
      .hwInitialed = 1 := hhw
  have hdown : (Spider.receive ⟨flags, []⟩ (.start true) (linkFrame 0x02 0x80)).flags
      .spiderConnected = 0 := receive_linkFlag (.inl rfl) rfl _ _
  have htodo : (Spider.receive ⟨flags, []⟩ (.start true) (linkFrame 0x02 0x80)).todo = [] := rfl
  generalize Spider.receive ⟨flags, []⟩ (.start true) (linkFrame 0x02 0x80) = s at *
  obtain ⟨flags', todo⟩ := s
  obtain rfl : todo = [] := htodo
  have hcall : guarded KeepsLink (watch SpiderStep observeLink) (⟨flags', []⟩, some .disconnect)
      (.call (.autoConnect 0)) (⟨flags', spiderCode (.autoConnect 0)⟩, some .disconnect) :=
    ⟨trivial, .call _, rfl⟩
  have htest : guarded KeepsLink (watch SpiderStep observeLink)
      (⟨flags', [.ifInitialed (.autoConnect 0)]⟩, some .disconnect)
      (.stmt (.ifInitialed (.autoConnect 0)))
      (⟨flags', initialedCode (.autoConnect 0)⟩, some .disconnect) := by
    have hcode : (SpiderStmt.exec (.ifInitialed (.autoConnect 0)) flags').2 ++ [] =
        initialedCode (.autoConnect 0) := by
      rw [SpiderStmt.exec, if_neg (not_not_intro hhw'), List.append_nil]
    rw [← hcode]
    exact ⟨trivial, .stmt, rfl⟩
  have hrun := hup.append (.cons hframe (.cons hcall (.single htest)))
  have hleaves : Spider.Leaves ⟨flags', initialedCode (.autoConnect 0)⟩ (.stmt .whileConnected) := by
    intro hup'
    cases hdown.symm.trans hup'
  exact ⟨_, _, _, _, hrun, .stmt, hleaves, waits_of_run hrun .stmt hleaves⟩

/-- **SmartConfig does not wait.** With the link up, it clears the flag and leaves
its loop at once. -/
theorem not_waits :
    ¬ ∀ (ls : List SpiderLabel) (s t : Spider) (link : Option LinkEvent) (l : SpiderLabel),
      Run (watch SpiderStep observeLink) (Spider.start, none) ls (s, link) →
      SpiderStep s l t → s.Leaves l → link ≠ some .connect := by
  intro h
  obtain ⟨ls, flags, hup, -⟩ := connected_run
  have hcall : watch SpiderStep observeLink (⟨flags, []⟩, some .connect) (.call (.smartConfig 0))
      (⟨flags, spiderCode (.smartConfig 0)⟩, some .connect) := ⟨.call _, rfl⟩
  obtain ⟨ls', hrun⟩ := @spider_runAlone _ (fun _ _ => True) observeLink (some .connect)
    (fun _ _ => trivial) (fun _ _ _ => rfl) 6 ⟨flags, spiderCode (.smartConfig 0)⟩
  have hrun' := (hup.mono fun _ _ _ _ h => h.2).append
    (.cons hcall (hrun.mono fun _ _ _ _ h => h.2))
  have hstep : SpiderStep (Spider.alone 6 ⟨flags, spiderCode (.smartConfig 0)⟩)
      (.stmt .whileConnected) _ := .stmt
  have hleaves : (Spider.alone 6 ⟨flags, spiderCode (.smartConfig 0)⟩).Leaves
      (.stmt .whileConnected) := (by decide : (0 : UInt8) ≠ 1)
  exact h _ _ _ _ _ hrun' hstep hleaves rfl

end SpiderL3S
