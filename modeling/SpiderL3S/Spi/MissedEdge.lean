import SpiderL3S.Spi.Irq

/- No interrupt edge is lost. An edge that finds `ENABLE` clear leaves `MISSED`,
   and `WlanInterruptEnable` makes up for it. An observer keeps whether an edge is
   still unserved: refused by the handler, the pin not up again and no transfer
   begun since. The invariant says that `MISSED` is set for it, and that, once
   `WlanInterruptEnable` has begun, the main code left to do begins a transfer
   before it clears `MISSED`. It needs two things of the environment: no edge is
   refused while `WlanInterruptEnable` is on its way from setting `ENABLE` to
   clearing `MISSED`, and its call of the handler finds a state with a transfer. -/
namespace SpiderL3S

open Runs Code

variable {patches : Mem → List SpiFrame}

/-- The statement begins a transfer. -/
def Stmt.begins : Stmt → Bool
  | readHeader => true
  | writeSync _ 0 _ => true
  | _ => false

/-- Whether an edge is unserved, updated by one step. -/
def unserved (u : Bool) (s : Config) (l : Label) (_ : Config) : Bool :=
  match l with
  | .edge => !s.core.enable
  | .rise => false
  | .call _ => u
  | .stmt => u && !(s.todo.head?.any Stmt.begins)

/-- `WlanInterruptEnable` has set `ENABLE` and may still clear `MISSED`. -/
def Enabling (todo : List Stmt) : Prop :=
  .wieClearMissed ∈ todo ∨ todo.head? = some .wieTestMissed

/-- The condition on a step: no edge is refused during `WlanInterruptEnable`, and
its direct call of the handler finds a state with a transfer. -/
def EdgesServed (s : Config) : Label → Prop
  | .edge => s.core.enable = false → ¬ Enabling s.todo
  | .stmt => s.todo.head? = some .wieTestPin → s.core.pinLow = true → s.core.process = false →
      s.core.ulSpiState = .idle ∨ s.core.ulSpiState = .writeIrq
  | _ => True

/-- The driver with the observer, over all runs. -/
abbrev watched (patches : Mem → List SpiFrame) : Config × Bool → Label → Config × Bool → Prop :=
  watch (SpiStep patches) unserved

/-- The driver with the observer, over the runs that meet the condition. -/
abbrev guardedRun (patches : Mem → List SpiFrame) :
    Config × Bool → Label → Config × Bool → Prop :=
  watch (guarded EdgesServed (SpiStep patches)) unserved

/-! The shape of what is left to do. -/

/-- The statement that must still come when this one is pending. -/
def Stmt.needs : Stmt → Option Stmt
  | wieTestPin | irqTestEnable | irqClearProcess => some .wieClearMissed
  | irqSetProcess => some .irqClearProcess
  | _ => none

def Stmt.testsMissed : Stmt → Bool
  | wieTestMissed => true
  | _ => false

def Stmt.clearsMissed : Stmt → Bool
  | wieClearMissed => true
  | _ => false

def Stmt.setsEnable : Stmt → Bool
  | wieSetEnable => true
  | _ => false

/-- `WlanInterruptEnable` tests `MISSED` next. -/
def atTest (todo : List Stmt) : Bool := todo.head?.any Stmt.testsMissed

/-- Code as main builds it: the handler runs inside `WlanInterruptEnable`, and the
test of `MISSED` follows the setting of `ENABLE`. -/
def WellFormed : List Stmt → Prop
  | [] => True
  | s :: rest => (∀ n, s.needs = some n → n ∈ rest) ∧
      (atTest rest = true → s.setsEnable = true) ∧ WellFormed rest

/-- A statement that may stand in front of anything: none of `WlanInterruptEnable`
behind the setting of `ENABLE`, and none of the frame of the handler. -/
def Stmt.plain : Stmt → Bool
  | wieTestMissed | wieTestPin | wieClearMissed | irqTestEnable | irqSetProcess
  | irqClearProcess => false
  | _ => true

theorem Stmt.needs_of_plain {s : Stmt} (h : s.plain = true) : s.needs = none := by
  cases s <;> first | rfl | cases h

theorem Stmt.testsMissed_of_plain {s : Stmt} (h : s.plain = true) : s.testsMissed = false := by
  cases s <;> first | rfl | cases h

theorem Stmt.ne_clear_of_plain {s : Stmt} (h : s.plain = true) : s ≠ .wieClearMissed := by
  intro hs
  subst hs
  cases h

theorem WellFormed.tail {s : Stmt} {rest : List Stmt} (h : WellFormed (s :: rest)) :
    WellFormed rest := h.2.2

/-- Behind any statement but the setting of `ENABLE` there is no test of `MISSED`. -/
theorem WellFormed.next {s : Stmt} {rest : List Stmt} (h : WellFormed (s :: rest))
    (hs : s.setsEnable = false) : atTest rest = false := by
  by_contra hnext
  have hset := h.2.1 ((Bool.not_eq_false _).mp hnext)
  rw [hs] at hset
  cases hset

theorem wellFormed_append {a rest : List Stmt} (ha : Only Stmt.plain a)
    (hnext : atTest rest = false) (h : WellFormed rest) : WellFormed (a ++ rest) := by
  induction a with
  | nil => exact h
  | cons s a ih =>
    obtain ⟨hs, ha⟩ := Only.cons_iff.mp ha
    refine ⟨fun n hn => ?_, fun htest => ?_, ih ha⟩
    · rw [Stmt.needs_of_plain hs] at hn
      cases hn
    · cases a with
      | nil => cases hnext.symm.trans htest
      | cons t a =>
        cases (Stmt.testsMissed_of_plain (Only.cons_iff.mp ha).1).symm.trans htest

theorem wellFormed_plain {a : List Stmt} (ha : Only Stmt.plain a) : WellFormed a := by
  have h : WellFormed (a ++ []) := wellFormed_append ha rfl trivial
  rwa [List.append_nil] at h

theorem wellFormed_enable {rest : List Stmt} (hnext : atTest rest = false)
    (h : WellFormed rest) : WellFormed (.wieSetEnable :: .wieTestMissed :: rest) := by
  refine ⟨fun n hn => ?_, fun _ => rfl, fun n hn => ?_, fun htest => ?_, h⟩
  · cases hn
  · cases hn
  · cases hnext.symm.trans htest

theorem plain_spiWriteCode (f : SpiFrame) : Only Stmt.plain (spiWriteCode f) := rfl

/-- What `SpiWrite` does before it enables interrupts again. -/
theorem plain_prepare (f : SpiFrame) : Only Stmt.plain
    [.widClearEnable, .swSpinIdle, .setState .writeIrq, .swSetTx f, .csEnable] := rfl

/-- A statement that puts code with a shape of its own in front, or belongs to one. -/
def Stmt.shaped : Stmt → Bool
  | wieTestMissed | wieTestPin | irqTestEnable | irqSetProcess | irqClearProcess
  | receiveHandler | swTestInitialized _ | hehTest => true
  | _ => false

/-- All other statements put plain code in front. -/
theorem exec_plain (s : Stmt) (c : Core) (hs : s.shaped = false) :
    Only Stmt.plain (exec patches s c).2 := by
  cases s with
  | writeSync f ptr left => cases left <;> rfl
  | readSync ptr left => cases left <;> rfl
  | hehPatch =>
    simp only [exec]
    split
    · exact Only.flatMap _ plain_spiWriteCode
    · rfl
  | readDataCont =>
    simp only [exec]
    split <;> rfl
  | irqTestIdle | irqTestWriteIrq | swTestPin | irqTestPowerup | testMagic | swTestMagic
  | swTestPowerup | swSpinInitialized | swSpinIdle | swSpinDone | hehTestType | hehTestReturn =>
    simp only [exec]
    split <;> rfl
  | hehUnsol => exact only_hehUnsol patches c rfl
  | wieTestMissed | wieTestPin | irqTestEnable | irqSetProcess | irqClearProcess
  | receiveHandler | swTestInitialized | hehTest => cases hs
  | _ => rfl

/-- One statement keeps the shape. -/
theorem exec_wellFormed (s : Stmt) (c : Core) (rest : List Stmt) (h : WellFormed (s :: rest)) :
    WellFormed ((exec patches s c).2 ++ rest) := by
  cases s with
  | wieSetEnable => exact h.tail
  | irqSetProcess => exact h.tail
  | irqClearProcess => exact h.tail
  | wieTestMissed =>
    have hnext := h.next rfl
    simp only [exec]
    split
    · refine ⟨fun n hn => ?_, fun htest => ?_, fun n hn => ?_, fun htest => ?_, h.tail⟩
      · cases hn
        exact List.mem_cons_self
      · cases htest
      · cases hn
      · cases hnext.symm.trans htest
    · exact h.tail
  | wieTestPin =>
    have hnext := h.next rfl
    simp only [exec]
    split
    · refine ⟨h.1, fun htest => ?_, h.tail⟩
      cases hnext.symm.trans htest
    · exact h.tail
  | irqTestEnable =>
    have hnext := h.next rfl
    simp only [exec]
    split
    · refine ⟨fun n hn => ?_, fun htest => ?_, fun n hn => ?_, fun htest => ?_, h.1,
        fun htest => ?_, h.tail⟩
      · cases hn
        exact List.mem_cons_of_mem _ List.mem_cons_self
      · cases htest
      · cases hn
      · cases htest
      · cases hnext.symm.trans htest
    · exact wellFormed_append rfl hnext h.tail
  | receiveHandler =>
    have hnext := h.next rfl
    simp only [exec]
    split
    · exact @wellFormed_append [.hang] rest rfl hnext h.tail
    · split
      · exact wellFormed_enable hnext h.tail
      · exact h.tail
  | swTestInitialized f =>
    have hnext := h.next rfl
    simp only [exec]
    split
    · exact wellFormed_append rfl hnext h.tail
    · have hpin : WellFormed (.swTestPin :: rest) :=
        @wellFormed_append [.swTestPin] rest rfl hnext h.tail
      have hcode := wellFormed_append (plain_prepare f) rfl (wellFormed_enable rfl hpin)
      exact hcode
  | hehTest =>
    have hnext := h.next rfl
    simp only [exec]
    split
    · have htail : WellFormed (.hehPatch :: .hehTestReturn :: rest) :=
        @wellFormed_append [.hehPatch, .hehTestReturn] rest rfl hnext h.tail
      exact @wellFormed_append [.hehTestType, .hehRelease] _ rfl rfl (wellFormed_enable rfl htail)
    · exact wellFormed_append rfl hnext h.tail
  | _ => exact wellFormed_append (exec_plain _ c rfl) (h.next rfl) h.tail

theorem call_wellFormed (k : Call) : WellFormed k.code := by
  cases k with
  | wlanInterruptEnable => exact wellFormed_enable rfl trivial
  | wlanInterruptDisable => exact wellFormed_plain rfl
  | spiResumeSpi => exact wellFormed_enable rfl trivial
  | spiWrite f => exact wellFormed_plain (plain_spiWriteCode f)
  | command f op args =>
    exact wellFormed_append (plain_spiWriteCode f) rfl (wellFormed_plain rfl)
  | simpleLinkWaitData args => exact wellFormed_plain rfl

/-! What statements leave alone. -/

theorem exec_pinLow (s : Stmt) (c : Core) : (exec patches s c).1.pinLow = c.pinLow := by
  cases s with
  | writeSync f ptr left => cases left <;> rfl
  | readSync ptr left => cases left <;> rfl
  | _ => rfl

theorem exec_missed {s : Stmt} {c : Core} (hs : s.clearsMissed = false) (h : c.missed = true) :
    (exec patches s c).1.missed = true := by
  cases s with
  | wieClearMissed => cases hs
  | irqSetMissed => rfl
  | writeSync f ptr left => cases left <;> exact h
  | readSync ptr left => cases left <;> exact h
  | _ => exact h

/-- Only the handler's own statement sets `PROCESS`. -/
theorem exec_process {s : Stmt} {c : Core} (h : (exec patches s c).1.process = true) :
    s = .irqSetProcess ∨ (s ≠ .irqClearProcess ∧ c.process = true) := by
  by_cases hclear : s = .irqClearProcess
  · subst hclear
    cases h
  · cases s with
    | irqSetProcess => exact .inl rfl
    | irqClearProcess => exact absurd rfl hclear
    | writeSync f ptr left => cases left <;> exact .inr ⟨hclear, h⟩
    | readSync ptr left => cases left <;> exact .inr ⟨hclear, h⟩
    | _ => exact .inr ⟨hclear, h⟩

/-! The path of `WlanInterruptEnable` to the transfer. -/

/-- The code begins a transfer before it clears `MISSED`. -/
inductive Leads (patches : Mem → List SpiFrame) : Core → List Stmt → Prop
  | begins {s : Stmt} (c : Core) (rest : List Stmt) (h : s.begins = true) :
      Leads patches c (s :: rest)
  | step {s : Stmt} {c : Core} {rest : List Stmt} (hs : s.clearsMissed = false)
      (h : Leads patches (exec patches s c).1 ((exec patches s c).2 ++ rest)) :
      Leads patches c (s :: rest)

/-- The handler, with `ENABLE` set and in a state with a transfer. -/
theorem handler_leads {c : Core} (rest : List Stmt) (hen : c.enable = true)
    (hstate : c.ulSpiState = .idle ∨ c.ulSpiState = .writeIrq) :
    Leads patches c (.irqTestEnable :: rest) := by
  refine .step rfl ?_
  simp only [exec, hen, if_true]
  refine .step rfl (.step rfl ?_)
  rcases hstate with hidle | hwrite
  · simp only [exec, hidle, reduceCtorEq, if_false]
    refine .step rfl ?_
    simp only [exec, if_true]
    exact .step rfl (.step rfl (.begins _ _ rfl))
  · simp only [exec, hwrite, reduceCtorEq, if_false]
    refine .step rfl ?_
    simp only [exec, reduceCtorEq, if_false]
    refine .step rfl ?_
    simp only [exec, if_true]
    exact .begins _ _ rfl

/-- What is left to do makes up for an unserved edge: `WlanInterruptEnable` is
about to test `MISSED` or the pin, or is on its way to the transfer. -/
def Serves (patches : Mem → List SpiFrame) (c : Core) (todo : List Stmt) : Prop :=
  (∃ rest, todo = .wieTestMissed :: rest ∧ .wieClearMissed ∉ rest ∧ c.enable = true) ∨
    (∃ rest, todo = .wieTestPin :: .wieClearMissed :: rest ∧ .wieClearMissed ∉ rest ∧
      c.enable = true) ∨
    Leads patches c todo

/-- The invariant. -/
structure EdgeInv (patches : Mem → List SpiFrame) (s : Config) (u : Bool) : Prop where
  shape : WellFormed s.todo
  process : s.core.process = true → .irqClearProcess ∈ s.todo
  pinLow : u = true → s.core.pinLow = true
  missed : u = true → s.core.missed = true
  served : u = true → ¬ Enabling s.todo ∨ Serves patches s.core s.todo

theorem WellFormed.clear_mem {todo : List Stmt} (h : WellFormed todo)
    (hmem : .irqClearProcess ∈ todo) : .wieClearMissed ∈ todo := by
  induction todo with
  | nil => cases hmem
  | cons s rest ih =>
    rcases List.mem_cons.mp hmem with rfl | hmem
    · exact List.mem_cons_of_mem _ (h.1 _ rfl)
    · exact List.mem_cons_of_mem _ (ih h.tail hmem)

theorem atTest_of_head {todo : List Stmt} (h : todo.head? = some .wieTestMissed) :
    atTest todo = true := by
  rw [atTest, h]
  rfl

theorem plain_not_enabling {a rest : List Stmt} (ha : Only Stmt.plain a)
    (hclear : .wieClearMissed ∉ rest) (hnext : atTest rest = false) : ¬ Enabling (a ++ rest) := by
  intro h
  rcases h with hmem | hhead
  · rcases List.mem_append.mp hmem with hmem | hmem
    · exact Stmt.ne_clear_of_plain (ha.mem hmem) rfl
    · exact hclear hmem
  · have htest := atTest_of_head hhead
    cases a with
    | nil => cases hnext.symm.trans htest
    | cons s a => cases (Stmt.testsMissed_of_plain (Only.cons_iff.mp ha).1).symm.trans htest

theorem enable_not_enabling {rest : List Stmt} (hclear : .wieClearMissed ∉ rest) :
    ¬ Enabling (.wieSetEnable :: .wieTestMissed :: rest) := by
  intro h
  rcases h with hmem | hhead
  · simp only [List.mem_cons, reduceCtorEq, false_or] at hmem
    exact hclear hmem
  · cases hhead

/-- A statement outside `WlanInterruptEnable` does not begin it in the middle. -/
theorem exec_not_enabling (s : Stmt) (c : Core) (rest : List Stmt)
    (h : WellFormed (s :: rest)) (hs : s.setsEnable = false) (hen : ¬ Enabling (s :: rest)) :
    ¬ Enabling ((exec patches s c).2 ++ rest) := by
  have hnext := h.next hs
  have hclear : .wieClearMissed ∉ rest := fun hmem => hen (.inl (List.mem_cons_of_mem s hmem))
  cases s with
  | wieSetEnable => cases hs
  | wieTestMissed => exact absurd (.inr rfl) hen
  | wieTestPin => exact absurd (h.1 _ rfl) hclear
  | irqTestEnable => exact absurd (h.1 _ rfl) hclear
  | irqClearProcess => exact absurd (h.1 _ rfl) hclear
  | irqSetProcess => exact plain_not_enabling Only.nil hclear hnext
  | receiveHandler =>
    simp only [exec]
    split
    · exact @plain_not_enabling [.hang] rest rfl hclear hnext
    · split
      · exact enable_not_enabling hclear
      · exact plain_not_enabling Only.nil hclear hnext
  | swTestInitialized f =>
    simp only [exec]
    split
    · exact plain_not_enabling rfl hclear hnext
    · have hrest : .wieClearMissed ∉ Stmt.wieSetEnable :: .wieTestMissed :: .swTestPin :: rest := by
        simpa only [List.mem_cons, reduceCtorEq, false_or] using hclear
      have hcode := plain_not_enabling (plain_prepare f) hrest rfl
      exact hcode
  | hehTest =>
    simp only [exec]
    split
    · have hrest : .wieClearMissed ∉
          Stmt.wieSetEnable :: .wieTestMissed :: .hehPatch :: .hehTestReturn :: rest := by
        simpa only [List.mem_cons, reduceCtorEq, false_or] using hclear
      exact @plain_not_enabling [.hehTestType, .hehRelease] _ rfl hrest rfl
    · exact plain_not_enabling rfl hclear hnext
  | _ => exact plain_not_enabling (exec_plain _ c rfl) hclear hnext

theorem call_not_enabling (k : Call) : ¬ Enabling k.code := by
  have hnil : Stmt.wieClearMissed ∉ [] := List.not_mem_nil
  have hplain : ∀ a, Only Stmt.plain a → ¬ Enabling a := by
    intro a ha h
    exact plain_not_enabling ha hnil rfl (by rwa [List.append_nil])
  cases k with
  | wlanInterruptEnable => exact enable_not_enabling hnil
  | wlanInterruptDisable => exact hplain _ rfl
  | spiResumeSpi => exact enable_not_enabling hnil
  | spiWrite f => exact hplain _ (plain_spiWriteCode f)
  | command f op args =>
    have hcode : Only Stmt.plain (spiWriteCode f ++ [.waitEvent op args]) :=
      (plain_spiWriteCode f).append rfl
    exact hplain _ hcode
  | simpleLinkWaitData args => exact hplain _ rfl

/-! The invariant over one step. -/

/-- Without an unserved edge only the shape matters. -/
theorem EdgeInv.of_served {s : Config} (hshape : WellFormed s.todo)
    (hprocess : s.core.process = true → .irqClearProcess ∈ s.todo) : EdgeInv patches s false := by
  refine ⟨hshape, hprocess, ?_, ?_, ?_⟩
  all_goals
    intro hu
    cases hu

theorem EdgeInv.start (c : Core) (hprocess : c.process = false) :
    EdgeInv patches ⟨c, []⟩ false := by
  refine .of_served trivial fun hp => ?_
  cases hprocess.symm.trans hp

theorem stmt_process {s : Stmt} {c : Core} {rest : List Stmt} (h : WellFormed (s :: rest))
    (hin : c.process = true → .irqClearProcess ∈ s :: rest)
    (hp : (exec patches s c).1.process = true) :
    .irqClearProcess ∈ (exec patches s c).2 ++ rest := by
  rcases exec_process hp with rfl | ⟨hne, hold⟩
  · exact List.mem_append_right _ (h.1 _ rfl)
  · rcases List.mem_cons.mp (hin hold) with heq | hmem
    · exact absurd heq.symm hne
    · exact List.mem_append_right _ hmem

/-- Main code on its way to a transfer does not clear `MISSED`. -/
theorem serves_head {s : Stmt} {c : Core} {rest : List Stmt}
    (h : ¬ Enabling (s :: rest) ∨ Serves patches c (s :: rest)) : s.clearsMissed = false := by
  cases s with
  | wieClearMissed =>
    rcases h with hen | ⟨_, hA, _⟩ | ⟨_, hB, _⟩ | hC
    · exact absurd (.inl List.mem_cons_self) hen
    · cases hA
    · cases hB
    · cases hC with
      | begins _ _ h => cases h
      | step hs _ => exact hs
  | _ => rfl

/-- Setting `ENABLE` in main code is the first step of `WlanInterruptEnable`, or no
part of it. -/
theorem setEnable_served {c : Core} {rest : List Stmt}
    (hen : ¬ Enabling (.wieSetEnable :: rest)) :
    ¬ Enabling rest ∨ Serves patches (exec patches .wieSetEnable c).1 rest := by
  have hrest : .wieClearMissed ∉ rest := fun hmem => hen (.inl (List.mem_cons_of_mem _ hmem))
  cases rest with
  | nil =>
    left
    intro h
    rcases h with hmem | hhead
    · cases hmem
    · cases hhead
  | cons t r =>
    by_cases ht : t = .wieTestMissed
    · subst ht
      exact .inr (.inl ⟨r, rfl, fun hm => hrest (List.mem_cons_of_mem _ hm), rfl⟩)
    · exact .inl fun h => h.elim hrest (fun hn => ht (Option.some.inj hn))

theorem stmt_served {s : Stmt} {c : Core} {rest : List Stmt}
    (h : EdgeInv patches ⟨c, s :: rest⟩ true) (hbegins : s.begins = false)
    (hok : EdgesServed ⟨c, s :: rest⟩ .stmt) :
    ¬ Enabling ((exec patches s c).2 ++ rest) ∨
      Serves patches (exec patches s c).1 ((exec patches s c).2 ++ rest) := by
  rcases h.served rfl with hen | ⟨r, hA, hclear, henable⟩ | ⟨r, hB, hclear, henable⟩ | hC
  · rcases Bool.eq_false_or_eq_true s.setsEnable with hs | hs
    · obtain rfl : s = .wieSetEnable := by cases s <;> first | rfl | cases hs
      exact setEnable_served hen
    · exact .inl (exec_not_enabling s c rest h.shape hs hen)
  · -- the missed edge is still noted, so the test goes on to the pin
    obtain ⟨rfl, rfl⟩ := List.cons.inj hA
    have hmissed : c.missed = true := h.missed rfl
    refine .inr (.inr (.inl ⟨rest, ?_, hclear, henable⟩))
    simp only [exec, hmissed, if_true]
    rfl
  · -- the pin is still low and no handler is under way, so this one begins
    obtain ⟨rfl, rfl⟩ := List.cons.inj hB
    have hpin : c.pinLow = true := h.pinLow rfl
    have hprocess : c.process = false := by
      by_contra hp
      have hmem := h.process (Bool.not_eq_false _ ▸ hp)
      simp only [List.mem_cons, reduceCtorEq, false_or] at hmem
      exact hclear (h.shape.tail.tail.clear_mem hmem)
    have hstate := hok rfl hpin hprocess
    refine .inr (.inr (.inr ?_))
    simp only [exec, hpin, hprocess, Bool.not_false, Bool.and_true, if_true]
    exact handler_leads _ henable hstate
  · cases hC with
    | begins _ _ h =>
      rw [hbegins] at h
      cases h
    | step _ hnext => exact .inr (.inr (.inr hnext))

theorem EdgeInv.step {s t : Config} {u : Bool} {l : Label} (h : EdgeInv patches s u)
    (hok : EdgesServed s l) (hs : SpiStep patches s l t) :
    EdgeInv patches t (unserved u s l t) := by
  cases hs with
  | stmt c s rest =>
    have hold : unserved u ⟨c, s :: rest⟩ .stmt
        ⟨(exec patches s c).1, (exec patches s c).2 ++ rest⟩ = true →
        u = true ∧ s.begins = false := by
      intro hu
      simpa only [unserved, List.head?_cons, Option.any_some, Bool.and_eq_true,
        Bool.not_eq_true'] using hu
    refine ⟨exec_wellFormed s c rest h.shape, stmt_process h.shape h.process, ?_, ?_, ?_⟩
    · intro hu
      rw [exec_pinLow]
      exact h.pinLow (hold hu).1
    · intro hu
      exact exec_missed (serves_head (h.served (hold hu).1)) (h.missed (hold hu).1)
    · intro hu
      obtain ⟨rfl, hbegins⟩ := hold hu
      exact stmt_served h hbegins hok
  | call c k =>
    refine ⟨call_wellFormed k, fun hp => ?_, h.pinLow, h.missed,
      fun _ => .inl (call_not_enabling k)⟩
    cases h.process hp
  | @edge c c' todo hpin hisr =>
    rcases Bool.eq_false_or_eq_true c.enable with hen | hen
    · have hu : unserved u ⟨c, todo⟩ .edge ⟨c', todo⟩ = false := by simp only [unserved, hen]; rfl
      have hprocess : c'.process = false := by
        rcases isr_accepted hisr hen with ⟨-, rfl⟩ | ⟨-, rfl⟩ | ⟨-, rfl⟩ | ⟨-, -, -, rfl⟩ <;> rfl
      rw [hu]
      refine .of_served h.shape fun hp => ?_
      cases hprocess.symm.trans hp
    · rw [isr_refused hisr hen]
      exact ⟨h.shape, h.process, fun _ => rfl, fun _ => rfl, fun _ => .inl (hok hen)⟩
  | rise c todo => exact .of_served h.shape h.process

/-! The claim over runs. -/

/-- While the pin is low for an unserved edge, `MISSED` is set. -/
def EdgeKept (s : Config × Bool) : Prop :=
  s.2 = true → s.1.core.pinLow = true → s.1.core.missed = true

/-- **No interrupt edge is lost** in a run in which no edge is refused during
`WlanInterruptEnable` and its call of the handler finds a state with a transfer. -/
theorem edgeKept_of_guardedRun {coming : Nat → Mem} {sWlanCB : Bool} {rx : Mem} {tx : SpiFrame}
    {args : WaitArgs} {ls : List Label} {s : Config × Bool}
    (h : Run (guardedRun patches) (⟨Core.start coming sWlanCB rx tx args, []⟩, false) ls s) :
    EdgeKept s := by
  have hinv : EdgeInv patches s.1 s.2 := by
    apply h.invariant (P := fun s => EdgeInv patches s.1 s.2) (EdgeInv.start _ rfl)
    intro a l b _ ha ⟨⟨hok, hstep⟩, hobs⟩
    rw [hobs]
    exact ha.step hok hstep
  exact fun hu _ => hinv.missed hu

/-- An edge that comes while interrupts are masked. -/
theorem edgeKept_masked :
    EdgeKept (⟨{ dataCore with enable := false, pinLow := true, missed := true }, []⟩, true) := by
  have hmask : guardedRun (fun _ => []) (⟨dataCore, []⟩, false) (.call .wlanInterruptDisable)
      (⟨dataCore, wlanInterruptDisable⟩, false) := ⟨⟨trivial, .call _ _⟩, rfl⟩
  have hclear : guardedRun (fun _ => []) (⟨dataCore, wlanInterruptDisable⟩, false) .stmt
      (⟨{ dataCore with enable := false }, []⟩, false) := by
    refine ⟨⟨fun hhead => ?_, .stmt _ .widClearEnable []⟩, rfl⟩
    cases hhead
  have hedge : guardedRun (fun _ => []) (⟨{ dataCore with enable := false }, []⟩, false) .edge
      (⟨{ dataCore with enable := false, pinLow := true, missed := true }, []⟩, true) := by
    refine ⟨⟨fun _ henabling => ?_, .edge [] rfl (Code.finishes_of_runAlone 2 rfl)⟩, rfl⟩
    rcases henabling with hmem | hhead
    · cases hmem
    · cases hhead
  exact edgeKept_of_guardedRun (.cons hmask (.cons hclear (.cons hedge (.nil _))))

/-- The counterexample: a data packet is read by the handler that
`WlanInterruptEnable` calls, and interrupts stay masked for it; the edge that is
refused then is cleared away with `MISSED`. -/
theorem not_edgeKept : ¬ ∀ (patches : Mem → List SpiFrame) (coming : Nat → Mem) (sWlanCB : Bool)
    (rx : Mem) (tx : SpiFrame) (args : WaitArgs) (ls : List Label) (s : Config × Bool),
    Run (watched patches) (⟨Core.start coming sWlanCB rx tx args, []⟩, false) ls s →
      EdgeKept s := by
  intro h
  -- the module starts, and the first frame is written
  have hopen : Run (watched fun _ => []) (⟨dataCore, []⟩, false) [.edge] _ :=
    run_edge [] false 10 rfl rfl
  have hfirst := (hopen.append (run_rise _ _ _)).append (run_call _ (.spiWrite oneByteFrame) _)
  have hidle := hfirst.append (run_mainAlone 15 rfl)
  -- an edge is refused, and `WlanInterruptEnable` reads the packet for it
  have hmask := (hidle.append (run_call _ .wlanInterruptDisable _)).append (run_mainAlone 1 rfl)
  have hrefused := hmask.append (run_edge _ _ 10 rfl rfl)
  have henable :=
    (hrefused.append (run_call _ .wlanInterruptEnable _)).append (run_mainAlone 26 rfl)
  -- the second edge is refused before `MISSED` is cleared
  have hsecond := (henable.append (run_rise _ _ _)).append (run_edge _ _ 10 rfl rfl)
  have hend := hsecond.append (run_mainAlone 6 rfl)
  cases h _ _ _ _ _ _ _ _ hend rfl rfl

end SpiderL3S
