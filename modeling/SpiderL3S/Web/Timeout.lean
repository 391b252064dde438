import SpiderL3S.Lib.Runs
import SpiderL3S.Web.Request

/- The timeout of the receive loop. `tmr` is the reading of a 32-bit counter plus
   100, in 32 bits, and a loop test compares it with the counter by `<`. Time is a
   natural number here, of which the readings are the low 32 bits, and `Clock`
   follows the last refresh of the deadline and the calls of `recv`.

   The loop times out when it should exactly in the runs in which no loop test has a
   wrap of the counter between it and the deadline, on either side
   (`requestTimeout_iff`). -/
namespace SpiderL3S

open Runs

/-! The loop. -/

/-- A turn of the loop: the time of its test, what `recv` has put into `data_pool`,
and the time behind it. -/
structure Turn where
  now : Nat
  chunk : { chunk : List UInt8 // chunk.length ≤ 100 }
  after : Nat

/-- What the code sees of it. -/
def Turn.poll (l : Turn) : Poll := ⟨UInt32.ofNat l.now, some l.chunk, UInt32.ofNat l.after⟩

/-- The loop at its next test, or how it has ended. -/
inductive RequestLoop where
  | running (r : Request) (tmr : UInt32)
  | returned (r : Request)
  | timedOut (r : Request)

def RequestLoop.turn (sz : Sizes) : RequestLoop → Turn → Option RequestLoop
  | running r tmr, l =>
    if l.poll.now < tmr then
      if l.chunk.val.length > 0 then
        match processBytes sz r l.chunk.val with
        | (r, true) => some (returned r)
        | (r, false) => some (running r (l.poll.after + webserverRequestTimeout))
      else some (running r tmr)
    else some (timedOut r)
  | _, _ => none

/-- What `requestLoop` says of it. -/
def RequestLoop.result : RequestLoop → Request × Option Int
  | running r _ => (r, none)
  | returned r => (r, some 0)
  | timedOut r => (r, some 0)

/-- The time of the last reading, the last refresh of the deadline, and how many times
`recv` has been called. -/
structure Clock where
  last : Nat
  refreshed : Nat
  calls : Nat

def observeClock (k : Clock) (_ : RequestLoop) (l : Turn) : RequestLoop → Clock
  | .timedOut _ => { k with last := l.now }
  | _ =>
    { last := l.after
      refreshed := if l.chunk.val.length > 0 then l.after else k.refreshed
      calls := k.calls + 1 }

/-- Time only advances, by less than half a round of the counter between two refreshes,
and the first test takes none. -/
def Advances (x : RequestLoop × Clock) (l : Turn) : Prop :=
  x.2.last ≤ l.now ∧ l.now ≤ l.after ∧ l.after < x.2.refreshed + 2147483648 ∧
    (x.2.calls = 0 → l.now = x.2.last)

def TurnStep (sz : Sizes) : RequestLoop × Clock → Turn → RequestLoop × Clock → Prop :=
  guarded Advances (watch (fun x l y => x.turn sz l = some y) observeClock)

def RequestLoop.IsTimedOut : RequestLoop → Prop
  | timedOut _ => True
  | _ => False

/-- A test ends the loop exactly if the deadline has passed, and never before `recv` has
been called. -/
def TimeoutRight (x : RequestLoop × Clock) (l : Turn) (y : RequestLoop × Clock) : Prop :=
  (y.1.IsTimedOut ↔ x.2.refreshed + 100 ≤ l.now) ∧ (y.1.IsTimedOut → 0 < x.2.calls)

/-- The counter does not wrap between the test and the deadline. -/
def SameRound (x : RequestLoop × Clock) (l : Turn) : Prop :=
  l.now / 4294967296 = (x.2.refreshed + 100) / 4294967296

/-- The loop when it is entered. -/
def RequestLoop.entered (t0 : UInt32) : RequestLoop × Clock :=
  (running .start (t0 + webserverRequestTimeout), ⟨t0.toNat, t0.toNat, 0⟩)

/-! One turn. -/

/-- The four ways a turn can go. -/
inductive Turned (sz : Sizes) (r : Request) (tmr : UInt32) (l : Turn) : RequestLoop → Prop where
  | returned {r' : Request} (hopen : l.poll.now < tmr) (hlen : l.chunk.val.length > 0)
      (hbytes : processBytes sz r l.chunk.val = (r', true)) : Turned sz r tmr l (.returned r')
  | received {r' : Request} (hopen : l.poll.now < tmr) (hlen : l.chunk.val.length > 0)
      (hbytes : processBytes sz r l.chunk.val = (r', false)) :
      Turned sz r tmr l (.running r' (l.poll.after + webserverRequestTimeout))
  | nothing (hopen : l.poll.now < tmr) (hlen : ¬ l.chunk.val.length > 0) :
      Turned sz r tmr l (.running r tmr)
  | timedOut (hover : ¬ l.poll.now < tmr) : Turned sz r tmr l (.timedOut r)

theorem turned_of_turn {sz : Sizes} {r : Request} {tmr : UInt32} {l : Turn} {y : RequestLoop}
    (h : (RequestLoop.running r tmr).turn sz l = some y) : Turned sz r tmr l y := by
  rw [RequestLoop.turn] at h
  by_cases hopen : l.poll.now < tmr
  · rw [if_pos hopen] at h
    by_cases hlen : l.chunk.val.length > 0
    · rw [if_pos hlen] at h
      cases hbytes : processBytes sz r l.chunk.val with
      | mk r' returned =>
        rw [hbytes] at h
        cases returned with
        | true =>
          cases h
          exact .returned hopen hlen hbytes
        | false =>
          cases h
          exact .received hopen hlen hbytes
    · rw [if_neg hlen] at h
      cases h
      exact .nothing hopen hlen
  · rw [if_neg hopen] at h
    cases h
    exact .timedOut hopen

theorem Turned.isTimedOut_iff {sz : Sizes} {r : Request} {tmr : UInt32} {l : Turn}
    {y : RequestLoop} (h : Turned sz r tmr l y) : y.IsTimedOut ↔ ¬ l.poll.now < tmr := by
  cases h with
  | returned hopen _ _ => exact iff_of_false id (not_not_intro hopen)
  | received hopen _ _ => exact iff_of_false id (not_not_intro hopen)
  | nothing hopen _ => exact iff_of_false id (not_not_intro hopen)
  | timedOut hover => exact iff_of_true trivial hover

/-- The turns are those of `requestLoop`. -/
theorem requestLoop_of_run {sz : Sizes} {r : Request} {tmr : UInt32} {ls : List Turn}
    {x : RequestLoop} (h : Run (fun x l y => x.turn sz l = some y) (.running r tmr) ls x) :
    requestLoop sz r tmr (ls.map Turn.poll) = x.result := by
  induction ls generalizing r tmr with
  | nil =>
    cases h
    rfl
  | cons l ls ih =>
    cases h with
    | cons hs hrest =>
      rw [List.map_cons, requestLoop]
      cases turned_of_turn hs with
      | returned hopen hlen hbytes =>
        rw [if_pos hopen]
        show (if l.chunk.val.length > 0 then _ else _) = _
        rw [if_pos hlen, hbytes]
        cases hrest with
        | nil => rfl
        | cons hs _ => cases hs
      | received hopen hlen hbytes =>
        rw [if_pos hopen]
        show (if l.chunk.val.length > 0 then _ else _) = _
        rw [if_pos hlen, hbytes]
        exact ih hrest
      | nothing hopen hlen =>
        rw [if_pos hopen]
        show (if l.chunk.val.length > 0 then _ else _) = _
        rw [if_neg hlen]
        exact ih hrest
      | timedOut hover =>
        rw [if_neg hover]
        cases hrest with
        | nil => rfl
        | cons hs _ => cases hs

/-! The deadline. -/

/-- A comparison of readings is one of times exactly within one round of the counter. -/
theorem ofNat_lt_iff {now deadline : Nat} (hle : deadline ≤ now + 100)
    (hlt : now < deadline + 2147483648) :
    (UInt32.ofNat now < UInt32.ofNat deadline ↔ now < deadline) ↔
      now / 4294967296 = deadline / 4294967296 := by
  rw [UInt32.lt_iff_toNat_lt, UInt32.toNat_ofNat', UInt32.toNat_ofNat']
  simp only [Nat.reducePow]
  omega

/-- While the loop runs, `tmr` is the reading at the deadline, and until `recv` is called
no time has passed. -/
def DeadlineInv (x : RequestLoop × Clock) : Prop :=
  ∀ r tmr, x.1 = .running r tmr →
    tmr = UInt32.ofNat (x.2.refreshed + 100) ∧ x.2.refreshed ≤ x.2.last ∧
      (x.2.calls = 0 → x.2.refreshed = x.2.last)

theorem DeadlineInv.entered (t0 : UInt32) : DeadlineInv (RequestLoop.entered t0) := by
  intro r tmr hrunning
  cases hrunning
  refine ⟨?_, Nat.le_refl _, fun _ => rfl⟩
  show t0 + 100 = UInt32.ofNat (t0.toNat + 100)
  rw [UInt32.ofNat_add, UInt32.ofNat_toNat]
  rfl

/-- Every turn keeps the invariant. -/
theorem DeadlineInv.step {sz : Sizes} {x y : RequestLoop × Clock} {l : Turn} (h : DeadlineInv x)
    (hs : TurnStep sz x l y) : DeadlineInv y := by
  obtain ⟨loop, k⟩ := x
  obtain ⟨loop', k'⟩ := y
  obtain ⟨⟨hnow, hafter, -, -⟩, hturn, hclock⟩ := hs
  change k.last ≤ l.now at hnow
  change loop.turn sz l = some loop' at hturn
  change k' = observeClock k loop l loop' at hclock
  subst hclock
  intro r' tmr' hrunning
  change loop' = .running r' tmr' at hrunning
  subst hrunning
  cases loop with
  | running r tmr =>
    obtain ⟨htmr, hrefreshed, -⟩ := h r tmr rfl
    change k.refreshed ≤ k.last at hrefreshed
    cases turned_of_turn hturn with
    | received _ hlen _ =>
      show _ = UInt32.ofNat ((if l.chunk.val.length > 0 then l.after else k.refreshed) + 100) ∧
        (if l.chunk.val.length > 0 then l.after else k.refreshed) ≤ l.after ∧ _
      rw [if_pos hlen, UInt32.ofNat_add]
      exact ⟨rfl, Nat.le_refl _, fun hnone => absurd hnone (Nat.succ_ne_zero _)⟩
    | nothing _ hlen =>
      show _ = UInt32.ofNat ((if l.chunk.val.length > 0 then l.after else k.refreshed) + 100) ∧
        (if l.chunk.val.length > 0 then l.after else k.refreshed) ≤ l.after ∧ _
      rw [if_neg hlen]
      exact ⟨htmr, by omega, fun hnone => absurd hnone (Nat.succ_ne_zero _)⟩
  | returned _ => cases hturn
  | timedOut _ => cases hturn

/-- The test of a turn is right exactly if the counter does not wrap. -/
theorem DeadlineInv.right_iff {sz : Sizes} {x y : RequestLoop × Clock} {l : Turn}
    (h : DeadlineInv x) (hs : TurnStep sz x l y) : TimeoutRight x l y ↔ SameRound x l := by
  obtain ⟨loop, k⟩ := x
  obtain ⟨loop', k'⟩ := y
  obtain ⟨⟨hnow, hafter, hround, hfirst⟩, hturn, -⟩ := hs
  change k.last ≤ l.now at hnow
  change l.after < k.refreshed + 2147483648 at hround
  change k.calls = 0 → l.now = k.last at hfirst
  change loop.turn sz l = some loop' at hturn
  cases loop with
  | running r tmr =>
    obtain ⟨htmr, hrefreshed, hentry⟩ := h r tmr rfl
    change tmr = UInt32.ofNat (k.refreshed + 100) at htmr
    change k.refreshed ≤ k.last at hrefreshed
    change k.calls = 0 → k.refreshed = k.last at hentry
    have hends : loop'.IsTimedOut ↔ ¬ UInt32.ofNat l.now < UInt32.ofNat (k.refreshed + 100) := by
      rw [← htmr]
      exact (turned_of_turn hturn).isTimedOut_iff
    have htest := @ofNat_lt_iff l.now (k.refreshed + 100) (by omega) (by omega)
    show ((loop'.IsTimedOut ↔ k.refreshed + 100 ≤ l.now) ∧ (loop'.IsTimedOut → 0 < k.calls)) ↔
      l.now / 4294967296 = (k.refreshed + 100) / 4294967296
    rw [← htest, hends]
    constructor
    · intro hright
      have hexact := hright.1
      constructor
      · intro hopen
        by_contra hover
        exact hexact.mpr (Nat.le_of_not_lt hover) hopen
      · intro hearly
        by_contra hover
        exact absurd (hexact.mp hover) (Nat.not_le_of_lt hearly)
    · intro hexact
      rw [hexact]
      refine ⟨Nat.not_lt, fun hover => ?_⟩
      -- at the first test no time has passed
      by_contra hnone
      have hzero : k.calls = 0 := Nat.eq_zero_of_not_pos hnone
      have hsame := hfirst hzero
      have hstart := hentry hzero
      omega
  | returned _ => cases hturn
  | timedOut _ => cases hturn

/-- **The request timeout is right up to a wrap.** For every time of entry, every
sequence of receptions and every advance of the counter, the loop times out when it
should, and not before `recv` has been called, exactly if the counter wraps at no
loop test between the test and the deadline. -/
theorem requestTimeout_iff (sz : Sizes) (t0 : UInt32) (ls : List Turn) (x : RequestLoop × Clock) :
    Run (fun a l b => TurnStep sz a l b ∧ TimeoutRight a l b) (RequestLoop.entered t0) ls x ↔
      Run (guarded SameRound (TurnStep sz)) (RequestLoop.entered t0) ls x := by
  apply Run.demand_iff (P := DeadlineInv) (DeadlineInv.entered t0)
  · intro a l b ha _ hs
    exact ha.step hs
  · intro a l b ha hs
    exact ha.right_iff hs

/-- **At the wrap, `recv` is not called.** The loop is entered 50 ticks before the
counter wraps. -/
theorem not_requestTimeout :
    ¬ ∀ (sz : Sizes) (t0 : UInt32) (ls : List Turn) (x y : RequestLoop × Clock) (l : Turn),
      Run (TurnStep sz) (RequestLoop.entered t0) ls x → TurnStep sz x l y → TimeoutRight x l y := by
  intro h
  have hright := h ⟨5, 30, 15, 0⟩ 4294967246 [] (RequestLoop.entered 4294967246)
    (.timedOut .start, ⟨4294967246, 4294967246, 0⟩) ⟨4294967246, ⟨[], by decide⟩, 4294967246⟩
    (.nil _) ⟨⟨by decide, by decide, by decide, fun _ => rfl⟩, rfl, rfl⟩
  exact absurd (hright.2 trivial) (by decide)

end SpiderL3S
