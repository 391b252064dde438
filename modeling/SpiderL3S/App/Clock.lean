import SpiderL3S.App.Ntp

/- `ntp.ino`, a clock on a serial line. What `NTP_get_time` stores is not always a date,
   for the last day of a leap year comes out as day 0 of the next one. Yet it counts the
   right day: whatever the timestamp, the fields give it back, and compared from the year
   down they are ordered as the timestamps are (`breakDown_faithful`). So the clock never
   goes back where the instants of the replies do not, not even on the days it misnames,
   and it leaves the time between two lines that the sketch asks for (`clock_of_run`). -/
namespace SpiderL3S

open Calendar

/-! The fields and their order. -/

/-- What is stored, the largest unit first. -/
def NtpTime.fields (t : NtpTime) : List Nat :=
  [t.year.toNat, t.month.toNat, t.day.toNat, t.hour.toNat, t.minute.toNat, t.second.toNat]

/-- `t` is before `u`, compared from the year down. -/
def NtpTime.Before (t u : NtpTime) : Prop := List.Lex (· < ·) t.fields u.fields

/-- The number of the day that year, month and day count off. -/
def NtpTime.dayNumber (t : NtpTime) : Nat :=
  daysBefore t.year.toNat + place (monthLengths t.year.toNat) (t.month.toNat - 1) t.day.toNat

/-- The seconds since the epoch that the fields count off. -/
def NtpTime.seconds (t : NtpTime) : Nat :=
  86400 * (t.dayNumber - epoch.ordinal) + 3600 * t.hour.toNat + 60 * t.minute.toNat +
    t.second.toNat

/-- A month of its year and a day of the month, or day 0. -/
structure NtpTime.Counts (t : NtpTime) (days : Nat) : Prop where
  year_pos : 1 ≤ t.year.toNat
  month_pos : 1 ≤ t.month.toNat
  day_le : ∃ h : t.month.toNat - 1 < (monthLengths t.year.toNat).length,
    t.day.toNat ≤ (monthLengths t.year.toNat)[t.month.toNat - 1]
  number : t.dayNumber = epoch.ordinal + days

/-- Without a day left, what is stored is day 0 of January. -/
theorem countMonths_none (day : UInt16) (year : UInt16) :
    countMonths 0 0 day (if leapYear year then mDTableLeap else mDTableNormal) = (1, 0) := by
  split <;> rfl

/-- Whatever the timestamp, the day is counted right. -/
theorem breakDown_counts (timestamp_now : UInt32) (t : NtpTime) :
    (breakDown timestamp_now t).Counts (timestamp_now.toNat / 86400) := by
  by_cases hsome : 1 ≤ (countYears (timestamp_now / 86400 + 1) 1970).1.toNat
  · obtain ⟨date, hyear, hmonth, hday, hnumber⟩ := breakDown_date timestamp_now t hsome
    obtain ⟨hone, hinside⟩ := date.valid
    refine ⟨?_, ?_, ?_, ?_⟩
    · rw [hyear]
      exact date.year_pos
    · rw [hmonth]
      exact date.month_pos
    · rw [hyear, hmonth, hday]
      exact hinside
    · rw [NtpTime.dayNumber, hyear, hmonth, hday, ← hnumber]
      rfl
  · obtain ⟨hleft, hcounter⟩ := yearsLeft_timestamp timestamp_now
    have hdays := hleft.days
    rw [hcounter] at hdays
    have hnone : (countYears (timestamp_now / 86400 + 1) 1970).1 = 0 :=
      UInt32.toNat_inj.mp (Nat.lt_one_iff.mp (Nat.lt_of_not_le hsome))
    have hstored : ((breakDown timestamp_now t).month, (breakDown timestamp_now t).day) =
        countMonths (countYears (timestamp_now / 86400 + 1) 1970).1 0 t.day
          (if leapYear (countYears (timestamp_now / 86400 + 1) 1970).2 then mDTableLeap
          else mDTableNormal) := rfl
    rw [hnone, countMonths_none] at hstored
    obtain ⟨hmonth, hday⟩ := Prod.mk.inj hstored
    have hyear : (breakDown timestamp_now t).year =
        (countYears (timestamp_now / 86400 + 1) 1970).2 := rfl
    rw [hnone, ← hyear] at hdays
    change _ + 0 = 719162 + (_ + 1) at hdays
    refine ⟨?_, by rw [hmonth]; decide, ?_, ?_⟩
    · by_contra hzero
      rw [Nat.lt_one_iff.mp (Nat.lt_of_not_le hzero)] at hdays
      change 0 = _ at hdays
      omega
    · rw [hmonth, hday]
      exact ⟨Nat.zero_lt_succ 11, Nat.zero_le _⟩
    · rw [NtpTime.dayNumber, hmonth, hday]
      change daysBefore _ + 0 = 719163 + _
      omega

/-- The fields give the timestamp back. -/
theorem breakDown_seconds (timestamp_now : UInt32) (t : NtpTime) :
    (breakDown timestamp_now t).seconds = timestamp_now.toNat := by
  obtain ⟨hhour, hminute, hsecond⟩ := timeOfDay timestamp_now t
  rw [NtpTime.seconds, (breakDown_counts timestamp_now t).number, Nat.add_sub_cancel_left, hhour,
    hminute, hsecond]
  omega

theorem NtpTime.Counts.place_le {t : NtpTime} {days : Nat} (h : t.Counts days) :
    place (monthLengths t.year.toNat) (t.month.toNat - 1) t.day.toNat ≤
      yearLength t.year.toNat := by
  obtain ⟨hmonth, hday⟩ := h.day_le
  rw [← monthLengths_sum]
  exact place_le_sum hmonth hday

/-- A day that comes before has the smaller fields. -/
theorem fields_lt_of_days {t u : NtpTime} {m n : Nat} (ht : t.Counts m) (hu : u.Counts n)
    (h : m < n) : t.Before u := by
  have hnumber : t.dayNumber < u.dayNumber := by
    rw [ht.number, hu.number]
    exact Nat.add_lt_add_left h _
  rw [NtpTime.Before, NtpTime.fields, NtpTime.fields, List.cons_lex_cons_iff]
  rcases lex_of_year_lt hu.year_pos hu.place_le hnumber with hyear | ⟨hyear, hplace⟩
  · exact .inl hyear
  · refine .inr ⟨hyear, ?_⟩
    obtain ⟨hmonth, hday⟩ := hu.day_le
    rw [hyear] at hplace
    rw [List.cons_lex_cons_iff]
    have h₁ := ht.month_pos
    have h₂ := hu.month_pos
    rcases lex_of_place_lt hmonth hday hplace with hlt | ⟨heq, hlt⟩
    · exact .inl (by omega)
    · exact .inr ⟨by omega, List.cons_lex_cons_iff.mpr (.inl hlt)⟩

/-- On one day, the time of the day decides. -/
theorem fields_lt_of_time {a b : UInt32} (t : NtpTime) (hday : a / 86400 = b / 86400)
    (h : a.toNat < b.toNat) : (breakDown a t).Before (breakDown b t) := by
  have hyear : (breakDown a t).year = (breakDown b t).year := by
    show (countYears (a / 86400 + 1) 1970).2 = (countYears (b / 86400 + 1) 1970).2
    rw [hday]
  have hrest : ((breakDown a t).month, (breakDown a t).day) =
      ((breakDown b t).month, (breakDown b t).day) := by
    show countMonths (countYears (a / 86400 + 1) 1970).1 0 t.day
        (if leapYear (countYears (a / 86400 + 1) 1970).2 then mDTableLeap else mDTableNormal) =
      countMonths (countYears (b / 86400 + 1) 1970).1 0 t.day
        (if leapYear (countYears (b / 86400 + 1) 1970).2 then mDTableLeap else mDTableNormal)
    rw [hday]
  obtain ⟨hmonth, hdayField⟩ := Prod.mk.inj hrest
  obtain ⟨hhour₁, hminute₁, hsecond₁⟩ := timeOfDay a t
  obtain ⟨hhour₂, hminute₂, hsecond₂⟩ := timeOfDay b t
  have hdays : a.toNat / 86400 = b.toNat / 86400 := by
    have hnat := congrArg UInt32.toNat hday
    rwa [UInt32.toNat_div, UInt32.toNat_div] at hnat
  rw [NtpTime.Before, NtpTime.fields, NtpTime.fields, hyear, hmonth, hdayField, hhour₁, hminute₁,
    hsecond₁, hhour₂, hminute₂, hsecond₂]
  refine .cons (.cons (.cons ?_))
  rw [List.cons_lex_cons_iff, List.cons_lex_cons_iff, List.cons_lex_cons_iff]
  -- the hours, then the minutes, then the seconds
  by_cases hhour : a.toNat / 3600 % 24 < b.toNat / 3600 % 24
  · exact .inl hhour
  · refine .inr ⟨by omega, ?_⟩
    by_cases hminute : a.toNat / 60 % 60 < b.toNat / 60 % 60
    · exact .inl hminute
    · exact .inr ⟨by omega, .inl (by omega)⟩

/-- Later timestamps have the larger fields. -/
theorem breakDown_lt {a b : UInt32} (t : NtpTime) (h : a < b) :
    (breakDown a t).Before (breakDown b t) := by
  have hlt : a.toNat < b.toNat := UInt32.lt_iff_toNat_lt.mp h
  rcases Nat.lt_or_ge (a.toNat / 86400) (b.toNat / 86400) with hdays | hdays
  · exact fields_lt_of_days (breakDown_counts a t) (breakDown_counts b t) hdays
  · have hday : a / 86400 = b / 86400 := by
      apply UInt32.toNat_inj.mp
      rw [UInt32.toNat_div, UInt32.toNat_div]
      exact Nat.le_antisymm (Nat.div_le_div_right (Nat.le_of_lt hlt)) hdays
    exact fields_lt_of_time t hday hlt

theorem NtpTime.Before.asymm {t u : NtpTime} (h : t.Before u) : ¬ u.Before t :=
  List.lex_asymm (fun hlt => Nat.lt_asymm hlt) h

/-- **The fields count the timestamps**, every one of them and also where a day has no date
of its own: they give the timestamp back, and compared from the year down they are ordered
as the timestamps are. -/
theorem breakDown_faithful (a b : UInt32) (t : NtpTime) :
    (breakDown a t).seconds = a.toNat ∧
      (a < b ↔ (breakDown a t).Before (breakDown b t)) := by
  refine ⟨breakDown_seconds a t, breakDown_lt t, ?_⟩
  intro hbefore
  by_contra hnot
  rcases Nat.lt_or_eq_of_le (UInt32.le_iff_toNat_le.mp (UInt32.not_lt.mp hnot)) with hlt | heq
  · exact (breakDown_lt t (UInt32.lt_iff_toNat_lt.mpr hlt)).asymm hbefore
  · rw [UInt32.toNat_inj.mp heq] at hbefore
    exact hbefore.asymm hbefore

/-! The sketch. -/

abbrev updateTimePeriod : UInt32 := 500

/-- What one call of `loop` meets: the clock of the board at the test and behind the
line, and what the two calls of `NTP_get_time` bring. -/
structure ClockTurn where
  now : UInt32
  sendto : Int16
  recvfrom : Int16
  msg : Mem
  later : UInt32

/-- `loop`: `update_tmr` behind it, and the line. -/
def clockLoop (ntp : Ntp) (update_tmr : UInt32) (turn : ClockTurn) :
    UInt32 × Option (Int16 × NtpTime) :=
  if update_tmr < turn.now then
    (turn.later + updateTimePeriod,
      some (ntpGetTime ntp turn.sendto turn.recvfrom turn.msg ⟨0, 0, 0, 0, 0, 0⟩))
  else (update_tmr, none)

/-- A line, with the turn it was written in. -/
structure ClockLine where
  turn : ClockTurn
  ret : Int16
  time : NtpTime

/-- The lines of calls of `loop` one behind the other. -/
def clockLines (ntp : Ntp) (update_tmr : UInt32) : List ClockTurn → List ClockLine
  | [] => []
  | turn :: turns =>
    let (update_tmr, line) := clockLoop ntp update_tmr turn
    match line with
    | some (ret, time) => ⟨turn, ret, time⟩ :: clockLines ntp update_tmr turns
    | none => clockLines ntp update_tmr turns

theorem clockLines_printed {ntp : Ntp} {update_tmr : UInt32} {turn : ClockTurn}
    (turns : List ClockTurn) (h : update_tmr < turn.now) :
    clockLines ntp update_tmr (turn :: turns) =
      ⟨turn, (ntpGetTime ntp turn.sendto turn.recvfrom turn.msg ⟨0, 0, 0, 0, 0, 0⟩).1,
        (ntpGetTime ntp turn.sendto turn.recvfrom turn.msg ⟨0, 0, 0, 0, 0, 0⟩).2⟩ ::
        clockLines ntp (turn.later + updateTimePeriod) turns := by
  rw [clockLines, clockLoop, if_pos h]

theorem clockLines_skipped {ntp : Ntp} {update_tmr : UInt32} {turn : ClockTurn}
    (turns : List ClockTurn) (h : ¬ update_tmr < turn.now) :
    clockLines ntp update_tmr (turn :: turns) = clockLines ntp update_tmr turns := by
  rw [clockLines, clockLoop, if_neg h]

/-- The lines come from the calls, in their order. -/
theorem clockLines_sublist (ntp : Ntp) (update_tmr : UInt32) (turns : List ClockTurn) :
    ((clockLines ntp update_tmr turns).map ClockLine.turn).Sublist turns := by
  induction turns generalizing update_tmr with
  | nil => exact .slnil
  | cons turn turns ih =>
    by_cases h : update_tmr < turn.now
    · rw [clockLines_printed turns h, List.map_cons]
      exact (ih _).cons_cons turn
    · rw [clockLines_skipped turns h]
      exact (ih _).cons turn

/-- A line is what `NTP_get_time` makes of its turn. -/
theorem clockLines_line {ntp : Ntp} {update_tmr : UInt32} {turns : List ClockTurn}
    {line : ClockLine} (h : line ∈ clockLines ntp update_tmr turns) :
    (line.ret, line.time) = ntpGetTime ntp line.turn.sendto line.turn.recvfrom line.turn.msg
      ⟨0, 0, 0, 0, 0, 0⟩ := by
  induction turns generalizing update_tmr with
  | nil => cases h
  | cons turn turns ih =>
    by_cases hnow : update_tmr < turn.now
    · rw [clockLines_printed turns hnow] at h
      rcases List.mem_cons.mp h with rfl | h
      · rfl
      · exact ih h
    · rw [clockLines_skipped turns hnow] at h
      exact ih h

/-- The clock of the board does not go back or come near its end. -/
structure Ticks (turns : List ClockTurn) : Prop where
  within : ∀ turn ∈ turns, turn.now ≤ turn.later ∧ turn.later.toNat + 500 < 4294967296
  between : turns.Pairwise fun a b => a.later ≤ b.now

theorem Ticks.tail {turn : ClockTurn} {turns : List ClockTurn} (h : Ticks (turn :: turns)) :
    Ticks turns :=
  ⟨fun t ht => h.within t (List.mem_cons_of_mem turn ht), (List.pairwise_cons.mp h.between).2⟩

/-- No line is written before its time. -/
theorem clockLines_after {ntp : Ntp} {update_tmr : UInt32} {turns : List ClockTurn}
    (hticks : Ticks turns) : ∀ line ∈ clockLines ntp update_tmr turns,
      update_tmr < line.turn.now := by
  induction turns generalizing update_tmr with
  | nil => exact fun _ h => absurd h List.not_mem_nil
  | cons turn turns ih =>
    intro line hline
    by_cases hnow : update_tmr < turn.now
    · rw [clockLines_printed turns hnow] at hline
      rcases List.mem_cons.mp hline with rfl | hline
      · exact hnow
      · have hnext := ih hticks.tail line hline
        obtain ⟨hle, hroom⟩ := hticks.within turn List.mem_cons_self
        have hsum : (turn.later + updateTimePeriod).toNat = turn.later.toNat + 500 := by
          rw [UInt32.toNat_add]
          exact Nat.mod_eq_of_lt hroom
        rw [UInt32.lt_iff_toNat_lt] at hnow hnext ⊢
        rw [UInt32.le_iff_toNat_le] at hle
        omega
    · rw [clockLines_skipped turns hnow] at hline
      exact ih hticks.tail line hline

/-- Two lines are the period apart. -/
theorem clockLines_apart {ntp : Ntp} {update_tmr : UInt32} {turns : List ClockTurn}
    (hticks : Ticks turns) : (clockLines ntp update_tmr turns).Pairwise fun a b =>
      a.turn.later.toNat + 500 < b.turn.now.toNat := by
  induction turns generalizing update_tmr with
  | nil => exact .nil
  | cons turn turns ih =>
    by_cases hnow : update_tmr < turn.now
    · rw [clockLines_printed turns hnow]
      refine .cons ?_ (ih hticks.tail)
      intro line hline
      obtain ⟨-, hroom⟩ := hticks.within turn List.mem_cons_self
      have hnext := UInt32.lt_iff_toNat_lt.mp (clockLines_after hticks.tail line hline)
      rw [UInt32.toNat_add] at hnext
      change (turn.later.toNat + 500) % 4294967296 < _ at hnext
      rwa [Nat.mod_eq_of_lt hroom] at hnext
    · rw [clockLines_skipped turns hnow]
      exact ih hticks.tail

/-- The zone in seconds, as `NTP_get_time` computes it. -/
def Ntp.offset (ntp : Ntp) : Int := (ntp.GMT.toInt * 3600).bmod 65536

/-- The reply to a turn gives an instant that the zone leaves in 32 bits. -/
structure ClockTurn.Answered (ntp : Ntp) (instant : Nat) (turn : ClockTurn) : Prop where
  field : secondsField turn.msg = (instant + 2208988800) % 4294967296
  pos : 0 ≤ (instant : Int) + ntp.offset
  lt : (instant : Int) + ntp.offset < 4294967296

/-- What is broken down is the instant in the zone. -/
theorem ClockTurn.Answered.timestamp {ntp : Ntp} {instant : Nat} {turn : ClockTurn}
    (h : turn.Answered ntp instant) :
    ((timestampNow ntp.GMT turn.msg).toNat : Int) = instant + ntp.offset := by
  obtain ⟨hfield, hpos, hlt⟩ := h
  rw [timestampNow_toInt, hfield]
  unfold Ntp.offset at *
  omega

/-- What a turn writes: zeros behind a call that failed, or the time of its reply. -/
theorem ntpGetTime_cases (ntp : Ntp) (turn : ClockTurn) {ret : Int16} {time : NtpTime}
    (h : (ret, time) = ntpGetTime ntp turn.sendto turn.recvfrom turn.msg ⟨0, 0, 0, 0, 0, 0⟩) :
    (ret < 0 ∧ time = ⟨0, 0, 0, 0, 0, 0⟩) ∨
      (ret = 1 ∧ ¬ turn.sendto < 0 ∧ ¬ turn.recvfrom < 0 ∧
        time = breakDown (timestampNow ntp.GMT turn.msg) ⟨0, 0, 0, 0, 0, 0⟩) := by
  rw [ntpGetTime] at h
  by_cases hs : turn.sendto < 0
  · rw [if_pos hs] at h
    obtain ⟨rfl, rfl⟩ := Prod.mk.inj h
    exact .inl ⟨hs, rfl⟩
  · rw [if_neg hs] at h
    by_cases hr : turn.recvfrom < 0
    · rw [if_pos hr] at h
      obtain ⟨rfl, rfl⟩ := Prod.mk.inj h
      exact .inl ⟨hr, rfl⟩
    · rw [if_neg hr] at h
      obtain ⟨rfl, rfl⟩ := Prod.mk.inj h
      exact .inr ⟨rfl, hs, hr, rfl⟩

theorem not_one_of_neg {ret : Int16} (h : ret < 0) : ret ≠ 1 := by
  rintro rfl
  revert h
  decide

theorem breakDown_le {a b : UInt32} (t : NtpTime) (h : a.toNat ≤ b.toNat) :
    breakDown a t = breakDown b t ∨ (breakDown a t).Before (breakDown b t) := by
  rcases Nat.lt_or_ge a.toNat b.toNat with hlt | hge
  · exact .inr (breakDown_lt t (UInt32.lt_iff_toNat_lt.mpr hlt))
  · rw [UInt32.toNat_inj.mp (Nat.le_antisymm h hge)]
    exact .inl rfl

/-- **The clock does not go back.** For calls of `loop` in which the clock of the board
goes on and the replies come from instants in their order: two lines are the period apart;
the times that were read come in order, compared from the year down; and every line is
either the instant of its reply in the zone, or zeros behind a call that failed. -/
theorem clock_of_run (ntp : Ntp) (instant : ClockTurn → Nat) {turns : List ClockTurn}
    (hticks : Ticks turns)
    (hanswers : ∀ turn ∈ turns, ¬ turn.sendto < 0 → ¬ turn.recvfrom < 0 →
      turn.Answered ntp (instant turn))
    (hforward : turns.Pairwise fun a b => instant a ≤ instant b) :
    ((clockLines ntp 0 turns).Pairwise fun a b =>
      a.turn.later.toNat + 500 < b.turn.now.toNat ∧
        (a.ret = 1 → b.ret = 1 → a.time = b.time ∨ a.time.Before b.time)) ∧
    ∀ line ∈ clockLines ntp 0 turns,
      (line.ret = 1 ∧ (line.time.seconds : Int) = instant line.turn + ntp.offset) ∨
        (line.ret < 0 ∧ line.time = ⟨0, 0, 0, 0, 0, 0⟩) := by
  have hmem : ∀ line ∈ clockLines ntp 0 turns, line.turn ∈ turns := fun line hline =>
    (clockLines_sublist ntp 0 turns).subset (List.mem_map_of_mem hline)
  have hread : ∀ line ∈ clockLines ntp 0 turns, line.ret = 1 →
      line.time = breakDown (timestampNow ntp.GMT line.turn.msg) ⟨0, 0, 0, 0, 0, 0⟩ ∧
        line.turn.Answered ntp (instant line.turn) := by
    intro line hline hone
    rcases ntpGetTime_cases ntp line.turn (clockLines_line hline) with
      ⟨hneg, -⟩ | ⟨-, hs, hr, htime⟩
    · exact absurd hone (not_one_of_neg hneg)
    · exact ⟨htime, hanswers line.turn (hmem line hline) hs hr⟩
  constructor
  · have hsent : ((clockLines ntp 0 turns).map ClockLine.turn).Pairwise
        fun a b => instant a ≤ instant b := hforward.sublist (clockLines_sublist ntp 0 turns)
    have horder := List.pairwise_map.mp hsent
    apply ((clockLines_apart hticks).and horder).imp_of_mem
    intro a b ha hb ⟨hapart, hle⟩
    refine ⟨hapart, ?_⟩
    intro hone₁ hone₂
    obtain ⟨htime₁, hanswered₁⟩ := hread a ha hone₁
    obtain ⟨htime₂, hanswered₂⟩ := hread b hb hone₂
    have h₁ := hanswered₁.timestamp
    have h₂ := hanswered₂.timestamp
    rw [htime₁, htime₂]
    exact breakDown_le _ (by omega)
  · intro line hline
    rcases ntpGetTime_cases ntp line.turn (clockLines_line hline) with hfailed | ⟨hone, -, -, htime⟩
    · exact .inr hfailed
    · obtain ⟨-, hanswered⟩ := hread line hline hone
      rw [htime, breakDown_seconds]
      exact .inl ⟨hone, hanswered.timestamp⟩

/-- A second over the end of 2024, in a zone eight hours ahead, and a call that fails. -/
def newYearTurns : List ClockTurn :=
  [⟨1000, 48, 48, replyMsg 3944649599, 1020⟩, ⟨1500, 48, 48, replyMsg 3944649599, 1500⟩,
    ⟨1600, -1, 48, replyMsg 3944649600, 1610⟩, ⟨2200, 48, 48, replyMsg 3944649600, 2210⟩]

theorem newYearTurns_ticks : Ticks newYearTurns := ⟨by decide, by decide⟩

theorem newYearTurns_answered : ∀ turn ∈ newYearTurns,
    turn.Answered ⟨0, .zero, 8⟩ (secondsField turn.msg - 2208988800) := by
  intro turn hturn
  have hall : ∀ turn ∈ newYearTurns, secondsField turn.msg =
      (secondsField turn.msg - 2208988800 + 2208988800) % 4294967296 ∧
        0 ≤ ((secondsField turn.msg - 2208988800 : Nat) : Int) + Ntp.offset ⟨0, .zero, 8⟩ ∧
        ((secondsField turn.msg - 2208988800 : Nat) : Int) + Ntp.offset ⟨0, .zero, 8⟩ <
          4294967296 := by decide +kernel
  obtain ⟨hfield, hpos, hlt⟩ := hall turn hturn
  exact ⟨hfield, hpos, hlt⟩

/-- The first line is written on the last day of 2024 and calls it day 0 of January 2025. -/
theorem clock_newYear :
    (clockLines ⟨0, .zero, 8⟩ 0 newYearTurns).map ClockLine.time =
      [⟨2025, 1, 0, 23, 59, 59⟩, ⟨0, 0, 0, 0, 0, 0⟩, ⟨2025, 1, 1, 0, 0, 0⟩] ∧
    ((clockLines ⟨0, .zero, 8⟩ 0 newYearTurns).Pairwise fun a b =>
      a.turn.later.toNat + 500 < b.turn.now.toNat ∧
        (a.ret = 1 → b.ret = 1 → a.time = b.time ∨ a.time.Before b.time)) ∧
    ∀ line ∈ clockLines ⟨0, .zero, 8⟩ 0 newYearTurns,
      (line.ret = 1 ∧ (line.time.seconds : Int) =
        (secondsField line.turn.msg - 2208988800 : Nat) + Ntp.offset ⟨0, .zero, 8⟩) ∨
        (line.ret < 0 ∧ line.time = ⟨0, 0, 0, 0, 0, 0⟩) :=
  ⟨by decide +kernel,
    clock_of_run ⟨0, .zero, 8⟩ (fun turn => secondsField turn.msg - 2208988800)
      newYearTurns_ticks (fun turn hturn _ _ => newYearTurns_answered turn hturn)
      (by decide +kernel)⟩

end SpiderL3S
