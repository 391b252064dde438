import SpiderL3S.Lib.Calendar
import SpiderL3S.App.Sockets

/- `NTP.c`. `ntpBegin` is `NTP_begin`, with what it does to descriptors;
   `ntpGetTime` is `NTP_get_time` once its wait for the ARP events is over, for
   the results of `sendto` and `recvfrom` and the message buffer behind them.
   The seconds field of a reply becomes `timestampNow`, and `breakDown` cuts a
   timestamp into a date and a time of the day.

   Two results say when the sketch is given the right time. The timestamp is the
   instant of the reply moved into the zone exactly if the zone is at most nine
   hours away (`timestampNow_exact_iff`): the offset is computed in 16 bits. And
   a timestamp is broken down into its civil date exactly if that is not the
   last day of a leap year (`breakDown_civil_iff`): the loop over the years goes
   on as long as 365 days are exceeded, and takes 366 away from day 366. -/
namespace SpiderL3S

open Calendar

/-! The module's state and `NTP_begin`. -/

/-- The statics of `NTP.c`. -/
structure Ntp where
  ntpSocket : Int32
  hostAddr : Sockaddr
  GMT : Int16
  deriving DecidableEq, Repr

def Ntp.start : Ntp := ⟨-1, .zero, 0⟩

abbrev ntpPort : UInt16 := 123

/-- The bytes of a 32-bit address as the library sends them. -/
def addressBytes (ulip : UInt32) : List UInt8 := (uint32Bytes ulip).reverse

/-- `NTP_begin`: its result, the statics behind it, and what it has done to
descriptors. -/
def ntpBegin (ntp : Ntp) (Loc_GMT : Int16) (ServerAddr : List UInt8) (a : Answers) :
    Int16 × Ntp × List SocketOp :=
  let ntp := { ntp with hostAddr := .zero, GMT := Loc_GMT }
  if a.gethostbynameRet (UInt16.ofNat ServerAddr.length) < 0 then (-1, ntp, [])
  else if a.socket < 0 then (-2, { ntp with ntpSocket := -1 }, [])
  else if a.setsockoptRet < 0 then
    (-3, { ntp with ntpSocket := -1 }, [.opened a.socket, .closed a.socket])
  else
    (0, { ntp with
          ntpSocket := a.socket
          hostAddr := .host ntpPort (addressBytes a.outputAddress) }, [.opened a.socket])

/-! The timestamp. -/

/-- `timestamp_now`: the transmit seconds of the reply since 1970, moved into the
zone. `(GMT) * 60 * 60` is computed as an `int`. -/
def timestampNow (GMT : Int16) (msg : Mem) : UInt32 :=
  let gmt_offset := (GMT * 60 * 60).toInt32
  let timestamp_now := ((msg 40).toUInt32 <<< 24) ||| ((msg 41).toUInt32 <<< 16) |||
    ((msg 42).toUInt32 <<< 8) ||| (msg 43).toUInt32
  timestamp_now - 2208988800 + gmt_offset.toUInt32

/-! Date and time of the day. -/

/-- What `NTP_get_time` stores through its pointers. -/
structure NtpTime where
  year : UInt16
  month : UInt8
  day : UInt16
  hour : UInt8
  minute : UInt8
  second : UInt8
  deriving DecidableEq, Repr

/-- The test both loops make of `*year`. -/
def leapYear (year : UInt16) : Bool := (year % 4 == 0 && year % 100 != 0) || year % 400 == 0

/-- `while(counter > 365)`: the days left and the year reached. -/
def countYears (counter : UInt32) (year : UInt16) : UInt32 × UInt16 :=
  if 365 < counter then
    if leapYear year then countYears (counter - 366) (year + 1)
    else countYears (counter - 365) (year + 1)
  else (counter, year)
termination_by counter.toNat
decreasing_by
  all_goals
    rename_i h _
    rw [UInt32.lt_iff_toNat_lt] at h
    simp only [UInt32.toNat_sub, UInt32.reduceToNat] at h ⊢
    have := counter.toNat_lt
    omega

def mDTableNormal : List UInt8 := [31, 28, 31, 30, 31, 30, 31, 31, 30, 31, 30, 31]
def mDTableLeap : List UInt8 := [31, 29, 31, 30, 31, 30, 31, 31, 30, 31, 30, 31]

/-- `for(ret = 0; ret < 12; ret++)`: `*month` and `*day`, from what they hold. The
day is stored where the loop breaks. -/
def countMonths (counter : UInt32) (month : UInt8) (day : UInt16) : List UInt8 → UInt8 × UInt16
  | [] => (month, day)
  | m_d :: rest =>
    if m_d.toUInt32 < counter then countMonths (counter - m_d.toUInt32) (month + 1) day rest
    else (month + 1, counter.toUInt16)

/-- What `NTP_get_time` makes of its timestamp. -/
def breakDown (timestamp_now : UInt32) (t : NtpTime) : NtpTime :=
  let (counter, year) := countYears (timestamp_now / 86400 + 1) 1970
  let m_d_ptr := if leapYear year then mDTableLeap else mDTableNormal
  let (month, day) := countMonths counter 0 t.day m_d_ptr
  { year
    month
    day
    hour := (timestamp_now / 3600 % 24).toUInt8
    minute := (timestamp_now / 60 % 60).toUInt8
    second := (timestamp_now % 60).toUInt8 }

/-- `NTP_get_time`, for what `sendto` and `recvfrom` return. -/
def ntpGetTime (ntp : Ntp) (sendto recvfrom : Int16) (msg : Mem) (t : NtpTime) :
    Int16 × NtpTime :=
  if sendto < 0 then (sendto, t)
  else if recvfrom < 0 then (recvfrom, t)
  else (1, breakDown (timestampNow ntp.GMT msg) t)

/-! The zone. -/

/-- The seconds field of a message, high end first. -/
def secondsField (msg : Mem) : Nat :=
  (msg 40).toNat * 16777216 + (msg 41).toNat * 65536 + (msg 42).toNat * 256 + (msg 43).toNat

/-- Whatever becomes of its calls, `NTP_begin` has taken the zone first. -/
theorem ntpBegin_GMT (ntp : Ntp) (Loc_GMT : Int16) (ServerAddr : List UInt8) (a : Answers) :
    (ntpBegin ntp Loc_GMT ServerAddr a).2.1.GMT = Loc_GMT := by
  unfold ntpBegin
  split
  · rfl
  · split
    · rfl
    · split <;> rfl

/-- The four shifted bytes do not overlap. -/
theorem assembled_toNat (msg : Mem) :
    (((msg 40).toUInt32 <<< 24) ||| ((msg 41).toUInt32 <<< 16) ||| ((msg 42).toUInt32 <<< 8) |||
      (msg 43).toUInt32).toNat = secondsField msg := by
  have h0 := (msg 40).toNat_lt
  have h1 := (msg 41).toNat_lt
  have h2 := (msg 42).toNat_lt
  have h3 := (msg 43).toNat_lt
  unfold secondsField
  generalize msg 40 = b0, msg 41 = b1, msg 42 = b2, msg 43 = b3 at *
  have step : ∀ (hi : Nat) {b : Nat}, b < 2 ^ 8 → hi <<< 8 ||| b = hi * 256 + b := by
    intro hi b hb
    rw [← Nat.shiftLeft_add_eq_or_of_lt hb, Nat.shiftLeft_eq]
  calc _ = (b0.toNat <<< 24 ||| b1.toNat <<< 16 ||| b2.toNat <<< 8 ||| b3.toNat) := by
        simp only [UInt32.toNat_or, UInt32.toNat_shiftLeft, UInt8.toNat_toUInt32,
          UInt32.reduceToNat, Nat.reduceMod, Nat.shiftLeft_eq, Nat.reducePow]
        congr 1
        congr 1
        congr 1
        all_goals omega
    _ = ((b0.toNat <<< 8 ||| b1.toNat) <<< 8 ||| b2.toNat) <<< 8 ||| b3.toNat := by
        simp only [Nat.shiftLeft_or_distrib, ← Nat.shiftLeft_add]
    _ = _ := by
        rw [step _ h1, step _ h2, step _ h3]
        omega

/-- The offset, as the 16-bit product leaves it. -/
theorem offset_toInt (GMT : Int16) :
    (GMT * 60 * 60).toInt32.toInt = (GMT.toInt * 3600).bmod 65536 := by
  rw [Int16.toInt_toInt32, Int16.mul_assoc, Int16.toInt_mul]
  rfl

/-- The zone in seconds fits in an `int`. -/
theorem offset_exact_iff (zone : Int) :
    (zone * 3600).bmod 65536 = 3600 * zone ↔ -9 ≤ zone ∧ zone ≤ 9 := by
  have hlo : -32768 ≤ (zone * 3600).bmod 65536 := Int.le_bmod (by decide)
  have hhi : (zone * 3600).bmod 65536 < 32768 := Int.bmod_lt (by decide)
  constructor
  · intro hexact
    omega
  · intro hzone
    rw [Int.bmod_eq_of_le (by omega) (by omega)]
    exact Int.mul_comm zone 3600

/-- The timestamp, as the sum of the seconds field and the offset around the
32-bit circle. -/
theorem timestampNow_toInt (GMT : Int16) (msg : Mem) :
    ((timestampNow GMT msg).toNat : Int) =
      (secondsField msg - 2208988800 + (GMT.toInt * 3600).bmod 65536) % 4294967296 := by
  have hbits := int32_toInt (GMT * 60 * 60).toInt32
  rw [offset_toInt] at hbits
  rw [timestampNow, UInt32.toNat_add, UInt32.toNat_sub, assembled_toNat]
  simp only [UInt32.reduceToNat, Nat.reducePow]
  split at hbits <;> omega

/-- **The zone is right within nine hours.** For an instant whose zone time fits
in 32 bits, `NTP_get_time` breaks down the zone time of the reply exactly if the
zone that `NTP_begin` was given is at most nine hours away from UTC. -/
theorem timestampNow_exact_iff (ntp : Ntp) (Loc_GMT : Int16) (ServerAddr : List UInt8)
    (a : Answers) {u : Nat} (msg : Mem) (hu : u < 4294967296)
    (hfield : secondsField msg = (u + 2208988800) % 4294967296)
    (hlo₀ : 0 ≤ (u : Int) + 3600 * Loc_GMT.toInt)
    (hhi₀ : (u : Int) + 3600 * Loc_GMT.toInt < 4294967296) :
    ((timestampNow (ntpBegin ntp Loc_GMT ServerAddr a).2.1.GMT msg).toNat : Int) =
        u + 3600 * Loc_GMT.toInt ↔
      -9 ≤ Loc_GMT.toInt ∧ Loc_GMT.toInt ≤ 9 := by
  rw [ntpBegin_GMT, timestampNow_toInt, ← offset_exact_iff]
  have hlo : -32768 ≤ (Loc_GMT.toInt * 3600).bmod 65536 := Int.le_bmod (by decide)
  have hhi : (Loc_GMT.toInt * 3600).bmod 65536 < 32768 := Int.bmod_lt (by decide)
  have hzone₁ := Loc_GMT.le_toInt
  have hzone₂ := Loc_GMT.toInt_lt
  -- the era of the field drops out: what is broken down is `u` and the offset
  have hera : (secondsField msg - 2208988800 + (Loc_GMT.toInt * 3600).bmod 65536) % 4294967296 =
      (u + (Loc_GMT.toInt * 3600).bmod 65536) % 4294967296 := by
    rw [hfield]
    omega
  rw [hera]
  generalize (Loc_GMT.toInt * 3600).bmod 65536 = offset at *
  constructor
  · intro hexact
    omega
  · intro hexact
    rw [hexact]
    exact Int.emod_eq_of_lt hlo₀ hhi₀

/-- A reply whose seconds field is `seconds`. -/
def replyMsg (seconds : UInt32) : Mem :=
  Mem.ofList (List.replicate 40 0 ++ (uint32Bytes seconds).reverse)

/-- 14 November 2023, 22:13:20 UTC, in a zone eight hours ahead. -/
theorem timestampNow_exact_eight :
    ((timestampNow (ntpBegin Ntp.start 8 [] (.success 0)).2.1.GMT
        (replyMsg 3908988800)).toNat : Int) = (1700000000 : Nat) + 3600 * (8 : Int16).toInt ↔
      -9 ≤ (8 : Int16).toInt ∧ (8 : Int16).toInt ≤ 9 :=
  timestampNow_exact_iff Ntp.start 8 [] (.success 0) (replyMsg 3908988800) (by decide)
    (by decide) (by decide) (by decide)

/-- **Ten hours ahead the clock is wrong.** The same instant comes out eighteen
hours and twelve minutes early. -/
theorem not_timestampNow_exact :
    secondsField (replyMsg 3908988800) = (1700000000 + 2208988800) % 4294967296 ∧
      ((timestampNow (ntpBegin Ntp.start 10 [] (.success 0)).2.1.GMT
        (replyMsg 3908988800)).toNat : Int) ≠ 1700000000 + 3600 * (10 : Int16).toInt := by
  decide

/-! The calendar. -/

theorem leapYear_iff (year : UInt16) : leapYear year = true ↔ Leap year.toNat := by
  simp only [leapYear, Leap, Bool.or_eq_true, Bool.and_eq_true, beq_iff_eq, bne_iff_ne, ne_eq,
    ← UInt16.toNat_inj, UInt16.toNat_mod, UInt16.reduceToNat]

/-- What the loop over the years keeps: the days before the year and the days
left add up to the same. It ends below 366 days, and without a day left only
behind a leap year. -/
structure YearsLeft (counter : UInt32) (year : UInt16) (r : UInt32 × UInt16) : Prop where
  days : daysBefore r.2.toNat + r.1.toNat = daysBefore year.toNat + counter.toNat
  le : r.1.toNat ≤ 365
  spent : r.1 = 0 → counter ≠ 0 →
    ∃ y, r.2.toNat = y + 1 ∧ 1 ≤ y ∧ Leap y

theorem countYears_of_le {counter : UInt32} (year : UInt16) (h : ¬ 365 < counter) :
    countYears counter year = (counter, year) := by
  rw [countYears, if_neg h]

theorem countYears_spec (counter : UInt32) (year : UInt16) (hyear : 1 ≤ year.toNat)
    (hroom : year.toNat + counter.toNat / 365 < 65536) :
    YearsLeft counter year (countYears counter year) := by
  fun_induction countYears counter year with
  | case1 counter year hmore hleap ih =>
    have hmany : 365 < counter.toNat := UInt32.lt_iff_toNat_lt.mp hmore
    have hcounter : (counter - 366).toNat = counter.toNat - 366 := by
      rw [UInt32.toNat_sub_of_le _ _ (by exact UInt32.le_iff_toNat_le.mpr hmany)]
      rfl
    have hnext : (year + 1).toNat = year.toNat + 1 := by
      simp only [UInt16.toNat_add, UInt16.reduceToNat]
      omega
    have hlength : yearLength year.toNat = 366 := if_pos ((leapYear_iff year).mp hleap)
    have hleft := ih (by omega) (by omega)
    refine ⟨?_, hleft.le, ?_⟩
    · rw [hleft.days, hnext, daysBefore_succ hyear, hlength, hcounter]
      omega
    · intro hzero _
      -- the last year taken away is this one, or a later one
      by_cases hlast : counter - 366 = 0
      · rw [hlast, countYears_of_le _ (by decide)]
        exact ⟨year.toNat, hnext, hyear, (leapYear_iff year).mp hleap⟩
      · exact hleft.spent hzero hlast
  | case2 counter year hmore hleap ih =>
    have hmany : 365 < counter.toNat := UInt32.lt_iff_toNat_lt.mp hmore
    have hcounter : (counter - 365).toNat = counter.toNat - 365 := by
      rw [UInt32.toNat_sub_of_le _ _ (by exact UInt32.le_iff_toNat_le.mpr (Nat.le_of_lt hmany))]
      rfl
    have hnext : (year + 1).toNat = year.toNat + 1 := by
      simp only [UInt16.toNat_add, UInt16.reduceToNat]
      omega
    have hlength : yearLength year.toNat = 365 := if_neg (mt (leapYear_iff year).mpr hleap)
    have hleft := ih (by omega) (by omega)
    refine ⟨?_, hleft.le, ?_⟩
    · rw [hleft.days, hnext, daysBefore_succ hyear, hlength, hcounter]
      omega
    · intro hzero _
      apply hleft.spent hzero
      intro hlast
      rw [hlast] at hcounter
      simp only [UInt32.reduceToNat] at hcounter
      omega
  | case3 counter year hmore =>
    have hfew : ¬ 365 < counter.toNat := fun h => hmore (UInt32.lt_iff_toNat_lt.mpr h)
    refine ⟨rfl, Nat.le_of_not_lt hfew, ?_⟩
    intro hzero hne
    exact absurd hzero hne

/-- Where the loop over the months ends: in a month of the table. -/
theorem countMonths_spec (counter : UInt32) (month : UInt8) (day : UInt16) (table : List UInt8)
    (hpos : 1 ≤ counter.toNat) (hsum : counter.toNat ≤ (table.map UInt8.toNat).sum)
    (hroom : month.toNat + table.length < 256) :
    ∃ i, (countMonths counter month day table).1.toNat = month.toNat + i + 1 ∧
      Inside (table.map UInt8.toNat) i (countMonths counter month day table).2.toNat ∧
      place (table.map UInt8.toNat) i (countMonths counter month day table).2.toNat =
        counter.toNat := by
  induction table generalizing counter month with
  | nil =>
    simp only [List.map_nil, List.sum_nil] at hsum
    omega
  | cons m_d rest ih =>
    rw [List.map_cons, List.sum_cons] at hsum
    rw [List.length_cons] at hroom
    have hmonth : (month + 1).toNat = month.toNat + 1 := by
      simp only [UInt8.toNat_add, UInt8.reduceToNat]
      omega
    rw [countMonths]
    by_cases hmore : m_d.toUInt32 < counter
    · rw [if_pos hmore]
      rw [UInt32.lt_iff_toNat_lt, UInt8.toNat_toUInt32] at hmore
      have hcounter : (counter - m_d.toUInt32).toNat = counter.toNat - m_d.toNat := by
        rw [UInt32.toNat_sub_of_le _ _ (by
          rw [UInt32.le_iff_toNat_le, UInt8.toNat_toUInt32]
          exact Nat.le_of_lt hmore), UInt8.toNat_toUInt32]
      obtain ⟨i, hi, hinside, hplace⟩ := ih (counter - m_d.toUInt32) (month + 1)
        (by omega) (by omega) (by omega)
      refine ⟨i + 1, by omega, ?_, ?_⟩
      · obtain ⟨hday, hlt, hle⟩ := hinside
        exact ⟨hday, Nat.succ_lt_succ hlt, hle⟩
      · rw [hcounter] at hplace
        simp only [place, List.map_cons, List.take_succ_cons, List.sum_cons] at hplace ⊢
        omega
    · rw [if_neg hmore]
      rw [UInt32.lt_iff_toNat_lt, UInt8.toNat_toUInt32] at hmore
      have hday : counter.toUInt16.toNat = counter.toNat := by
        have hbyte := m_d.toNat_lt
        rw [UInt32.toNat_toUInt16, Nat.mod_eq_of_lt (by omega)]
      refine ⟨0, hmonth, ⟨?_, Nat.zero_lt_succ _, ?_⟩, ?_⟩
      · show 1 ≤ counter.toUInt16.toNat
        omega
      · show counter.toUInt16.toNat ≤ m_d.toNat
        omega
      · show 0 + counter.toUInt16.toNat = counter.toNat
        omega

/-- The table that is chosen is the calendar's. -/
theorem mDTable_eq (year : UInt16) :
    (if leapYear year then mDTableLeap else mDTableNormal).map UInt8.toNat =
      monthLengths year.toNat := by
  by_cases hleap : leapYear year = true
  · rw [if_pos hleap, monthLengths, if_pos ((leapYear_iff year).mp hleap)]
    rfl
  · rw [if_neg hleap, monthLengths, if_neg (mt (leapYear_iff year).mpr hleap)]
    rfl

/-- 1 January 1970. -/
def epoch : Date where
  year := 1970
  month := 1
  day := 1
  year_pos := by decide
  month_pos := by decide
  valid := ⟨by decide, show 0 < 12 by decide, show 1 ≤ 31 by decide⟩

theorem epoch_ordinal : epoch.ordinal = daysBefore 1970 + 1 := rfl

/-- What is stored is the date of the timestamp and its time of the day, and
turns back into the timestamp. -/
structure NtpTime.Civil (t : NtpTime) (timestamp : Nat) (date : Date) : Prop where
  year : t.year.toNat = date.year
  month : t.month.toNat = date.month
  day : t.day.toNat = date.day
  number : date.ordinal = epoch.ordinal + timestamp / 86400
  hour : t.hour.toNat < 24
  minute : t.minute.toNat < 60
  second : t.second.toNat < 60
  back : 86400 * (date.ordinal - epoch.ordinal) + 3600 * t.hour.toNat + 60 * t.minute.toNat +
    t.second.toNat = timestamp

/-- Day `n` from the epoch on is 31 December of a leap year. -/
def LeapYearEnd (n : Nat) : Prop :=
  ∃ year, ∃ h : 1 ≤ year, Leap year ∧ (Date.yearEnd year h).ordinal = epoch.ordinal + n

/-- The days that are counted: those from the epoch on, and one. -/
theorem yearsLeft_timestamp (timestamp_now : UInt32) :
    YearsLeft (timestamp_now / 86400 + 1) 1970 (countYears (timestamp_now / 86400 + 1) 1970) ∧
      (timestamp_now / 86400 + 1).toNat = timestamp_now.toNat / 86400 + 1 := by
  have hlt := timestamp_now.toNat_lt
  have hcounter : (timestamp_now / 86400 + 1).toNat = timestamp_now.toNat / 86400 + 1 := by
    simp only [UInt32.toNat_add, UInt32.toNat_div, UInt32.reduceToNat]
    omega
  refine ⟨countYears_spec _ 1970 (by decide) ?_, hcounter⟩
  rw [hcounter]
  show 1970 + (timestamp_now.toNat / 86400 + 1) / 365 < 65536
  omega

/-- The time of the day is right whatever the date. -/
theorem timeOfDay (timestamp_now : UInt32) (t : NtpTime) :
    (breakDown timestamp_now t).hour.toNat = timestamp_now.toNat / 3600 % 24 ∧
      (breakDown timestamp_now t).minute.toNat = timestamp_now.toNat / 60 % 60 ∧
      (breakDown timestamp_now t).second.toNat = timestamp_now.toNat % 60 := by
  refine ⟨?_, ?_, ?_⟩
  · show (timestamp_now / 3600 % 24).toUInt8.toNat = _
    simp only [UInt32.toNat_toUInt8, UInt32.toNat_mod, UInt32.toNat_div, UInt32.reduceToNat]
    omega
  · show (timestamp_now / 60 % 60).toUInt8.toNat = _
    simp only [UInt32.toNat_toUInt8, UInt32.toNat_mod, UInt32.toNat_div, UInt32.reduceToNat]
    omega
  · show (timestamp_now % 60).toUInt8.toNat = _
    simp only [UInt32.toNat_toUInt8, UInt32.toNat_mod, UInt32.reduceToNat]
    omega

/-- With a day left, the year and the months make a date out of it. -/
theorem breakDown_date (timestamp_now : UInt32) (t : NtpTime)
    (hsome : 1 ≤ (countYears (timestamp_now / 86400 + 1) 1970).1.toNat) :
    ∃ date : Date, (breakDown timestamp_now t).year.toNat = date.year ∧
      (breakDown timestamp_now t).month.toNat = date.month ∧
      (breakDown timestamp_now t).day.toNat = date.day ∧
      date.ordinal = epoch.ordinal + timestamp_now.toNat / 86400 := by
  obtain ⟨hleft, hcounter⟩ := yearsLeft_timestamp timestamp_now
  have hdays := hleft.days
  rw [hcounter] at hdays
  have hyear : (breakDown timestamp_now t).year =
      (countYears (timestamp_now / 86400 + 1) 1970).2 := rfl
  have hmonths : ((breakDown timestamp_now t).month, (breakDown timestamp_now t).day) =
      countMonths (countYears (timestamp_now / 86400 + 1) 1970).1 0 t.day
        (if leapYear (countYears (timestamp_now / 86400 + 1) 1970).2 then mDTableLeap
        else mDTableNormal) := rfl
  generalize countYears (timestamp_now / 86400 + 1) 1970 = years at *
  change daysBefore years.2.toNat + years.1.toNat = 719162 + _ at hdays
  have hpos : 1 ≤ years.2.toNat := by
    by_contra hzero
    rw [Nat.lt_one_iff.mp (Nat.lt_of_not_le hzero)] at hdays
    have hle := hleft.le
    change 0 + _ = _ at hdays
    omega
  have hsum : years.1.toNat ≤
      ((if leapYear years.2 then mDTableLeap else mDTableNormal).map UInt8.toNat).sum :=
    calc years.1.toNat ≤ 365 := hleft.le
      _ ≤ yearLength years.2.toNat := yearLength_ge _
      _ = _ := by rw [mDTable_eq, monthLengths_sum]
  obtain ⟨i, hmonth, hinside, hplace⟩ := countMonths_spec years.1 0 t.day
    (if leapYear years.2 then mDTableLeap else mDTableNormal) hsome hsum (by split <;> decide)
  rw [mDTable_eq, ← hmonths] at hinside hplace
  rw [← hmonths] at hmonth
  have hm : (breakDown timestamp_now t).month.toNat = i + 1 :=
    hmonth.trans (congrArg (· + 1) (Nat.zero_add i))
  have hat : Inside (monthLengths years.2.toNat) ((breakDown timestamp_now t).month.toNat - 1)
      (breakDown timestamp_now t).day.toNat := by
    rw [hm]
    exact hinside
  refine ⟨⟨years.2.toNat, _, _, hpos, by omega, hat⟩, congrArg UInt16.toNat hyear, rfl, rfl, ?_⟩
  show daysBefore years.2.toNat + place (monthLengths years.2.toNat)
    ((breakDown timestamp_now t).month.toNat - 1) (breakDown timestamp_now t).day.toNat = 719163 + _
  rw [hm, Nat.add_sub_cancel, hplace]
  omega

/-- **The last day of a leap year has no date.** A timestamp is broken down into
its date and its time of the day exactly if it is not on a 31 December of a leap
year. -/
theorem breakDown_civil_iff (timestamp_now : UInt32) (t : NtpTime) :
    (∃ date, (breakDown timestamp_now t).Civil timestamp_now.toNat date) ↔
      ¬ LeapYearEnd (timestamp_now.toNat / 86400) := by
  obtain ⟨hleft, hcounter⟩ := yearsLeft_timestamp timestamp_now
  have hdays := hleft.days
  rw [hcounter] at hdays
  change _ = daysBefore 1970 + _ at hdays
  constructor
  · intro hcivil hend
    obtain ⟨date, hdate⟩ := hcivil
    obtain ⟨year, hpos, hleap, hnumber⟩ := hend
    -- the date would be day 366 of its year, and the loop never leaves as much
    obtain rfl : date = Date.yearEnd year hpos :=
      Date.ordinal_inj (hdate.number.trans hnumber.symm)
    have hlength : yearLength year = 366 := if_pos hleap
    have hreached : (countYears (timestamp_now / 86400 + 1) 1970).2.toNat = year := hdate.year
    rw [Date.ordinal_yearEnd, daysBefore_succ hpos, hlength, epoch_ordinal] at hnumber
    rw [hreached] at hdays
    have hle := hleft.le
    omega
  · intro hend
    have hsome : 1 ≤ (countYears (timestamp_now / 86400 + 1) 1970).1.toNat := by
      rw [Nat.one_le_iff_ne_zero]
      intro hnone
      have hcount : timestamp_now / 86400 + 1 ≠ 0 := by
        intro hzero
        rw [hzero] at hcounter
        cases hcounter
      obtain ⟨year, hnext, hpos, hleap⟩ := hleft.spent (UInt32.toNat_inj.mp hnone) hcount
      apply hend
      refine ⟨year, hpos, hleap, ?_⟩
      rw [hnext, hnone] at hdays
      rw [Date.ordinal_yearEnd, epoch_ordinal]
      omega
    obtain ⟨date, hyear, hmonth, hday, hnumber⟩ := breakDown_date timestamp_now t hsome
    obtain ⟨hhour, hminute, hsecond⟩ := timeOfDay timestamp_now t
    refine ⟨date, hyear, hmonth, hday, hnumber, ?_, ?_, ?_, ?_⟩
    · omega
    · omega
    · omega
    · rw [hnumber, Nat.add_sub_cancel_left, hhour, hminute, hsecond]
      omega

/-- The last second of 1972. -/
theorem not_breakDown_civil :
    ¬ ∃ date, (breakDown 94694399 ⟨0, 0, 0, 0, 0, 0⟩).Civil (94694399 : UInt32).toNat date := by
  intro hcivil
  obtain ⟨date, hdate⟩ := hcivil
  have hyears : countYears (94694399 / 86400 + 1) 1970 = (0, 1973) := by
    have hcounter : (94694399 / 86400 + 1 : UInt32) = 1096 := by decide
    rw [hcounter, countYears, if_pos (by decide), if_neg (by decide), countYears,
      if_pos (by decide), if_neg (by decide), countYears, if_pos (by decide),
      if_pos (by decide), countYears, if_neg (by decide)]
    rfl
  have hday : (breakDown 94694399 ⟨0, 0, 0, 0, 0, 0⟩).day = 0 := by
    rw [breakDown, hyears]
    rfl
  have hpos := date.valid.1
  rw [← hdate.day, hday] at hpos
  cases hpos

end SpiderL3S
