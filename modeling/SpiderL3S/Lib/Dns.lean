import Mathlib.Data.List.Basic

/- Domain name messages as they stand on the wire. A name is a row of labels, each
   behind its length, that ends with a zero or with a pointer to an earlier place of the
   message, where it goes on. A record is its owner's name, its class and lifetime, and
   data whose length is written in front of it; reading one fails unless the data end
   where the length says. `parse` reads a whole message of answers, with nothing left
   over.

   The rules of the second part say what reading gives on bytes that are put together
   from parts. A name's reading is counted in steps (`readName`), so that a circle of
   pointers gives nothing, and more steps do no harm (`readName_mono`). -/
namespace Dns

abbrev Name := List (List UInt8)

inductive Data where
  | a (address : List UInt8)
  | ptr (name : Name)
  | txt (strings : List (List UInt8))
  | srv (priority weight port : Nat) (target : Name)
  deriving DecidableEq, Repr

structure Record where
  owner : Name
  cls : Nat
  ttl : Nat
  data : Data
  deriving DecidableEq, Repr

structure Message where
  id : Nat
  flags : Nat
  answers : List Record
  deriving DecidableEq, Repr

/-! Reading. Each function takes the bytes that are left and gives what it has read with
what is left then; `msg` is the whole message, for the pointers. -/

/-- Sixteen bits, high byte first. -/
def word : List UInt8 → Option (Nat × List UInt8)
  | hi :: lo :: rest => some (256 * hi.toNat + lo.toNat, rest)
  | _ => none

/-- A pointer with the first byte `b` leads to a place in front of it. -/
def namePointer (msg : List UInt8) (next : List UInt8 → Option (Name × List UInt8)) (b : UInt8) :
    List UInt8 → Option (Name × List UInt8)
  | [] => none
  | lo :: rest =>
    if 192 ≤ b ∧ 256 * (b.toNat - 192) + lo.toNat + rest.length + 2 < msg.length then
      (next (msg.drop (256 * (b.toNat - 192) + lo.toNat))).map fun r => (r.1, rest)
    else none

/-- The end of a name, a label, or a pointer; `next` reads what follows. -/
def nameStep (msg : List UInt8) (next : List UInt8 → Option (Name × List UInt8)) :
    List UInt8 → Option (Name × List UInt8)
  | [] => none
  | b :: rest =>
    if b = 0 then some ([], rest)
    else if b < 64 then
      if rest.length < b.toNat then none
      else (next (rest.drop b.toNat)).map fun r => (rest.take b.toNat :: r.1, r.2)
    else namePointer msg next b rest

/-- A name, in `n` steps at most. -/
def readName (msg : List UInt8) : Nat → List UInt8 → Option (Name × List UInt8)
  | 0, _ => none
  | n + 1, bs => nameStep msg (readName msg n) bs

/-- The strings of a text, each behind its length; they fill the bytes. -/
def readStrings : Nat → List UInt8 → Option (List (List UInt8))
  | _, [] => some []
  | 0, _ => none
  | n + 1, b :: rest =>
    if rest.length < b.toNat then none
    else (readStrings n (rest.drop b.toNat)).map (rest.take b.toNat :: ·)

/-- The data of a record of a type. -/
def readData (msg : List UInt8) (type length : Nat) (bs : List UInt8) :
    Option (Data × List UInt8) :=
  match type with
  | 1 => some (.a (bs.take 4), bs.drop 4)
  | 12 => (readName msg msg.length bs).map fun r => (.ptr r.1, r.2)
  | 16 => (readStrings length (bs.take length)).map fun s => (.txt s, bs.drop length)
  | 33 => do
    let (priority, bs) ← word bs
    let (weight, bs) ← word bs
    let (port, bs) ← word bs
    let (target, bs) ← readName msg msg.length bs
    return (.srv priority weight port target, bs)
  | _ => none

/-- A record, whose data are as long as it says. -/
def readRecord (msg bs : List UInt8) : Option (Record × List UInt8) := do
  let (owner, bs) ← readName msg msg.length bs
  let (type, bs) ← word bs
  let (cls, bs) ← word bs
  let (ttlHigh, bs) ← word bs
  let (ttlLow, bs) ← word bs
  let (length, bs) ← word bs
  let (data, rest) ← readData msg type length bs
  if bs.length = rest.length + length then
    some (⟨owner, cls, 65536 * ttlHigh + ttlLow, data⟩, rest)
  else none

def readRecords (msg : List UInt8) : Nat → List UInt8 → Option (List Record × List UInt8)
  | 0, bs => some ([], bs)
  | n + 1, bs => do
    let (r, bs) ← readRecord msg bs
    let (rs, bs) ← readRecords msg n bs
    return (r :: rs, bs)

/-- A message of answers alone. -/
def parse (msg : List UInt8) : Option Message := do
  let (id, bs) ← word msg
  let (flags, bs) ← word bs
  let (questions, bs) ← word bs
  let (answers, bs) ← word bs
  let (authority, bs) ← word bs
  let (additional, bs) ← word bs
  let (records, rest) ← readRecords msg answers bs
  if questions = 0 ∧ authority = 0 ∧ additional = 0 ∧ rest = [] then
    some ⟨id, flags, records⟩
  else none

/-! The rules for names. -/

section Names
variable {msg : List UInt8} {n : Nat} {name : Name} {bs rest : List UInt8}

theorem readName_root (msg rest : List UInt8) : readName msg 1 (0 :: rest) = some ([], rest) := rfl

theorem readName_label (label : List UInt8) (hne : label ≠ []) (hlen : label.length < 64)
    (h : readName msg n bs = some (name, rest)) :
    readName msg (n + 1) (label.length.toUInt8 :: (label ++ bs)) = some (label :: name, rest) := by
  have hpos := List.length_pos_iff.mpr hne
  have hbyte : label.length.toUInt8.toNat = label.length := by
    rw [UInt8.toNat_ofNat']
    omega
  have hzero : label.length.toUInt8 ≠ 0 := fun h0 => by
    rw [h0] at hbyte
    exact absurd hbyte.symm (Nat.ne_of_gt hpos)
  have hsmall : label.length.toUInt8 < 64 := by
    rw [UInt8.lt_iff_toNat_lt, hbyte]
    exact hlen
  rw [readName, nameStep, if_neg hzero, if_pos hsmall, hbyte, if_neg (by simp), List.drop_left, h,
    List.take_left, Option.map_some]

/-- A pointer goes on at its target, and the name ends behind it. -/
theorem readName_pointer {b lo : UInt8} {tail : List UInt8} {target : Nat} (hb : 192 ≤ b.toNat)
    (htarget : 256 * (b.toNat - 192) + lo.toNat = target)
    (hback : target + rest.length + 2 < msg.length)
    (h : readName msg n (msg.drop target) = some (name, tail)) :
    readName msg (n + 1) (b :: lo :: rest) = some (name, rest) := by
  have hzero : b ≠ 0 := by
    rintro rfl
    exact absurd hb (by decide)
  have hsmall : ¬ b < 64 := by
    rw [UInt8.lt_iff_toNat_lt]
    show ¬ b.toNat < 64
    omega
  have hbig : 192 ≤ b := UInt8.le_iff_toNat_le.mpr hb
  subst htarget
  rw [readName, nameStep, if_neg hzero, if_neg hsmall, namePointer, if_pos ⟨hbig, hback⟩, h,
    Option.map_some]

theorem nameStep_mono {next next' : List UInt8 → Option (Name × List UInt8)}
    (hnext : ∀ bs r, next bs = some r → next' bs = some r) {r : Name × List UInt8}
    (h : nameStep msg next bs = some r) : nameStep msg next' bs = some r := by
  have hmap : ∀ {f : Name × List UInt8 → Name × List UInt8} {bs : List UInt8},
      (next bs).map f = some r → (next' bs).map f = some r := by
    intro f bs hf
    obtain ⟨r', hr', rfl⟩ := Option.map_eq_some_iff.mp hf
    rw [hnext _ _ hr', Option.map_some]
  cases bs with
  | nil => exact h
  | cons b rest =>
    rw [nameStep] at h ⊢
    by_cases hzero : b = 0
    · rwa [if_pos hzero] at h ⊢
    by_cases hsmall : b < 64
    · rw [if_neg hzero, if_pos hsmall] at h ⊢
      by_cases hshort : rest.length < b.toNat
      · rwa [if_pos hshort] at h ⊢
      · rw [if_neg hshort] at h ⊢
        exact hmap h
    · rw [if_neg hzero, if_neg hsmall] at h ⊢
      cases rest with
      | nil => exact h
      | cons lo rest =>
        rw [namePointer] at h ⊢
        by_cases hback : 192 ≤ b ∧
            256 * (b.toNat - 192) + lo.toNat + rest.length + 2 < msg.length
        · rw [if_pos hback] at h ⊢
          exact hmap h
        · rwa [if_neg hback] at h ⊢

/-- More steps do no harm. -/
theorem readName_mono {m : Nat} (hle : n ≤ m) {r : Name × List UInt8}
    (h : readName msg n bs = some r) : readName msg m bs = some r := by
  induction n generalizing m bs r with
  | zero => cases h
  | succ n ih =>
    cases m with
    | zero => cases hle
    | succ m => exact nameStep_mono (fun _ _ => ih (Nat.le_of_succ_le_succ hle)) h

/-- A name that is read in few steps is read in as many as the message has bytes. -/
theorem readName_length (hle : n ≤ msg.length) {r : Name × List UInt8}
    (h : readName msg n bs = some r) : readName msg msg.length bs = some r := readName_mono hle h

end Names

/-! The rules for records. -/

section Records
variable {msg : List UInt8} {n : Nat} {name : Name} {bs rest : List UInt8}

/-- A record from its parts. -/
theorem readRecord_eq {type cls ttlHigh ttlLow length : Nat} {data : Data}
    {t₁ t₀ c₁ c₀ l₃ l₂ l₁ l₀ d₁ d₀ : UInt8} {body : List UInt8}
    (howner : readName msg msg.length bs =
      some (name, t₁ :: t₀ :: c₁ :: c₀ :: l₃ :: l₂ :: l₁ :: l₀ :: d₁ :: d₀ :: body))
    (htype : 256 * t₁.toNat + t₀.toNat = type) (hcls : 256 * c₁.toNat + c₀.toNat = cls)
    (hhigh : 256 * l₃.toNat + l₂.toNat = ttlHigh) (hlow : 256 * l₁.toNat + l₀.toNat = ttlLow)
    (hlength : 256 * d₁.toNat + d₀.toNat = length)
    (hdata : readData msg type length body = some (data, rest))
    (hend : body.length = rest.length + length) :
    readRecord msg bs = some (⟨name, cls, 65536 * ttlHigh + ttlLow, data⟩, rest) := by
  subst htype hcls hhigh hlow hlength
  simp only [readRecord, howner, word, Option.bind_eq_bind, Option.bind_some, hdata, if_pos hend]

theorem readRecords_cons {r : Record} {rs : List Record} {bs' : List UInt8}
    (hr : readRecord msg bs = some (r, bs')) (hrs : readRecords msg n bs' = some (rs, rest)) :
    readRecords msg (n + 1) bs = some (r :: rs, rest) := by
  simp only [readRecords, hr, hrs, Option.bind_eq_bind, Option.bind_some, Option.pure_def]

theorem readRecords_zero : readRecords msg 0 bs = some ([], bs) := rfl

/-- A message from its header and its records. -/
theorem parse_eq {i₁ i₀ f₁ f₀ a₁ a₀ : UInt8} {id flags : Nat} {records : List Record}
    (hmsg : msg = [i₁, i₀, f₁, f₀, 0, 0, a₁, a₀, 0, 0, 0, 0] ++ bs)
    (hid : 256 * i₁.toNat + i₀.toNat = id) (hflags : 256 * f₁.toNat + f₀.toNat = flags)
    (hrecords : readRecords msg (256 * a₁.toNat + a₀.toNat) bs = some (records, [])) :
    parse msg = some ⟨id, flags, records⟩ := by
  subst hid hflags
  have hword : word msg = some (256 * i₁.toNat + i₀.toNat,
      [f₁, f₀, 0, 0, a₁, a₀, 0, 0, 0, 0] ++ bs) := by rw [hmsg]; rfl
  rw [parse, hword]
  change (readRecords msg (256 * a₁.toNat + a₀.toNat) bs).bind _ = _
  rw [hrecords]
  rfl

end Records

end Dns
