import Mathlib.Data.List.Infix
import Mathlib.Data.List.TakeWhile
import Mathlib.Tactic.Set
import Mathlib.Tactic.NormNum

/- Strings in a byte buffer, as the C library reads them: a string ends at its
   first NUL, `strstr` looks for the first occurrence of a text in it, and the
   `%s` and `%d` of `sscanf` read a word or a number behind any white space.
   A number is read as the integer it denotes; what an `int` keeps of it is the
   caller's business. `strncpy` fills its room: with zeros behind a short string,
   and with no NUL at all behind a long one. -/
namespace CString

/-- The string at the start of a buffer. -/
def text (buf : List UInt8) : List UInt8 := buf.takeWhile (· ≠ 0)

/-- `strstr(buf, needle)`: the string from the first occurrence on. -/
def strstr (buf needle : List UInt8) : Option (List UInt8) :=
  ((text buf).dropInfix? needle).map fun r => needle ++ r.2

def isSpace (b : UInt8) : Bool := b = 0x20 || (0x09 ≤ b && b ≤ 0x0D)

def isDigit (b : UInt8) : Bool := 0x30 ≤ b && b ≤ 0x39

/-- The value of a row of decimal digits. -/
def digitsValue (ds : List UInt8) : Nat := ds.foldl (fun v d => 10 * v + (d.toNat - 0x30)) 0

/-- `%d`; `none` where there is no number to read. -/
def scanInt (s : List UInt8) : Option Int :=
  let s := s.dropWhile isSpace
  let negative := s.head? = some 0x2D
  let s := if negative ∨ s.head? = some 0x2B then s.drop 1 else s
  let ds := s.takeWhile isDigit
  if ds = [] then none else some (if negative then -(digitsValue ds : Int) else digitsValue ds)

/-- `%s`; `none` where only white space is left. -/
def scanWord (s : List UInt8) : Option (List UInt8) :=
  let w := (s.dropWhile isSpace).takeWhile (fun b => !isSpace b)
  if w = [] then none else some w

theorem text_isPrefix (buf : List UInt8) : text buf <+: buf := List.takeWhile_prefix _

theorem text_of_no_nul {buf : List UInt8} (h : ∀ b ∈ buf, b ≠ 0) : text buf = buf := by
  unfold text
  rw [List.takeWhile_eq_self_iff]
  intro b hb
  simpa using h b hb

theorem text_no_nul {buf : List UInt8} : ∀ b ∈ text buf, b ≠ 0 := by
  intro b hb
  unfold text at hb
  simpa using List.mem_takeWhile_imp hb

/-- What lies behind a NUL does not count. -/
theorem text_append_nul (buf rest : List UInt8) : text (buf ++ 0 :: rest) = text buf := by
  unfold text
  induction buf with
  | nil => rfl
  | cons b buf ih =>
    by_cases hb : b = 0
    · simp [hb]
    · rw [List.cons_append, List.takeWhile_cons_of_pos (by simpa using hb),
        List.takeWhile_cons_of_pos (by simpa using hb), ih]

/-! Copying. -/

/-- What `strncpy(dst, src, n)` stores. -/
def strncpy (src : List UInt8) (n : Nat) : List UInt8 :=
  src.take n ++ List.replicate (n - src.length) 0

theorem strncpy_length (src : List UInt8) (n : Nat) : (strncpy src n).length = n := by
  rw [strncpy, List.length_append, List.length_take, List.length_replicate]
  omega

/-- The string comes first, as far as there is room for it. -/
theorem strncpy_take {src : List UInt8} {n k : Nat} (hsrc : k ≤ src.length) (hroom : k ≤ n) :
    (strncpy src n).take k = src.take k := by
  have hlen : k ≤ (src.take n).length := by
    rw [List.length_take]
    omega
  rw [strncpy, List.take_append_of_le_length hlen, List.take_take, Nat.min_eq_left hroom]

/-! Searching. -/

theorem strstr_append_nul (buf rest needle : List UInt8) :
    strstr (buf ++ 0 :: rest) needle = strstr buf needle := by
  rw [strstr, text_append_nul, strstr]

/-- What `strstr` points to begins with the text and ends where the string does. -/
theorem strstr_some {buf needle str : List UInt8} (h : strstr buf needle = some str) :
    needle <+: str ∧ str <:+ text buf := by
  simp only [strstr, Option.map_eq_some_iff] at h
  obtain ⟨⟨p, s⟩, hfound, rfl⟩ := h
  obtain ⟨⟨needle', htext, hbeq⟩, -⟩ := List.dropInfix?_eq_some_iff.mp hfound
  have hneedle : needle' = needle := eq_of_beq hbeq
  subst hneedle
  exact ⟨List.prefix_append needle' s, ⟨p, by rw [htext, List.append_assoc]⟩⟩

/-- A text that does not occur in the buffer is not found. -/
theorem strstr_eq_none {buf needle : List UInt8} (h : ¬ needle <:+: buf) :
    strstr buf needle = none := by
  cases hs : strstr buf needle with
  | none => rfl
  | some str =>
    obtain ⟨hbegins, hsuffix⟩ := strstr_some hs
    exact absurd (hbegins.isInfix.trans (hsuffix.isInfix.trans (text_isPrefix buf).isInfix)) h

/-- A text that occurs first behind `p` is found there. -/
theorem strstr_first {p needle s : List UInt8} (hnul : ∀ b ∈ p ++ needle ++ s, b ≠ 0)
    (hfirst : ∀ p' s', p ++ needle ++ s = p' ++ needle ++ s' → p.length ≤ p'.length) :
    strstr (p ++ needle ++ s) needle = some (needle ++ s) := by
  have hfound : (p ++ needle ++ s).dropInfix? needle = some (p, s) := by
    rw [List.dropInfix?_eq_some_iff]
    refine ⟨⟨needle, rfl, beq_self_eq_true needle⟩, ?_⟩
    intro p' needle' s' heq hbeq
    have hneedle : needle' = needle := eq_of_beq hbeq
    subst hneedle
    exact hfirst p' s' heq
  rw [strstr, text_of_no_nul hnul, hfound]
  rfl

/-- The same in front of a rest that may end the string. -/
theorem strstr_first_text {p needle s : List UInt8} (hnul : ∀ b ∈ p ++ needle, b ≠ 0)
    (hfirst : ∀ p' s', p ++ needle ++ text s = p' ++ needle ++ s' → p.length ≤ p'.length) :
    strstr (p ++ needle ++ s) needle = some (needle ++ text s) := by
  have hall : ∀ b ∈ p ++ needle, decide (b ≠ 0) = true := fun b hb => decide_eq_true (hnul b hb)
  have htext : ∀ t, text (p ++ needle ++ t) = p ++ needle ++ text t := fun t =>
    List.takeWhile_append_of_pos hall
  have hrest : text (text s) = text s := text_of_no_nul text_no_nul
  have hsame : strstr (p ++ needle ++ s) needle = strstr (p ++ needle ++ text s) needle := by
    rw [strstr, strstr, htext, htext, hrest]
  rw [hsame]
  apply strstr_first _ hfirst
  intro b hb
  rcases List.mem_append.mp hb with hb | hb
  · exact hnul b hb
  · exact text_no_nul b hb

/-! Reading words. -/

/-- A word is read to its end. -/
theorem scanWord_word {w : List UInt8} (hne : w ≠ []) (h : ∀ b ∈ w, isSpace b = false) :
    scanWord w = some w := by
  have hdrop : w.dropWhile isSpace = w := by
    obtain ⟨b, rest, rfl⟩ := List.exists_cons_of_ne_nil hne
    apply List.dropWhile_cons_of_neg
    rw [h b List.mem_cons_self]
    exact Bool.false_ne_true
  have htake : w.takeWhile (fun b => !isSpace b) = w := by
    rw [List.takeWhile_eq_self_iff]
    intro b hb
    rw [h b hb]
    rfl
  rw [scanWord, hdrop, htake]
  exact if_neg hne

/-! Reading numbers. -/

theorem isDigit_range {d : UInt8} (h : isDigit d = true) : 0x30 ≤ d.toNat ∧ d.toNat ≤ 0x39 := by
  simp only [isDigit, Bool.and_eq_true, decide_eq_true_eq, UInt8.le_iff_toNat_le] at h
  exact h

theorem digitsValue_snoc (ds : List UInt8) (d : UInt8) :
    digitsValue (ds ++ [d]) = 10 * digitsValue ds + (d.toNat - 0x30) := by
  simp only [digitsValue, List.foldl_append, List.foldl_cons, List.foldl_nil]

theorem digitsValue_lt {ds : List UInt8} (h : ∀ d ∈ ds, isDigit d = true) :
    digitsValue ds < 10 ^ ds.length := by
  induction ds using List.reverseRecOn with
  | nil => simp [digitsValue]
  | append_singleton ds d ih =>
    have hds := ih (fun e he => h e (List.mem_append_left _ he))
    have hd := isDigit_range (h d (by simp))
    rw [digitsValue_snoc, List.length_append, List.length_singleton, Nat.pow_succ]
    omega

/-- A number read from a short string is small. -/
theorem scanInt_natAbs_lt {s : List UInt8} {v : Int} (h : scanInt s = some v) :
    v.natAbs < 10 ^ s.length := by
  unfold scanInt at h
  dsimp only at h
  set t := s.dropWhile isSpace with ht
  generalize hu : (if t.head? = some 0x2D ∨ t.head? = some 0x2B then t.drop 1 else t) = u at h
  have hulen : u.length ≤ s.length := by
    have htlen : t.length ≤ s.length := (List.dropWhile_suffix _).length_le
    rw [← hu]
    split
    · rw [List.length_drop]; omega
    · exact htlen
  have hdslen : (u.takeWhile isDigit).length ≤ s.length :=
    Nat.le_trans (List.takeWhile_prefix _).length_le hulen
  have hvalue : digitsValue (u.takeWhile isDigit) < 10 ^ s.length :=
    Nat.lt_of_lt_of_le (digitsValue_lt fun d hd => List.mem_takeWhile_imp hd)
      (Nat.pow_le_pow_right (by decide) hdslen)
  split at h
  · cases h
  · split at h <;> cases h <;> simpa using hvalue

/-- Spaces and digits are read as the digits' value. -/
theorem scanInt_digits (k : Nat) {ds : List UInt8} (hne : ds ≠ [])
    (h : ∀ d ∈ ds, isDigit d = true) :
    scanInt (List.replicate k 0x20 ++ ds) = some (digitsValue ds : Int) := by
  obtain ⟨d, rest, rfl⟩ := List.exists_cons_of_ne_nil hne
  have hd := isDigit_range (h d List.mem_cons_self)
  have hspace : isSpace d = false := by
    simp only [isSpace, Bool.or_eq_false_iff, decide_eq_false_iff_not, Bool.and_eq_false_iff,
      UInt8.le_iff_toNat_le, ← UInt8.toNat_inj, UInt8.reduceToNat]
    omega
  have hsign : ¬ (d = 0x2D) ∧ ¬ (d = 0x2B) := by
    simp only [← UInt8.toNat_inj, UInt8.reduceToNat]
    omega
  have hdrop : (List.replicate k 0x20 ++ d :: rest).dropWhile isSpace = d :: rest := by
    induction k with
    | zero => simp [hspace]
    | succ k ih =>
      rw [List.replicate_succ, List.cons_append, List.dropWhile_cons_of_pos (by decide)]
      exact ih
  have hall : (d :: rest).takeWhile isDigit = d :: rest := List.takeWhile_eq_self_iff.mpr h
  unfold scanInt
  simp only [hdrop, List.head?_cons, Option.some.injEq, hsign, or_self, if_false, hall,
    List.cons_ne_nil]

end CString
