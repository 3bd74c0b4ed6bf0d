/-
Instants as Internet date-times in universal time, `yyyy-MM-ddTHH:mm:ssZ`. An instant is counted in seconds from the
first of January 1970, and what is written is read back as it was.
-/
import PetIT.Calendar.Civil

namespace Calendar

/-! ## Numbers of a given width -/

/-- The last `w` decimal digits. -/
def digits : Nat → Nat → List Char
  | 0, _ => []
  | w + 1, n => digits w (n / 10) ++ [Nat.digitChar (n % 10)]

/-- A digit more to the number read so far. -/
def readDigit (n : Nat) (c : Char) : Option Nat := if c.isDigit then some (10 * n + (c.toNat - 48)) else none

/-- A number in decimal digits. -/
def readDigits (cs : List Char) : Option Nat := cs.foldlM readDigit 0

/-- The next `w` characters are a number. -/
def number (w : Nat) (cs : List Char) : Option (Nat × List Char) :=
  if w ≤ cs.length then (readDigits (cs.take w)).map fun n => (n, cs.drop w) else none

/-- The rest of the text after the character that has to come next. -/
def expect (c : Char) : List Char → Option (List Char)
  | [] => none
  | x :: rest => if x = c then some rest else none

theorem length_digits (w n : Nat) : (digits w n).length = w := by
  induction w generalizing n with
  | zero => rfl
  | succ w ih => simp [digits, ih]

theorem digitChar_spec : ∀ d < 10, (Nat.digitChar d).isDigit = true ∧ (Nat.digitChar d).toNat = 48 + d := by decide

theorem readDigit_digitChar (n : Nat) {d : Nat} (h : d < 10) : readDigit n (Nat.digitChar d) = some (10 * n + d) := by
  obtain ⟨hd, hn⟩ := digitChar_spec d h
  unfold readDigit
  rw [if_pos hd, hn, Nat.add_sub_cancel_left]

theorem readDigits_digits {w n : Nat} (h : n < 10 ^ w) : readDigits (digits w n) = some n := by
  unfold readDigits
  induction w generalizing n with
  | zero =>
    obtain rfl : n = 0 := by simpa using h
    rfl
  | succ w ih =>
    rw [digits, List.foldlM_append, ih (by rw [pow_succ] at h; omega)]
    show (readDigit (n / 10) _ >>= fun n => some n) = _
    rw [readDigit_digitChar _ (Nat.mod_lt _ (by norm_num))]
    show some (10 * (n / 10) + n % 10) = some n
    rw [Nat.div_add_mod]

@[simp] theorem number_digits {w n : Nat} (h : n < 10 ^ w) (rest : List Char) :
    number w (digits w n ++ rest) = some (n, rest) := by
  have hw := length_digits w n
  unfold number
  rw [if_pos (by simp [hw]), List.take_left' hw, List.drop_left' hw, readDigits_digits h]
  rfl

@[simp] theorem expect_cons (c : Char) (rest : List Char) : expect c (c :: rest) = some rest := if_pos rfl

/-! ## Date-times -/

/-- The days before 1970. -/
def epoch : Nat := 719528

/-- The text of an instant, by its seconds since 1970. -/
def format (t : Nat) : String :=
  let date := Date.ofDays (epoch + t / 86400)
  .ofList (digits 4 date.year ++ '-' :: (digits 2 date.month ++ '-' :: (digits 2 date.day ++ 'T' ::
    (digits 2 (t % 86400 / 3600) ++ ':' :: (digits 2 (t % 3600 / 60) ++ ':' :: (digits 2 (t % 60) ++ ['Z']))))))

/-- The instant of a text, in seconds since 1970. -/
def parse (s : String) : Option Int := do
  let (year, cs) ← number 4 s.toList
  let cs ← expect '-' cs
  let (month, cs) ← number 2 cs
  let cs ← expect '-' cs
  let (day, cs) ← number 2 cs
  let cs ← expect 'T' cs
  let (hour, cs) ← number 2 cs
  let cs ← expect ':' cs
  let (minute, cs) ← number 2 cs
  let cs ← expect ':' cs
  let (second, cs) ← number 2 cs
  let cs ← expect 'Z' cs
  guard (cs = [] ∧ (Date.mk year month day).Valid ∧ hour < 24 ∧ minute < 60 ∧ second < 60)
  some (86400 * ((Date.mk year month day).days - epoch) + 3600 * hour + 60 * minute + second)

/-- The first instant of the year 10000. -/
def endOfTime : Nat := 253402300800

theorem daysBefore_end : daysBefore 10000 = epoch + endOfTime / 86400 := by decide

theorem year_lt {t : Nat} (h : t < endOfTime) : (Date.ofDays (epoch + t / 86400)).year < 10 ^ 4 := by
  have hlo := (yearOf_spec (epoch + t / 86400)).1
  have hend := daysBefore_end
  show yearOf (epoch + t / 86400) < 10000
  refine daysBefore_mono.lt_iff_lt.1 (hlo.trans_lt ?_)
  unfold endOfTime at *
  omega

theorem Date.Valid.day_lt {d : Date} (h : d.Valid) : d.day < 10 ^ 2 := by
  have hle := h.day_le
  unfold daysInMonth at hle
  have hmem : ∀ i, (monthLengths d.year).getD i 0 ≤ 31 := by
    intro i
    rw [List.getD_eq_getElem?_getD]
    rcases hi : (monthLengths d.year)[i]? with _ | l
    · exact Nat.zero_le _
    · have hl := List.mem_of_getElem? hi
      unfold monthLengths at hl
      simp only [List.mem_cons, List.not_mem_nil, or_false] at hl
      show l ≤ 31
      split at hl <;> omega
  have := hmem (d.month - 1)
  omega

/-- What is written is read back. -/
theorem parse_format {t : Nat} (h : t < endOfTime) : parse (format t) = some t := by
  have hv := Date.ofDays_valid (epoch + t / 86400)
  have hdays := Date.days_ofDays (epoch + t / 86400)
  have hy := year_lt h
  unfold parse format
  generalize Date.ofDays (epoch + t / 86400) = date at hv hdays hy
  have hm : date.month < 10 ^ 2 := lt_of_le_of_lt hv.month_le (by norm_num)
  have hh : t % 86400 / 3600 < 24 := by omega
  have hi : t % 3600 / 60 < 60 := by omega
  have hs : t % 60 < 60 := by omega
  rw [String.toList_ofList]
  refine Option.bind_eq_some_iff.2 ⟨_, number_digits hy _, ?_⟩
  refine Option.bind_eq_some_iff.2 ⟨_, expect_cons _ _, ?_⟩
  refine Option.bind_eq_some_iff.2 ⟨_, number_digits hm _, ?_⟩
  refine Option.bind_eq_some_iff.2 ⟨_, expect_cons _ _, ?_⟩
  refine Option.bind_eq_some_iff.2 ⟨_, number_digits hv.day_lt _, ?_⟩
  refine Option.bind_eq_some_iff.2 ⟨_, expect_cons _ _, ?_⟩
  refine Option.bind_eq_some_iff.2 ⟨_, number_digits (hh.trans (by norm_num)) _, ?_⟩
  refine Option.bind_eq_some_iff.2 ⟨_, expect_cons _ _, ?_⟩
  refine Option.bind_eq_some_iff.2 ⟨_, number_digits (hi.trans (by norm_num)) _, ?_⟩
  refine Option.bind_eq_some_iff.2 ⟨_, expect_cons _ _, ?_⟩
  refine Option.bind_eq_some_iff.2 ⟨_, number_digits (hs.trans (by norm_num)) _, ?_⟩
  refine Option.bind_eq_some_iff.2 ⟨_, expect_cons _ _, ?_⟩
  refine Option.bind_eq_some_iff.2 ⟨(), if_pos ⟨rfl, hv, hh, hi, hs⟩, ?_⟩
  rw [hdays, Option.some.injEq]
  push_cast
  omega

end Calendar
