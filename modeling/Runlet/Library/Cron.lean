import Runlet.Library.Calendar
import Runlet.Library.Words

/-!
# Cron expressions

The language of cron expressions: five fields, each a list of terms, where a term is `*`, a
number, a name or a range `a-b`, with or without a step `/n`.  A step counts from the least value
of the term, `a/n` runs to the greatest value of the field, and days of the week count from
Monday.  A minute matches an expression when it matches all five fields.

A term is a range of values with a step, and carries the proof that it lies in the range of its
field; a field has at least one term.

* `Cron.Field.exists_matches`: a field has a value.
* `Cron.parseField_any`, `Cron.parseField_every`, `Cron.parseField_value`: what `*`, `*/n` and a
  number stand for.
* `Cron.parseDigits_of_parseInt`: a field that `int` can read is a number.
-/

namespace Cron

/-! ## Terms and fields -/

/-- The values from `first` to `last`, in steps. -/
structure Term (lo hi : ℕ) where
  first : ℕ
  last : ℕ
  step : ℕ
  lo_le : lo ≤ first
  first_le : first ≤ last
  last_le : last ≤ hi
  step_pos : 0 < step

/-- A list of terms. -/
structure Field (lo hi : ℕ) where
  head : Term lo hi
  tail : List (Term lo hi)

variable {lo hi : ℕ}

def Term.matches (term : Term lo hi) (v : ℕ) : Bool :=
  term.first ≤ v && v ≤ term.last && (v - term.first) % term.step = 0

def Field.matches (field : Field lo hi) (v : ℕ) : Bool :=
  field.head.matches v || field.tail.any (·.matches v)

theorem Term.matches_iff {term : Term lo hi} {v : ℕ} :
    term.matches v ↔ term.first ≤ v ∧ v ≤ term.last ∧ (v - term.first) % term.step = 0 := by
  simp [Term.matches, and_assoc]

/-- A field has a value. -/
theorem Field.exists_matches (field : Field lo hi) :
    ∃ v, lo ≤ v ∧ v ≤ hi ∧ field.matches v := by
  refine ⟨field.head.first, field.head.lo_le, field.head.first_le.trans field.head.last_le, ?_⟩
  have hfirst : field.head.matches field.head.first = true :=
    Term.matches_iff.mpr ⟨le_rfl, field.head.first_le, by rw [Nat.sub_self, Nat.zero_mod]⟩
  rw [Field.matches, hfirst, Bool.true_or]

structure Expr where
  minute : Field 0 59
  hour : Field 0 23
  day : Field 1 31
  month : Field 1 12
  dayOfWeek : Field 0 6

def Expr.matches (expr : Expr) (m : Calendar.Minute) : Bool :=
  expr.minute.matches m.minute && expr.hour.matches m.hour && expr.day.matches m.day &&
    expr.month.matches m.month && expr.dayOfWeek.matches m.weekday

/-! ## Reading -/

def monthNames : List String :=
  ["jan", "feb", "mar", "apr", "may", "jun", "jul", "aug", "sep", "oct", "nov", "dec"]

def dayNames : List String := ["mon", "tue", "wed", "thu", "fri", "sat", "sun"]

/-- A range of values, if it is one. -/
def range? (lo hi first last step : ℕ) : Option (Term lo hi) :=
  if h : lo ≤ first ∧ first ≤ last ∧ last ≤ hi ∧ 0 < step then
    some ⟨first, last, step, h.1, h.2.1, h.2.2.1, h.2.2.2⟩
  else none

/-- A number, or a name counted from the least value of the field. -/
def parseItem (lo : ℕ) (names : List String) (cs : List Char) : Option ℕ :=
  match Text.parseDigits cs with
  | some n => some n
  | none => (names.findIdx? fun name => name.toList = cs.map Char.toLower).map (lo + ·)

/-- The body of a term; `step` is its step, if it has one. -/
def parseBody (lo hi : ℕ) (names : List String) (body : List Char) (step : Option ℕ) :
    Option (Term lo hi) :=
  if body = ['*'] then range? lo hi lo hi (step.getD 1)
  else
    match body.splitOn '-' with
    | [item] => (parseItem lo names item).bind fun n =>
        range? lo hi n (if step.isSome then hi else n) (step.getD 1)
    | [first, last] => (parseItem lo names first).bind fun a =>
        (parseItem lo names last).bind fun b => range? lo hi a b (step.getD 1)
    | _ => none

def parseTerm (lo hi : ℕ) (names : List String) (cs : List Char) : Option (Term lo hi) :=
  match cs.splitOn '/' with
  | [body] => parseBody lo hi names body none
  | [body, step] => (Text.parseDigits step).bind fun n => parseBody lo hi names body (some n)
  | _ => none

def parseField (lo hi : ℕ) (names : List String) (s : String) : Option (Field lo hi) :=
  match (s.toList.splitOn ',').mapM (parseTerm lo hi names) with
  | some (head :: tail) => some ⟨head, tail⟩
  | _ => none

def parse (s : String) : Option Expr :=
  match Text.splitWords s with
  | [minute, hour, day, month, dayOfWeek] => do
    let minute ← parseField 0 59 [] minute
    let hour ← parseField 0 23 [] hour
    let day ← parseField 1 31 [] day
    let month ← parseField 1 12 monthNames month
    let dayOfWeek ← parseField 0 6 dayNames dayOfWeek
    pure ⟨minute, hour, day, month, dayOfWeek⟩
  | _ => none

/-! ## What the simple fields stand for -/

theorem range?_eq_some {first last step : ℕ} {term : Term lo hi}
    (h : range? lo hi first last step = some term) :
    term.first = first ∧ term.last = last ∧ term.step = step := by
  unfold range? at h
  split at h
  · obtain rfl := Option.some.inj h
    exact ⟨rfl, rfl, rfl⟩
  · exact absurd h (by simp)

variable {names : List String} {s : String} {field : Field lo hi}

/-- A field without a comma is one term. -/
theorem parseField_of_notMem (h : ',' ∉ s.toList) :
    parseField lo hi names s = (parseTerm lo hi names s.toList).map fun term => ⟨term, []⟩ := by
  rw [parseField, List.splitOn_eq_singleton h, List.mapM_cons, List.mapM_nil]
  cases parseTerm lo hi names s.toList <;> rfl

theorem matches_singleton {term : Term lo hi} {v : ℕ} :
    (⟨term, []⟩ : Field lo hi).matches v = term.matches v := by
  simp [Field.matches]

theorem parseField_any (h : parseField lo hi names "*" = some field) (v : ℕ) :
    field.matches v ↔ lo ≤ v ∧ v ≤ hi := by
  have hterm : parseTerm lo hi names "*".toList = range? lo hi lo hi 1 := rfl
  rw [parseField_of_notMem (by decide), hterm] at h
  obtain ⟨term, hrange, rfl⟩ := Option.map_eq_some_iff.mp h
  obtain ⟨hfirst, hlast, hstep⟩ := range?_eq_some hrange
  rw [matches_singleton, Term.matches_iff, hfirst, hlast, hstep, Nat.mod_one]
  simp

theorem parseField_every {n : ℕ} {digits : List Char} (hs : s.toList = '*' :: '/' :: digits)
    (hn : Text.parseDigits digits = some n) (h : parseField lo hi names s = some field) :
    0 < n ∧ ∀ v, field.matches v ↔ lo ≤ v ∧ v ≤ hi ∧ (v - lo) % n = 0 := by
  have hdigits := (Text.parseDigits_eq_some_iff.mp hn).1.2
  have hno : ∀ c : Char, c.isDigit = false → c ∉ digits := by
    intro c hc hmem
    rw [hdigits c hmem] at hc
    exact Bool.noConfusion hc
  have hcomma : ',' ∉ s.toList := by
    rw [hs]
    simp [hno ',' (by decide)]
  have hsplit : s.toList.splitOn '/' = [['*'], digits] := by
    have happend : s.toList = ['*'] ++ '/' :: digits := hs
    rw [happend, List.splitOn_append_cons_self_of_not_mem (by decide),
      List.splitOn_eq_singleton (hno '/' (by decide))]
  have hterm : parseTerm lo hi names s.toList = range? lo hi lo hi n := by
    rw [parseTerm, hsplit]
    simp [hn, parseBody]
  rw [parseField_of_notMem hcomma, hterm] at h
  obtain ⟨term, hrange, rfl⟩ := Option.map_eq_some_iff.mp h
  obtain ⟨hfirst, hlast, hstep⟩ := range?_eq_some hrange
  refine ⟨hstep ▸ term.step_pos, fun v => ?_⟩
  rw [matches_singleton, Term.matches_iff, hfirst, hlast, hstep]

theorem parseField_value {n : ℕ} (hn : Text.parseDigits s.toList = some n)
    (h : parseField lo hi names s = some field) :
    lo ≤ n ∧ n ≤ hi ∧ ∀ v, field.matches v ↔ v = n := by
  have hdigits := (Text.parseDigits_eq_some_iff.mp hn).1.2
  have hno : ∀ c : Char, c.isDigit = false → c ∉ s.toList := by
    intro c hc hmem
    rw [hdigits c hmem] at hc
    exact Bool.noConfusion hc
  have hstar : s.toList ≠ ['*'] := fun heq => hno '*' (by decide) (heq ▸ List.mem_cons_self)
  have hterm : parseTerm lo hi names s.toList = range? lo hi n n 1 := by
    rw [parseTerm, List.splitOn_eq_singleton (hno '/' (by decide))]
    simp [parseBody, hstar, List.splitOn_eq_singleton (hno '-' (by decide)), parseItem, hn]
  rw [parseField_of_notMem (hno ',' (by decide)), hterm] at h
  obtain ⟨term, hrange, rfl⟩ := Option.map_eq_some_iff.mp h
  obtain ⟨hfirst, hlast, hstep⟩ := range?_eq_some hrange
  have hlo := term.lo_le
  have hhi := term.last_le
  refine ⟨by omega, by omega, fun v => ?_⟩
  rw [matches_singleton, Term.matches_iff, hfirst, hlast, hstep, Nat.mod_one]
  omega

/-! ## What `int` reads -/

theorem toLower_of_isDigit {c : Char} (h : c.isDigit = true) : c.toLower = c := by
  obtain ⟨hlow, hhigh⟩ := Text.toNat_of_isDigit h
  unfold Char.toLower
  split
  · rename_i hupper
    simp [UInt32.le_iff_toNat_le] at hupper
    omega
  · rfl

/-- An item with a digit in it, but no number, is none of the names. -/
theorem parseItem_eq_none {cs : List Char} {c : Char}
    (hnames : ∀ name ∈ names, ∀ c ∈ name.toList, c.isDigit = false) (hc : c ∈ cs)
    (hdigit : c.isDigit = true) (hnone : Text.parseDigits cs = none) :
    parseItem lo names cs = none := by
  rw [parseItem, hnone]
  simp only [Option.map_eq_none_iff, List.findIdx?_eq_none_iff, decide_eq_false_iff_not]
  intro name hname heq
  have hlower : c.toLower ∈ name.toList := heq ▸ List.mem_map_of_mem hc
  rw [toLower_of_isDigit hdigit] at hlower
  rw [hnames name hname c hlower] at hdigit
  exact Bool.noConfusion hdigit

theorem parseItem_nil (hnames : ∀ name ∈ names, name.toList ≠ []) :
    parseItem lo names [] = none := by
  have hnone : Text.parseDigits [] = none := rfl
  rw [parseItem, hnone]
  simp only [Option.map_eq_none_iff, List.findIdx?_eq_none_iff, decide_eq_false_iff_not]
  exact fun name hname heq => hnames name hname heq

/-- Names are not empty, and have no digits. -/
def AreNames (names : List String) : Prop :=
  (names.all fun name => !name.toList.isEmpty && name.toList.all fun c => !c.isDigit) = true

theorem areNames_nil : AreNames [] := rfl

theorem areNames_monthNames : AreNames monthNames := rfl

theorem areNames_dayNames : AreNames dayNames := rfl

theorem AreNames.ne_nil (h : AreNames names) : ∀ name ∈ names, name.toList ≠ [] := by
  intro name hname hnil
  have hall := List.all_eq_true.mp h name hname
  simp [hnil] at hall

theorem AreNames.isDigit (h : AreNames names) :
    ∀ name ∈ names, ∀ c ∈ name.toList, c.isDigit = false := by
  intro name hname c hc
  have hall := List.all_eq_true.mp h name hname
  rw [Bool.and_eq_true, List.all_eq_true] at hall
  simpa using hall.2 c hc

/-- **A field that `int` can read is a number.**  Of a sign or an underscore, which `int` allows,
no term is made. -/
theorem parseDigits_of_parseInt {k : ℤ} (hnames : AreNames names) (hword : Text.IsWord s)
    (hint : Text.parseInt s = some k) (h : parseField lo hi names s = some field) :
    ∃ n : ℕ, k = n ∧ Text.parseDigits s.toList = some n := by
  obtain ⟨sign, cs, n, hs, hsign, hmagnitude, hvalue⟩ :=
    Text.exists_magnitude_of_parseInt hword hint
  obtain ⟨hchars, d, hd, hdigit⟩ := Text.mem_of_parseMagnitude hmagnitude
  -- the characters that separate terms and steps, and the one that stands for all values
  have hcomma : ',' ∉ s.toList := Text.notMem_of_parseInt hword hint (by decide)
  have hslash : '/' ∉ s.toList := Text.notMem_of_parseInt hword hint (by decide)
  have hstar : s.toList ≠ ['*'] := fun heq =>
    Text.notMem_of_parseInt (c := '*') hword hint (by decide) (heq ▸ List.mem_cons_self)
  have hmem : d ∈ s.toList := hs ▸ List.mem_append_right sign hd
  have hterm : parseTerm lo hi names s.toList = parseBody lo hi names s.toList none := by
    rw [parseTerm, List.splitOn_eq_singleton hslash]
  rw [parseField_of_notMem hcomma, hterm] at h
  obtain ⟨term, hbody, -⟩ := Option.map_eq_some_iff.mp h
  rw [parseBody, if_neg hstar] at hbody
  by_cases hminus : '-' ∈ s.toList
  · -- a minus sign leaves an empty item before it
    obtain rfl : sign = ['-'] := by
      rcases hsign with rfl | rfl | rfl
      · rcases hchars '-' (by simpa [hs] using hminus) with hdig | heq
        · exact absurd hdig (by decide)
        · exact absurd heq (by decide)
      · rfl
      · rw [hs] at hminus
        rcases List.mem_cons.mp hminus with heq | hin
        · exact absurd heq (by decide)
        · rcases hchars '-' hin with hdig | heq
          · exact absurd hdig (by decide)
          · exact absurd heq (by decide)
    have hcs : '-' ∉ cs := fun hin => by
      rcases hchars '-' hin with hdig | heq
      · exact absurd hdig (by decide)
      · exact absurd heq (by decide)
    have hsplit : s.toList.splitOn '-' = [[], cs] := by
      have happend : s.toList = [] ++ '-' :: cs := hs
      rw [happend, List.splitOn_append_cons_self_of_not_mem (by simp),
        List.splitOn_eq_singleton hcs]
    rw [hsplit] at hbody
    simp [parseItem_nil hnames.ne_nil] at hbody
  · rw [List.splitOn_eq_singleton hminus] at hbody
    obtain ⟨m, hitem, -⟩ := Option.bind_eq_some_iff.mp hbody
    cases hdigits : Text.parseDigits s.toList with
    | none =>
      rw [parseItem_eq_none hnames.isDigit hmem hdigit hdigits] at hitem
      exact absurd hitem (by simp)
    | some m' =>
      have hk := Text.parseInt_of_parseDigits hdigits
      rw [hint] at hk
      exact ⟨m', Option.some.inj hk, rfl⟩

end Cron
