import StateTree.Proofs.Time.Instant
import StateTree.Proofs.Time.Scanning
import StateTree.Time.Snapshot

/-!
# `StateTree.Proofs.Time.RoundTrip`: reading the text of an instant

The text of an instant begins with a sign unless its year has four digits, and ends in `Z`. The
forms with a zone take no sign, and those with a sign before the year take no zone.

- `digitsWithZone_text`: the text of an instant in a year of four digits is read.
- `literal?_eq_none_of_sign`: no literal begins with a sign and has a zone.
- `Instant.snapshot_reads_back_iff`: which instants are read back from what is stored of them.
-/

set_option autoImplicit false

namespace StateTree.Time

open Scan
open StateTree.Text (padded)

namespace Instant

/-- The characters of the text of an instant: the year, and numbers of fixed width with a sign
between each two. -/
theorem toList_text (instant : Instant) :
    instant.text.toList = (yearText instant.date.year).toList ++
      '-' :: ((padded 2 instant.date.month).toList ++
      '-' :: ((padded 2 instant.date.day).toList ++
      'T' :: ((padded 2 instant.clock.written.hour).toList ++
      ':' :: ((padded 2 instant.clock.written.minute).toList ++
      ':' :: ((padded 2 instant.clock.written.second).toList ++
      '.' :: ((padded 3 instant.clock.written.millisecond).toList ++ 'Z' :: [])))))) := by
  simp [text, Date.text, Clock.text]

end Instant

/-! ### Years of four digits -/

/-- The text of an instant in a year of four digits is read as a date and a time of day with a
zone. What it is read as is `reread`, which is the instant but for some leap seconds. -/
theorem digitsWithZone_text {instant : Instant} (hfirst : 0 ≤ instant.date.year)
    (hlast : instant.date.year ≤ 9999) :
    digitsWithZone instant.text.toList = some (instant.reread, []) := by
  have hyear : yearText instant.date.year = padded 4 instant.date.year.natAbs := by
    rw [yearText, if_neg (by omega), if_pos (by omega)]
  have hdate := instant.date_valid
  have hclock := instant.clock_settled.isValid_written
  have ⟨_, hmonth, _, hday⟩ := hdate
  have ⟨hhour, hminute, hsecond, hmillisecond⟩ := hclock
  -- The date is put together again; it exists since it is that of an instant.
  have hof : Date.of? instant.date.year.natAbs instant.date.month instant.date.day =
      some instant.date := by
    rw [Int.natAbs_of_nonneg hfirst]
    exact if_pos hdate
  have hlength := daysInMonth_le instant.date.year instant.date.month
  have hT : ∀ rest, (discard (char fun c => c = 'T' || c = 't' || c = ' ') : Scan Unit)
      ('T' :: rest) = some ((), rest) := fun _ => rfl
  have hzone : colonZone ['Z'] = some (0, []) := rfl
  rw [Instant.toList_text, hyear]
  unfold digitsWithZone
  -- Piece by piece, every number being as wide as it is read.
  rw [bind_apply (number_padded (by decide) (by omega) _), bind_apply (token_cons _ _),
    bind_apply (number_padded (by decide) (by omega) _), bind_apply (token_cons _ _),
    bind_apply (number_padded (by decide) (by omega) _), bind_apply (hT _),
    bind_apply (number_padded (by decide) (by omega) _), bind_apply (token_cons _ _),
    bind_apply (number_padded (by decide) (by omega) _), bind_apply (token_cons _ _),
    bind_apply (number_padded (by decide) (by omega) _),
    bind_apply (afterPoint_padded (by omega) (by decide) _), bind_apply hzone, hof]
  exact congrArg (need · []) (Instant.universal?_zero hdate instant.date_supported hclock)

/-! ### Years of more digits, and years before the year zero -/

/-- A character that stands before a year. Years before the year zero have one, and years of more
than four digits. -/
def IsSign (c : Char) : Prop :=
  c = '+' ∨ c = '-'

variable {c : Char} {rest : List Char}

/-- No date in digits with a zone begins with a sign, since it begins with four digits. -/
theorem digitsWithZone_of_sign (hc : IsSign c) : digitsWithZone (c :: rest) = none := by
  have hdigit : c.isDigit = false := by
    obtain rfl | rfl := hc <;> decide
  exact bind_apply_none (number_eq_none (by decide) 4 hdigit rest) _

/-- No day of the week begins with a sign. The name of a day may be missing, so nothing is taken.
-/
theorem dayOfWeek_of_sign (hc : IsSign c) :
    dayOfWeek (c :: rest) = some (none, c :: rest) := by
  have hfirst : ∀ name ∈ dayNames, name.toList.head? ≠ some c.toLower := by
    obtain rfl | rfl := hc <;> decide
  have hnone : nameIndex? dayNames (c :: rest) = none := by
    rw [nameIndex?, List.idxOf?_eq_none_iff]
    exact fun hmem => hfirst _ hmem (by simp)
  simp only [dayOfWeek, hnone]

/-- No date in words begins with a sign, since a number has to come after the day of the week. -/
theorem wordsWithZone_of_sign (hc : IsSign c) : wordsWithZone (c :: rest) = none := by
  have hdigit : c.isDigit = false := by
    obtain rfl | rfl := hc <;> decide
  have hblank : Text.isBlank c = false := by
    obtain rfl | rfl := hc <;> decide
  unfold wordsWithZone
  rw [bind_apply (blanks_cons hblank rest), bind_apply (dayOfWeek_of_sign hc),
    bind_apply (blanks_cons hblank rest)]
  exact bind_apply_none (number_eq_none (by decide) 2 hdigit rest) _

section

variable (hdigit : c.isDigit = false) (hblank : Text.isBlank c = false)

include hdigit hblank

/-- A number with white space before it. The lemmas of this section are about any character but
digits, white space and signs. -/
theorem spares_looseNumber : Spares c looseNumber :=
  (spares_blanks hblank).bind fun _ => spares_number hdigit 1 2

variable (hsign : ¬ IsSign c)

include hsign

/-- A year with a sign or without. Only here signs may come, so they are excluded from here on. -/
theorem spares_looseYear : Spares c looseYear := by
  have hplus : (c == '+') = false := by simpa using fun h => hsign (.inl h)
  have hminus : (c == '-') = false := by simpa using fun h => hsign (.inr h)
  -- Blanks, then a sign or none, then digits: as many as there are behind a sign, four at most
  -- without.
  refine (spares_blanks hblank).bind fun _ => (spares_hasToken hminus).bind fun negative => ?_
  split
  · exact (spares_longNumber hdigit 1).bind fun _ => spares_pure _
  · refine (spares_hasToken hplus).bind fun positive => ?_
    split
    · exact (spares_longNumber hdigit 1).bind fun _ => spares_pure _
    · exact (spares_number hdigit 1 4).bind fun _ => spares_pure _

/-- A date: a year, a month and a day with hyphens between them. -/
theorem spares_looseDate : Spares c looseDate := by
  have hminus : (c == '-') = false := by simpa using fun h => hsign (.inr h)
  refine (spares_looseYear hdigit hblank hsign).bind fun year => ?_
  refine (spares_token hminus).bind fun _ => ?_
  refine (spares_looseNumber hdigit hblank).bind fun month => ?_
  refine (spares_token hminus).bind fun _ => ?_
  exact (spares_looseNumber hdigit hblank).bind fun day => spares_need _

/-- A date and a time of day in universal time. What stands between them and how the time of day
is read differ from form to form. -/
theorem spares_timedForm {between : Scan Unit} {clock : Scan Clock} (hbetween : Spares c between)
    (hclock : Spares c clock) : Spares c (timedForm between clock) := by
  refine (spares_looseDate hdigit hblank hsign).bind fun date => hbetween.bind fun _ => ?_
  exact hclock.bind fun clock => spares_need _

end

/-- No literal begins with a sign and has `Z` in it: the forms that take a sign have no zone, and
the other way round. -/
theorem literal?_eq_none_of_sign {s : String} (hc : IsSign c) (hs : s.toList = c :: rest)
    (hzone : 'Z' ∈ rest) : literal? s = none := by
  have hmem : 'Z' ∈ s.toList := by simp [hs, hzone]
  have htimed : ∀ {between : Scan Unit} {clock : Scan Clock}, Spares 'Z' between →
      Spares 'Z' clock → whole? (timedForm between clock) s.toList = none :=
    fun hbetween hclock =>
      (spares_timedForm (by decide) (by decide) (by simp [IsSign]) hbetween hclock).whole?_eq_none
        hmem
  have hminutes : Spares 'Z' looseMinutes := by
    refine (spares_looseNumber (by decide) (by decide)).bind fun hour => ?_
    refine (spares_token (by decide)).bind fun _ => ?_
    exact (spares_looseNumber (by decide) (by decide)).bind fun minute => spares_pure _
  have hseconds : Spares 'Z' looseSeconds := by
    refine hminutes.bind fun clock => (spares_token (by decide)).bind fun _ => ?_
    refine (spares_looseNumber (by decide) (by decide)).bind fun second => ?_
    exact (spares_afterPoint (by decide) (by decide)).bind fun millisecond => spares_pure _
  rw [literal?, List.findSome?_eq_none_iff]
  intro form hform
  simp only [timedForms, List.cons_append, List.nil_append, List.mem_cons, List.not_mem_nil,
    or_false] at hform
  -- The first two forms fail at the sign, all others leave `Z` behind.
  obtain rfl | rfl | rfl | rfl | rfl | rfl := hform
  · rw [whole?, StateT.run, hs, digitsWithZone_of_sign hc]
  · rw [whole?, StateT.run, hs, wordsWithZone_of_sign hc]
  · exact htimed (spares_token (by decide)) hseconds
  · exact htimed (spares_blanks (by decide)) hseconds
  · exact htimed (spares_token (by decide)) hminutes
  · exact htimed (spares_pure _) (spares_pure _)

namespace Instant

/-- The text of an instant in a year of other than four digits is no literal. It begins with a
sign, and ends in `Z`. -/
theorem literal?_text_eq_none {instant : Instant}
    (h : ¬ (0 ≤ instant.date.year ∧ instant.date.year ≤ 9999)) : literal? instant.text = none := by
  -- Such a year is written with a sign.
  obtain ⟨c, digits, hc, hyear⟩ : ∃ c digits, IsSign c ∧
      (yearText instant.date.year).toList = c :: digits := by
    unfold yearText
    split
    · exact ⟨'-', _, .inr rfl, by simp; rfl⟩
    · rw [if_neg (by omega)]
      exact ⟨'+', _, .inl rfl, by simp; rfl⟩
  have htext := toList_text instant
  rw [hyear] at htext
  exact literal?_eq_none_of_sign hc htext (by simp)

/-- The text of an instant is not taken for a number, since it has hyphens in it. -/
theorem isNumericText_text (instant : Instant) : isNumericText instant.text.toList = false := by
  rw [isNumericText, toList_text]
  simp

/-- What is stored of an instant is a text that is not taken for a number. It is read back as the
instant exactly if the year has four digits, and the leap second, if the instant is in one, ends a
minute. Even if it does not, an instant in a year of four digits is read back as one at the same
number of milliseconds. In all other years the text is no literal. -/
theorem snapshot_reads_back_iff (instant : Instant) :
    ∃ s, Snapshot.ofInstant (some instant) = .text s ∧ isNumericText s.toList = false ∧
      (literal? s = some instant ↔ (0 ≤ instant.date.year ∧ instant.date.year ≤ 9999) ∧
        (instant.clock.millisecond ≤ 999 ∨ instant.clock.second = 59)) ∧
      (0 ≤ instant.date.year ∧ instant.date.year ≤ 9999 →
        ∃ reread, literal? s = some reread ∧ reread.millis = instant.millis) ∧
      (¬ (0 ≤ instant.date.year ∧ instant.date.year ≤ 9999) → literal? s = none) := by
  have hread : 0 ≤ instant.date.year ∧ instant.date.year ≤ 9999 →
      literal? instant.text = some instant.reread := by
    rintro ⟨hfirst, hlast⟩
    have hwhole : whole? digitsWithZone instant.text.toList = some instant.reread := by
      rw [whole?, StateT.run, digitsWithZone_text hfirst hlast]
    simp [literal?, hwhole]
  refine ⟨instant.text, rfl, isNumericText_text instant, ?_,
    fun h => ⟨instant.reread, hread h, millis_reread instant⟩, literal?_text_eq_none⟩
  -- Within the years the text is read back as `reread`, so what is left is when this is the
  -- instant.
  rw [← reread_eq_iff]
  by_cases hyear : 0 ≤ instant.date.year ∧ instant.date.year ≤ 9999
  · simp [hread hyear, hyear]
  · simp [literal?_text_eq_none hyear, hyear]

/-- The begin of the year 10000, which is the first instant behind the years of four digits. -/
def myriad : Instant where
  date := ⟨10000, 1, 1⟩
  clock := ⟨0, 0, 0, 0⟩
  date_valid := by decide
  date_supported := by decide
  clock_settled := by decide

/-- The begin of the year 10000 is an instant that seconds can be stored for, but what is then
stored of it is no literal. -/
theorem myriad_not_read_back :
    ofMillis? 253402300800000 = some myriad ∧
      Snapshot.ofInstant (some myriad) = .text "+10000-01-01T00:00:00.000Z" ∧
      isNumericText "+10000-01-01T00:00:00.000Z".toList = false ∧
      literal? "+10000-01-01T00:00:00.000Z" = none := by
  obtain ⟨s, hs, hnumeric, -, -, hnone⟩ := snapshot_reads_back_iff myriad
  have htext : myriad.text = "+10000-01-01T00:00:00.000Z" := by decide
  obtain rfl : myriad.text = s := by simpa [Snapshot.ofInstant] using hs
  have hcount : ofMillis? 253402300800000 = some myriad :=
    ofMillis?_eq_some_iff.2 ⟨by decide, by decide⟩
  rw [← htext]
  exact ⟨hcount, rfl, hnumeric, hnone (by decide)⟩

end Instant

end StateTree.Time
