import StateTree.Proofs.Time.Calendar
import StateTree.Time.Instant

/-!
# `StateTree.Proofs.Time.Instant`: instants, counted and written

- `Clock.settled_written_eq_iff`: the times of day that are told by what is written.
- `Instant.ofMillis?_eq_some_iff`: counted milliseconds are instants without leap seconds.
- `Instant.reread`: the instant that the text of an instant means.
- `Instant.universal?_zero`: dates and times of day in universal time.
-/

set_option autoImplicit false

namespace StateTree.Time

/-! ### Times of day -/

namespace Clock

variable {clock : Clock}

/-- The milliseconds of a counted time of day are those that were counted. -/
theorem millis_ofMillis (count : Nat) : (ofMillis count).millis = count := by
  simp only [ofMillis, millis]
  omega

/-- A time of day without a leap second is told by its milliseconds, which are less than those of
a day. In a leap second there are more than 999 of them in one second, and the count is that of a
later time. -/
theorem ofMillis_millis (h : clock.IsSettled) (hmillisecond : clock.millisecond ≤ 999) :
    ofMillis clock.millis = clock ∧ clock.millis < 86400000 := by
  obtain ⟨hour, minute, second, millisecond⟩ := clock
  obtain ⟨hhour, hminute, hsecond, -⟩ := h
  simp only at hhour hminute hsecond hmillisecond
  simp only [ofMillis, millis, mk.injEq]
  omega

/-- Leap seconds are counted in the same minute, so settling changes neither the hour nor the
minute. -/
theorem settled_eta (clock : Clock) :
    { clock.settled with hour := clock.hour, minute := clock.minute } = clock.settled := by
  unfold settled
  split <;> rfl

/-- A time of day that counts can be written. A leap second is written as second 60 if it ends a
minute. -/
theorem IsSettled.isValid_written (h : clock.IsSettled) : clock.written.IsValid := by
  obtain ⟨hhour, hminute, hsecond, hmillisecond⟩ := h
  refine ⟨hhour, hminute, ?_, ?_⟩
  · simp only [written]
    omega
  · simp only [written]
    omega

/-- A written time of day can be counted. Second 60 becomes a second with more than 999
milliseconds. -/
theorem IsValid.isSettled_settled (h : clock.IsValid) : clock.settled.IsSettled := by
  obtain ⟨hhour, hminute, hsecond, hmillisecond⟩ := h
  unfold settled
  split
  · exact ⟨hhour, hminute, Nat.le_refl 59, by simp only; omega⟩
  · exact ⟨hhour, hminute, by omega, by omega⟩

/-- A time of day is told by what is written, unless it is in a leap second that does not end a
minute. In that case it is written as the second after it. -/
theorem settled_written_eq_iff (h : clock.IsSettled) :
    clock.written.settled = clock ↔ clock.millisecond ≤ 999 ∨ clock.second = 59 := by
  obtain ⟨hour, minute, second, millisecond⟩ := clock
  obtain ⟨-, -, hsecond, hmillisecond⟩ := h
  simp only at hsecond hmillisecond
  unfold settled written
  -- Only a leap second that ends a minute is written as second 60.
  by_cases hleap : second + millisecond / 1000 = 60
  · rw [if_pos hleap]
    simp only [mk.injEq, true_and]
    omega
  · rw [if_neg hleap]
    simp only [mk.injEq, true_and]
    omega

/-- The milliseconds stay what they are, also where the time of day does not. -/
theorem millis_settled_written (clock : Clock) : clock.written.settled.millis = clock.millis := by
  obtain ⟨hour, minute, second, millisecond⟩ := clock
  unfold settled written
  by_cases hleap : second + millisecond / 1000 = 60
  · rw [if_pos hleap]
    simp only [millis]
    omega
  · rw [if_neg hleap]
    simp only [millis]
    omega

end Clock

namespace Instant

/-- The instants at a date and a time of day. There is one at most, and that there is one is up to
the three conditions that an instant carries. -/
theorem of?_eq_some_iff {date : Date} {clock : Clock} {instant : Instant} :
    of? date clock = some instant ↔ instant.date = date ∧ instant.clock = clock := by
  unfold of?
  constructor
  · intro h
    split at h
    · cases h
      exact ⟨rfl, rfl⟩
    · cases h
  · rintro ⟨rfl, rfl⟩
    exact dif_pos ⟨instant.date_valid, instant.date_supported, instant.clock_settled⟩

/-- The instant that milliseconds are counted to is the one without a leap second that is as many
milliseconds from the epoch. So leap seconds are never counted to, though they have a count. -/
theorem ofMillis?_eq_some_iff {millis : Int} {instant : Instant} :
    ofMillis? millis = some instant ↔
      instant.millis = millis ∧ instant.clock.millisecond ≤ 999 := by
  rw [ofMillis?, of?_eq_some_iff]
  constructor
  · rintro ⟨hdate, hclock⟩
    -- Milliseconds are split into days and the time of day. Rounding is downwards, so that this
    -- also holds before the epoch.
    have hday : instant.date.epochDay = millis / 86400000 := by
      rw [hdate, (Date.ofEpochDay_spec _).2]
    have hcount : instant.clock.millis = (millis % 86400000).toNat := by
      rw [hclock, Clock.millis_ofMillis]
    refine ⟨by rw [Instant.millis, hday, hcount]; omega, ?_⟩
    rw [hclock, Clock.ofMillis]
    simp only
    omega
  · rintro ⟨rfl, hmillisecond⟩
    -- Here the hypothesis on milliseconds is needed: a leap second would be counted to the next
    -- one.
    obtain ⟨hof, hlt⟩ := Clock.ofMillis_millis instant.clock_settled hmillisecond
    have hday : instant.millis / 86400000 = instant.date.epochDay := by
      rw [Instant.millis]
      omega
    have hcount : (instant.millis % 86400000).toNat = instant.clock.millis := by
      rw [Instant.millis]
      omega
    rw [hday, hcount, hof, Date.ofEpochDay_epochDay instant.date_valid]
    exact ⟨rfl, rfl⟩

/-- The instant that the text of an instant means. A leap second that does not end a minute cannot
be told from the second after it. It is an instant again, by the lemmas on times of day. -/
def reread (instant : Instant) : Instant where
  date := instant.date
  clock := instant.clock.written.settled
  date_valid := instant.date_valid
  date_supported := instant.date_supported
  clock_settled := instant.clock_settled.isValid_written.isSettled_settled

/-- The instant that a text means is the instant of the text where its leap second can be told.
This is the condition in `snapshot_reads_back_iff`. -/
theorem reread_eq_iff (instant : Instant) :
    instant.reread = instant ↔ instant.clock.millisecond ≤ 999 ∨ instant.clock.second = 59 := by
  rw [← Clock.settled_written_eq_iff instant.clock_settled]
  constructor
  · exact congrArg clock
  · intro h
    obtain ⟨date, clock, hvalid, hsupported, hsettled⟩ := instant
    simp only [reread, mk.injEq, true_and]
    exact h

/-- The instant that a text means is as many milliseconds from the epoch, so what is lost cannot
be seen in the count. -/
theorem millis_reread (instant : Instant) : instant.reread.millis = instant.millis := by
  simp only [millis, reread, Clock.millis_settled_written]

/-- The instant at a date and a time of day in universal time. The hypotheses are those of an
instant, but for the time of day, which may be written with second 60. -/
theorem universal?_zero {date : Date} {clock : Clock} (hdate : date.IsValid)
    (hsupported : date.isSupported) (hclock : clock.IsValid) :
    universal? date clock 0 =
      some ⟨date, clock.settled, hdate, hsupported, hclock.isSettled_settled⟩ := by
  have ⟨hhour, hminute, _, _⟩ := hclock
  have hday : (date.epochDay * 1440 + clock.hour * 60 + clock.minute - 0) / 1440 =
      date.epochDay := by omega
  have hinDay : ((date.epochDay * 1440 + clock.hour * 60 + clock.minute - 0) % 1440).toNat =
      clock.hour * 60 + clock.minute := by omega
  have hhours : (clock.hour * 60 + clock.minute) / 60 = clock.hour := by omega
  have hminutes : (clock.hour * 60 + clock.minute) % 60 = clock.minute := by omega
  unfold universal?
  rw [if_pos (by simp [hsupported, hclock])]
  -- Nothing is shifted, so the minutes fall apart into the day, the hour and the minute again.
  simp only [hday, hinDay, hhours, hminutes, Date.ofEpochDay_epochDay hdate, Clock.settled_eta]
  exact dif_pos ⟨hdate, hsupported, hclock.isSettled_settled⟩

end Instant

end StateTree.Time
