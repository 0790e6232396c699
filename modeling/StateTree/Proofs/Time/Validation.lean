import StateTree.Proofs.Time.Instant
import StateTree.Proofs.Time.WholeNumbers

/-!
# `StateTree.Proofs.Time.Validation`: the check of a stored form and its conversion

A stored form is checked by its milliseconds, which have to be finite. Its conversion to an instant
asks for more: the milliseconds have to lie in the supported years. So a number of seconds or its
text may pass the check and have no instant. A literal is read into an instant first, and what is
counted of that is converted back, unless it is in a leap second behind the last supported year.

- `le_yearOfDay_iff`: which days lie in a year or later.
- `Instant.exists_ofMillis?_iff`: which milliseconds are instants.
- `Instant.firstMillis_le_millis`, `Instant.millis_lt`: and where those of an instant lie.
- `Snapshot.exists_toInstant_iff`: which stored forms are converted.
- `Snapshot.agrees_iff`: for which of them the check says the same.
-/

set_option autoImplicit false

namespace StateTree.Time

/-! ### The milliseconds of the supported years -/

/-- A day lies in a year or later exactly if it does not come before the year begins. So a
question about years is one about counted days. -/
theorem le_yearOfDay_iff {year day : Int} : year ≤ yearOfDay day ↔ daysBeforeYear year ≤ day := by
  obtain ⟨hbegin, hend⟩ := daysBeforeYear_yearOfDay_le day
  rw [← daysBeforeYear_succ] at hend
  constructor
  · intro h
    exact Int.le_trans (daysBeforeYear_mono h) hbegin
  · intro h
    -- Were the year later than that of the day, it would begin behind the end of that year.
    by_contra hlater
    have hmono : daysBeforeYear (yearOfDay day + 1) ≤ daysBeforeYear year :=
      daysBeforeYear_mono (by omega)
    omega

/-- A day lies in a supported year exactly if it is one of these, counted from the epoch. The
bounds are the first day of the first year and the last day of the last one. -/
theorem Date.isSupported_ofEpochDay_iff (day : Int) :
    (Date.ofEpochDay day).isSupported ↔ -96465292 ≤ day ∧ day ≤ 95026236 := by
  have hfirst : firstYear ≤ yearOfDay (day + epoch) ↔ -95746130 ≤ day + epoch := le_yearOfDay_iff
  have hnext : lastYear + 1 ≤ yearOfDay (day + epoch) ↔ 95745399 ≤ day + epoch := le_yearOfDay_iff
  have hyear : (Date.ofEpochDay day).year = yearOfDay (day + epoch) := rfl
  simp only [isSupported, hyear, Bool.and_eq_true, decide_eq_true_eq]
  simp only [firstYear, lastYear, epoch] at hfirst hnext ⊢
  omega

namespace Instant

/-- The first millisecond of the supported years, counted from the epoch. -/
def firstMillis : Int := -8334601228800000

/-- The last millisecond of the supported years that is in no leap second. -/
def lastMillis : Int := 8210266876799999

/-- Milliseconds are an instant exactly if they lie in the supported years. There is nothing else
that could be wrong with them. -/
theorem exists_ofMillis?_iff {millis : Int} :
    (∃ instant, ofMillis? millis = some instant) ↔
      firstMillis ≤ millis ∧ millis ≤ lastMillis := by
  have hvalid := (Date.ofEpochDay_spec (millis / 86400000)).1
  have hclock : (Clock.ofMillis (millis % 86400000).toNat).IsSettled := by
    simp only [Clock.IsSettled, Clock.ofMillis]
    omega
  -- The date and the time of day exist, so only the year counts.
  have hday : (Date.ofEpochDay (millis / 86400000)).isSupported ↔
      firstMillis ≤ millis ∧ millis ≤ lastMillis := by
    rw [Date.isSupported_ofEpochDay_iff, firstMillis, lastMillis]
    omega
  rw [← hday, ofMillis?, of?]
  constructor
  · rintro ⟨instant, h⟩
    split at h
    · rename_i hall
      exact hall.2.1
    · cases h
  · intro hsupported
    exact ⟨_, dif_pos ⟨hvalid, hsupported, hclock⟩⟩

/-- The day of an instant is a supported one, since an instant carries that its date is. -/
theorem epochDay_bounds (instant : Instant) :
    -96465292 ≤ instant.date.epochDay ∧ instant.date.epochDay ≤ 95026236 := by
  rw [← Date.isSupported_ofEpochDay_iff, Date.ofEpochDay_epochDay instant.date_valid]
  exact instant.date_supported

/-- No instant comes before the first millisecond. No leap second comes there, either. -/
theorem firstMillis_le_millis (instant : Instant) : firstMillis ≤ instant.millis := by
  have hday := instant.epochDay_bounds.1
  rw [firstMillis, millis]
  omega

/-- A leap second is a second behind the last millisecond at most. It is the only way to be behind
it. -/
theorem millis_le (instant : Instant) : instant.millis ≤ lastMillis + 1000 := by
  have hday := instant.epochDay_bounds.2
  obtain ⟨hhour, hminute, hsecond, hmillisecond⟩ := instant.clock_settled
  rw [lastMillis, millis, Clock.millis]
  omega

/-- The milliseconds of an instant are told exactly by a binary number: they have fewer than 53
bits. So a literal loses nothing on its way through a number. -/
theorem wholePart_millis (instant : Instant) :
    (Float.ofInt instant.millis).isFinite = true ∧
      wholePart (Float.ofInt instant.millis) = instant.millis := by
  have hfirst := instant.firstMillis_le_millis
  have hlast := instant.millis_le
  refine wholePart_ofInt ?_
  rw [firstMillis] at hfirst
  rw [lastMillis] at hlast
  omega

end Instant

/-! ### Stored forms -/

namespace Snapshot

variable {snapshot : Snapshot}

/-- The milliseconds of a stored form, if it has any, lie in the supported years. A stored form
without milliseconds is in range. -/
def InRange (snapshot : Snapshot) : Prop :=
  ∀ millis, snapshot.millis = .ok (some millis) →
    Instant.firstMillis ≤ wholePart millis ∧ wholePart millis ≤ Instant.lastMillis

/-- The check of a stored form has nothing to say exactly if it is converted. This is what the
check is for. -/
def Agrees (snapshot : Snapshot) : Prop :=
  snapshot.complaint = "" ↔ ∃ instant?, snapshot.toInstant = .ok instant?

/-- Every message says something, so an empty one means that there is no error. -/
theorem message_ne_empty (error : InvalidTimestamp) : error.message ≠ "" := by
  intro h
  have hlength := congrArg (fun s : String => s.toList.length) h
  simp [InvalidTimestamp.message] at hlength

/-- Nothing is said about a stored form exactly if its milliseconds are told. The check stops
there, and does not look at the years. -/
theorem complaint_eq_empty_iff :
    snapshot.complaint = "" ↔ ∃ millis?, snapshot.millis = .ok millis? := by
  unfold complaint
  cases snapshot.millis with
  | error error => simpa using message_ne_empty error
  | ok millis? => simp

/-- A stored form is converted exactly if its milliseconds are told and lie in the supported
years. The second condition is what the check does not ask for. -/
theorem exists_toInstant_iff :
    (∃ instant?, snapshot.toInstant = .ok instant?) ↔
      snapshot.complaint = "" ∧ snapshot.InRange := by
  rw [complaint_eq_empty_iff, InRange]
  unfold toInstant
  -- What cannot be read has a complaint, and what is missing gives no instant and none is asked
  -- for.
  cases snapshot.millis with
  | error error => simp
  | ok millis? =>
    cases millis? with
    | none => simp
    | some millis =>
      have hinstant := @Instant.exists_ofMillis?_iff (wholePart millis)
      cases hcount : Instant.ofMillis? (wholePart millis) with
      | none =>
        rw [hcount] at hinstant
        simpa [hcount] using hinstant
      | some instant =>
        rw [hcount] at hinstant
        simpa [hcount] using hinstant

/-- The milliseconds of a literal are those of its instant. They are finite, so they are told. -/
theorem millis_literal {s : String} {instant : Instant} (hnumeric : isNumericText s.toList = false)
    (hliteral : literal? s = some instant) :
    (text s).millis = .ok (some (Float.ofInt instant.millis)) := by
  have hread : (text s).readMillis? = some (Float.ofInt instant.millis) := by
    simp [readMillis?, hnumeric, hliteral]
  unfold millis
  simp only [hread]
  rw [if_pos instant.wholePart_millis.1]

/-- A literal is in range unless its instant is in a leap second behind the last supported year.
The instant itself is of a supported year. -/
theorem inRange_literal_iff {s : String} {instant : Instant}
    (hnumeric : isNumericText s.toList = false) (hliteral : literal? s = some instant) :
    (text s).InRange ↔ instant.millis ≤ Instant.lastMillis := by
  have hwhole := instant.wholePart_millis.2
  have hfirst := instant.firstMillis_le_millis
  -- An instant is never before the first millisecond, so only the last one is left to compare.
  rw [InRange, millis_literal hnumeric hliteral]
  constructor
  · intro h
    have hlast := (h _ rfl).2
    rwa [hwhole] at hlast
  · rintro hlast _ ⟨⟩
    rw [hwhole]
    exact ⟨hfirst, hlast⟩

/-- A stored form is converted exactly if the check has nothing to say and the whole milliseconds,
if it has any, lie in the supported years. So the check and the conversion agree exactly about the
stored forms that have no milliseconds or have them in this range. Literals are among these, unless
they are in a leap second behind the last supported year, and so are null and all texts that are
neither numbers nor literals. -/
theorem agrees_iff (snapshot : Snapshot) :
    ((∃ instant?, snapshot.toInstant = .ok instant?) ↔
      snapshot.complaint = "" ∧ snapshot.InRange) ∧
    (snapshot.Agrees ↔ snapshot.InRange) ∧
    (∀ s instant, snapshot = .text s → isNumericText s.toList = false →
      literal? s = some instant → (snapshot.Agrees ↔ instant.millis ≤ Instant.lastMillis)) ∧
    (snapshot.readMillis? = none → snapshot.Agrees) := by
  -- Without a complaint the number could be read, so all that is left is whether it is in range.
  have hagrees : ∀ {snapshot : Snapshot}, snapshot.Agrees ↔ snapshot.InRange := by
    intro snapshot
    rw [Agrees, exists_toInstant_iff]
    constructor
    · intro h millis hmillis
      exact (h.1 (complaint_eq_empty_iff.2 ⟨_, hmillis⟩)).2 millis hmillis
    · intro h
      exact ⟨fun hsilent => ⟨hsilent, h⟩, And.left⟩
  refine ⟨exists_toInstant_iff, hagrees, ?_, ?_⟩
  · rintro s instant rfl hnumeric hliteral
    rw [hagrees]
    exact inRange_literal_iff hnumeric hliteral
  · intro hnone
    rw [hagrees]
    intro millis hmillis
    cases snapshot <;> simp [Snapshot.millis, hnone] at hmillis

/-- Ten million million seconds pass the check, though no supported year has them. So a silent
check does not promise an instant. -/
theorem seconds_not_agrees :
    (seconds 10000000000000).complaint = "" ∧
      (∀ instant?, (seconds 10000000000000).toInstant ≠ .ok instant?) ∧
      ¬ (seconds 10000000000000).Agrees := by
  have hfinite : (10000000000000 * 1000 : Float).isFinite = true := by decide
  have hmillis : (seconds 10000000000000).millis = .ok (some (10000000000000 * 1000)) := by
    simp [millis, readMillis?, hfinite]
  have hsilent : (seconds 10000000000000).complaint = "" :=
    complaint_eq_empty_iff.2 ⟨_, hmillis⟩
  have houtside : ¬ (seconds 10000000000000).InRange :=
    fun h => absurd (h _ hmillis).2 (by decide)
  obtain ⟨hconverted, hagrees, -⟩ := agrees_iff (seconds 10000000000000)
  refine ⟨hsilent, fun instant? hinstant => ?_, fun h => houtside (hagrees.1 h)⟩
  exact houtside (hconverted.1 ⟨instant?, hinstant⟩).2

end Snapshot

end StateTree.Time
