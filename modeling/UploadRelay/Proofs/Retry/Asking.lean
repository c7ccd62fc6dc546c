import UploadRelay.Proofs.Calendar.Range
import UploadRelay.Proofs.Number.Nearest
import UploadRelay.Retry.After
-- What a backend can ask for. Numbers and dates with a zone are heard and everything that is neither
-- counts as nothing; what fails is exactly a date without a zone, and parts of a date that do not fit
-- into the words they are kept in.

namespace UploadRelay.Retry

open Calendar

structure Dated (value : Text) (w : Written) : Prop where
  unnumbered : Decimal.read? value = none
  written : readDate? value = some w

def Near (zone : Option Int) : Prop := ∀ offset, zone = some offset → -86400 < offset ∧ offset < 86400

def Far (zone : Option Int) : Prop :=
  ∃ offset, zone = some offset ∧ (offset / 86400 < -999999999 ∨ 999999999 < offset / 86400)

def parts (w : Written) : List Int := [w.year, w.day, w.hour, w.minute, w.second]

def Long (w : Written) : Prop := ∃ part ∈ parts w, part < -2147483648 ∨ 2147483647 < part

structure Tells (value : Text) (zone : Option Int) (d : Date) (t : Time) : Prop where
  dated : ∃ w, Dated value w ∧ w.zone = zone ∧ moment? w = some (d, t)
  near : Near zone

-- The values that nothing is made of, with the class of the fault that comes of them.
inductive Unheard (value : Text) : Text → Prop where
  | zoneless {d : Date} {t : Time} (tells : Tells value none d t) : Unheard value "TypeError"
  | far {w : Written} (dated : Dated value w) (far : Far w.zone) : Unheard value "OverflowError"
  | long {w : Written} (dated : Dated value w) (near : Near w.zone) (long : Long w) : Unheard value "OverflowError"

theorem wordFault?_eq_none_iff (n : Int) : wordFault? n = none ↔ -2147483648 ≤ n ∧ n ≤ 2147483647 := by
  unfold wordFault? wordLimit
  grind

theorem written_wordFault?_eq_none_iff (w : Written) : Written.wordFault? w = none ↔ ¬ Long w := by
  unfold Written.wordFault? Long parts
  simp only [List.findSome?_eq_none_iff, wordFault?_eq_none_iff, not_exists, not_and, not_or, Int.not_lt]

theorem moment?_some {w : Written} {d : Date} {t : Time} (known : moment? w = some (d, t)) :
    d.isValid = true ∧ t.isValid = true ∧ ¬ Long w := by
  unfold moment? at known
  split at known
  case isFalse => cases known
  case isTrue natural =>
    simp only [Bool.and_eq_true] at known
    split at known
    case isFalse => cases known
    case isTrue valid =>
      cases known
      refine ⟨valid.1, valid.2, ?_⟩
      obtain ⟨date, time⟩ := valid
      simp only [Date.isValid, Time.isValid, Bool.and_eq_true, decide_eq_true_eq] at date time
      have days := monthLength_le w.year.toNat w.month
      simp only [Long, parts, List.mem_cons, List.not_mem_nil, or_false]
      rintro ⟨part, rfl | rfl | rfl | rfl | rfl, size⟩ <;> omega

inductive Zoned : Option Int → ZoneCheck → Prop where
  | usable {zone : Option Int} (near : Near zone) : Zoned zone .usable
  | refused {zone : Option Int} (aside : ¬ Near zone) (within : ¬ Far zone) : Zoned zone .refused
  | tooLarge {zone : Option Int} (far : Far zone) (reason : Text) : Zoned zone (.tooLarge reason)

theorem Far.not_near {zone : Option Int} (far : Far zone) : ¬ Near zone := by
  intro near
  obtain ⟨offset, rfl, size⟩ := far
  have bounds := near offset rfl
  omega

theorem checkZone_zoned (offset : Int) : Zoned (some offset) (checkZone offset) := by
  have known : ∀ other, some offset = some other → other = offset := fun other same => (Option.some.inj same).symm
  unfold checkZone wordLimit
  simp only
  split
  case isTrue beyond => exact .tooLarge ⟨offset, rfl, by omega⟩ _
  case isFalse fits =>
    split
    case isTrue beyond => exact .tooLarge ⟨offset, rfl, by omega⟩ _
    case isFalse within =>
      split
      case isTrue aside =>
        refine .refused (fun near => ?_) ?_
        · have bounds := near offset rfl
          omega
        · rintro ⟨other, same, far⟩
          cases known other same
          omega
      case isFalse close =>
        refine .usable fun other same => ?_
        cases known other same
        omega

def distance (now : Moment) (d : Date) (t : Time) (offset : Int) : ℚ :=
  max 0 (((unixSeconds d t - offset) * 1000000 - now.millionths : Int) / 10 ^ 6)

-- A number of seconds that is nearest to the distance, and the distance itself when that is whole.
structure Counts (now : Moment) (d : Date) (t : Time) (offset : Int) (x : Double) : Prop where
  finite : x.isFinite = true
  nearest : x.Nearest (distance now d t offset)
  whole : ∀ n : Int, distance now d t offset = n → x.exactly = n

variable {now : Moment} {d : Date} {t : Time}

theorem secondsOf_nearest {n : Int} (small : n < 2 ^ 64) :
    (secondsOf n).isFinite = true ∧ (secondsOf n).Nearest (max 0 (n / 10 ^ 6)) := by
  have value : max 0 ((n : ℚ) / 10 ^ 6) = (n.toNat : ℚ) / 10 ^ 6 := by
    rcases le_total 0 n with ahead | past
    · have positive : (0 : ℚ) ≤ n := by exact_mod_cast ahead
      have same : ((n.toNat : ℕ) : ℚ) = n := by exact_mod_cast Int.toNat_of_nonneg ahead
      rw [same, max_eq_right (by positivity)]
    · have negative : (n : ℚ) ≤ 0 := by exact_mod_cast past
      rw [Int.toNat_of_nonpos past, Nat.cast_zero, zero_div, max_eq_left (div_nonpos_of_nonpos_of_nonneg negative (by norm_num))]
  rw [value]
  exact Double.ofDecimal_millionths (by omega)

theorem seconds_counts (present : Present now) (date : d.isValid = true) (time : t.isValid = true) {offset : Int}
    (near : -86400 < offset ∧ offset < 86400) :
    Counts now d t offset (secondsOf ((unixSeconds d t - offset) * 1000000 - now.millionths)) := by
  obtain ⟨today, clock, date', time', same⟩ := present
  -- Both times are of the calendar, so that their distance has far less than 53 bits.
  have bounds := unixSeconds_bounds date time
  have bounds' := unixSeconds_bounds date' time'
  obtain ⟨finite, nearest⟩ := secondsOf_nearest (n := (unixSeconds d t - offset) * 1000000 - now.millionths) (by omega)
  refine ⟨finite, nearest, fun n whole => ?_⟩
  have size : n.natAbs < 2 ^ 53 := by
    unfold distance at whole
    generalize gap : (unixSeconds d t - offset) * 1000000 - now.millionths = g at whole
    have least : (0 : ℚ) ≤ n := whole ▸ le_max_left _ _
    have most : (n : ℚ) ≤ 10 ^ 12 := by
      rw [← whole]
      refine max_le (by norm_num) ((div_le_iff₀ (by norm_num)).mpr ?_)
      have bound : g ≤ 10 ^ 18 := by omega
      calc (g : ℚ) ≤ 10 ^ 18 := by exact_mod_cast bound
        _ = 10 ^ 12 * 10 ^ 6 := by norm_num
    have least' : 0 ≤ n := by exact_mod_cast least
    have most' : n ≤ 10 ^ 12 := by exact_mod_cast most
    omega
  obtain ⟨y, -, known, value⟩ := Double.ofInt?_exact size
  exact (nearest.exact known (value.trans whole.symm)).trans whole

inductive Until (now : Moment) (w : Written) : Except Fault (Option Double) → Prop where
  | far (far : Far w.zone) (reason : Text) : Until now w (.error (.other "OverflowError" [.str reason]))
  | refused (aside : ¬ Near w.zone) (within : ¬ Far w.zone) : Until now w (.ok none)
  | long (near : Near w.zone) (long : Long w) (reason : Text) : Until now w (.error (.other "OverflowError" [.str reason]))
  | unknown (near : Near w.zone) (short : ¬ Long w) (untold : moment? w = none) : Until now w (.ok none)
  | zoneless {d : Date} {t : Time} (unzoned : w.zone = none) (moment : moment? w = some (d, t)) (reason : Text) :
      Until now w (.error (.type reason))
  | zoned {d : Date} {t : Time} {offset : Int} {x : Double} (zone : w.zone = some offset) (near : Near w.zone)
      (moment : moment? w = some (d, t)) (counts : Counts now d t offset x) :
      Until now w (.ok (some x))

theorem zoneCheck_zoned (zone : Option Int) : Zoned zone (zoneCheck zone) := by
  cases zone with
  | none => exact .usable fun offset same => nomatch same
  | some offset => exact checkZone_zoned offset

theorem untilDate_until (present : Present now) (w : Written) : Until now w (untilDate now w) := by
  have zoned := zoneCheck_zoned w.zone
  unfold untilDate
  generalize zoneCheck w.zone = check at zoned
  -- The zone is checked before the parts, and these before the calendar.
  cases zoned with
  | tooLarge far reason => exact .far far reason
  | refused aside within => exact .refused aside within
  | usable near =>
    simp only
    cases fits : Written.wordFault? w with
    | some reason =>
      have long : Long w := by
        by_contra short
        rw [(written_wordFault?_eq_none_iff w).mpr short] at fits
        cases fits
      exact .long near long reason
    | none =>
      cases moment : moment? w with
      | none => exact .unknown near ((written_wordFault?_eq_none_iff w).mp fits) moment
      | some told =>
        obtain ⟨d, t⟩ := told
        obtain ⟨date, time, -⟩ := moment?_some moment
        cases zone : w.zone with
        | none => exact .zoneless zone moment _
        | some offset =>
          exact .zoned zone near moment (seconds_counts present date time (near offset zone))

variable {value : Text} {w : Written} {result : Except Fault (Option Double)}

theorem secondsAsked_dated (dated : Dated value w) (now : Moment) :
    secondsAsked now value = untilDate now w := by
  rw [secondsAsked, dated.unnumbered, dated.written]

theorem zoneless_near : Near none := fun _ same => nomatch same

structure Heard (now : Moment) (value : Text) : Prop where
  fails : ∀ label, (∃ fault, secondsAsked now value = .error fault ∧ fault.label = label) ↔ Unheard value label
  number : ∀ seconds, Decimal.read? value = some seconds → secondsAsked now value = .ok (some seconds)
  date : ∀ offset d t, Tells value (some offset) d t → ∃ x, secondsAsked now value = .ok (some x) ∧ Counts now d t offset x
  nothing : Decimal.read? value = none → (∀ zone d t, ¬ Tells value zone d t) → (∀ label, ¬ Unheard value label) →
    secondsAsked now value = .ok none

theorem unheard_of_fails (present : Present now) {fault : Fault} (fails : secondsAsked now value = .error fault) :
    Unheard value fault.label := by
  unfold secondsAsked at fails
  split at fails
  case h_1 => cases fails
  case h_2 unnumbered =>
    split at fails
    case h_1 => cases fails
    case h_2 w written =>
      have dated : Dated value w := ⟨unnumbered, written⟩
      have known := untilDate_until present w
      rw [fails] at known
      cases known with
      | far far reason => exact .far dated far
      | long near long reason => exact .long dated near long
      | zoneless unzoned moment reason => exact .zoneless ⟨⟨w, dated, unzoned, moment⟩, zoneless_near⟩

theorem Until.far_fails (known : Until now w result) (far : Far w.zone) :
    ∃ fault, result = .error fault ∧ fault.label = "OverflowError" := by
  cases known with
  | far _ reason => exact ⟨_, rfl, rfl⟩
  | refused _ within => exact absurd far within
  | long near _ _ => exact absurd near far.not_near
  | unknown near _ _ => exact absurd near far.not_near
  | zoneless unzoned _ _ => exact absurd (unzoned ▸ zoneless_near) far.not_near
  | zoned _ near _ _ => exact absurd near far.not_near

theorem Until.long_fails (known : Until now w result) (near : Near w.zone) (long : Long w) :
    ∃ fault, result = .error fault ∧ fault.label = "OverflowError" := by
  cases known with
  | far far _ => exact absurd near far.not_near
  | refused aside _ => exact absurd near aside
  | long _ _ reason => exact ⟨_, rfl, rfl⟩
  | unknown _ short _ => exact absurd long short
  | zoneless _ moment _ => exact absurd long (moment?_some moment).2.2
  | zoned _ _ moment _ => exact absurd long (moment?_some moment).2.2

theorem Until.told (known : Until now w result) (near : Near w.zone) (moment : moment? w = some (d, t)) :
    (w.zone = none ∧ ∃ fault, result = .error fault ∧ fault.label = "TypeError") ∨
    (∃ offset x, w.zone = some offset ∧ result = .ok (some x) ∧ Counts now d t offset x) := by
  cases known with
  | far far _ => exact absurd near far.not_near
  | refused aside _ => exact absurd near aside
  | long _ long _ => exact absurd long (moment?_some moment).2.2
  | unknown _ _ untold => rw [untold] at moment; cases moment
  | zoneless unzoned _ reason => exact Or.inl ⟨unzoned, _, rfl, rfl⟩
  | zoned zone _ moment' counts =>
    cases moment.symm.trans moment'
    exact Or.inr ⟨_, _, zone, rfl, counts⟩

theorem fails_of_unheard (present : Present now) {label : Text} (unheard : Unheard value label) :
    ∃ fault, secondsAsked now value = .error fault ∧ fault.label = label := by
  cases unheard with
  | zoneless tells =>
    obtain ⟨w, dated, unzoned, moment⟩ := tells.dated
    rw [secondsAsked_dated dated]
    rcases (untilDate_until present w).told (unzoned ▸ tells.near) moment with ⟨-, fails⟩ | ⟨offset, x, zone, -⟩
    · exact fails
    · rw [unzoned] at zone
      cases zone
  | far dated far =>
    rw [secondsAsked_dated dated]
    exact (untilDate_until present _).far_fails far
  | long dated near long =>
    rw [secondsAsked_dated dated]
    exact (untilDate_until present _).long_fails near long

theorem secondsAsked_heard (present : Present now) (value : Text) : Heard now value := by
  refine ⟨fun label => ⟨?fails, fails_of_unheard present⟩, fun seconds known => ?number, fun offset d t tells => ?date,
    fun unnumbered untold unfailing => ?nothing⟩
  case fails =>
    rintro ⟨fault, fails, rfl⟩
    exact unheard_of_fails present fails
  case number => rw [secondsAsked, known]
  case date =>
    obtain ⟨w, dated, zone, moment⟩ := tells.dated
    rw [secondsAsked_dated dated]
    rcases (untilDate_until present w).told (zone ▸ tells.near) moment with ⟨unzoned, -⟩ | ⟨offset', x, zone', known⟩
    · rw [zone] at unzoned
      cases unzoned
    · cases zone.symm.trans zone'
      exact ⟨x, known⟩
  case nothing =>
    rw [secondsAsked, unnumbered]
    cases written : readDate? value with
    | none => rfl
    | some w =>
      have dated : Dated value w := ⟨unnumbered, written⟩
      have known := untilDate_until present w
      simp only
      cases result : untilDate now w with
      | error fault =>
        refine absurd (unheard_of_fails present ?_) (unfailing fault.label)
        rw [secondsAsked_dated dated, result]
      | ok seconds =>
        rw [result] at known
        cases known with
        | refused _ _ => rfl
        | unknown _ _ _ => rfl
        | zoned zone near moment _ => exact absurd ⟨⟨w, dated, rfl, moment⟩, near⟩ (untold _ _ _)

end UploadRelay.Retry
