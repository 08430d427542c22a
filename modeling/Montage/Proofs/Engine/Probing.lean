import Montage.Engine.Probe
import Montage.Proofs.Decimal.Overflow
import Montage.Proofs.Outcome
import Mathlib.Data.List.TakeWhile

/-!
# Descriptions from probes

The description of a probed file takes its picture from the first video stream,
its sound from the first audio stream, and its duration from the container or
else from the longest stream (`describes_of_metadataOf`). Durations are finite
and above zero. A frame rate is above zero, but it is infinite where the text
it is read from stands for a number that is too large (`endless_unusable`).
-/

namespace Montage.Probe

open Binary64 (isFinitePositive overflowUnits unitsPerOne)
open Decimal (IsNumeral)

/-! ## Durations -/

/-- A text that spells a finite number above zero. -/
def IsDuration (text : String) (duration : Binary64) : Prop :=
  Binary64.ofText? text = some duration ∧ duration.isFinite = true ∧ 0 < duration

theorem duration?_eq_some_iff {text : String} {duration : Binary64} :
    duration? text = some duration ↔ IsDuration text duration := by
  unfold duration? IsDuration
  rw [Option.filter_eq_some_iff, Binary64.isFinitePositive_iff]

theorem duration?_bind_eq_some_iff {text : Option String} {duration : Binary64} :
    text.bind duration? = some duration ↔ ∃ spelled ∈ text, IsDuration spelled duration := by
  simp [Option.bind_eq_some_iff, duration?_eq_some_iff]

/-- The duration that the container gives. -/
def Report.ContainerLasts (report : Report) (duration : Binary64) : Prop :=
  ∃ container ∈ report.container, ∃ text ∈ container.duration, IsDuration text duration

/-- The duration that a stream gives. -/
def Stream.Lasts (stream : Stream) (duration : Binary64) : Prop :=
  ∃ text ∈ stream.duration, IsDuration text duration

/-- The duration of the longest stream. -/
def Report.LongestLasts (report : Report) (duration : Binary64) : Prop :=
  (∃ stream ∈ report.streams, stream.Lasts duration) ∧
    ∀ stream ∈ report.streams, ∀ other, stream.Lasts other → other ≤ duration

/-! ## The largest of some numbers -/

variable {x y : Binary64}

theorem finite_le_iff {rank rank' : Fin Binary64.infinityRank} :
    Binary64.finite false rank ≤ .finite false rank' ↔ (rank.val : Int) ≤ rank'.val := by
  simp [Binary64.le_iff, Binary64.place]

theorem exists_rank (positive : x.isFinitePositive = true) :
    ∃ rank, x = .finite false rank := by
  obtain ⟨finite, above⟩ := Binary64.isFinitePositive_iff.mp positive
  obtain rfl | ⟨rank, -, rfl⟩ := Binary64.zero_lt_iff.mp above
  · cases finite
  · exact ⟨rank, rfl⟩

/-- The larger one of two numbers is one of them, and not below the other. -/
theorem larger_cases (positive : x.isFinitePositive = true)
    (positive' : y.isFinitePositive = true) :
    (x.larger y = x ∧ y ≤ x) ∨ (x.larger y = y ∧ x ≤ y) := by
  obtain ⟨rank, rfl⟩ := exists_rank positive
  obtain ⟨rank', rfl⟩ := exists_rank positive'
  have larger : (Binary64.finite false rank).larger (.finite false rank') =
      if ((rank.val : Int) < rank'.val) then .finite false rank' else .finite false rank := rfl
  rw [larger, finite_le_iff, finite_le_iff]
  split
  · exact .inr ⟨rfl, by omega⟩
  · exact .inl ⟨rfl, by omega⟩

theorem le_antisymm (positive : x.isFinitePositive = true) (positive' : y.isFinitePositive = true)
    (below : x ≤ y) (above : y ≤ x) : x = y := by
  obtain ⟨rank, rfl⟩ := exists_rank positive
  obtain ⟨rank', rfl⟩ := exists_rank positive'
  rw [finite_le_iff] at below above
  have same : rank = rank' := Fin.ext (by omega)
  rw [same]

theorem foldl_larger (rest : List Binary64) (first : Binary64)
    (positive : ∀ number ∈ first :: rest, number.isFinitePositive = true) :
    rest.foldl Binary64.larger first ∈ first :: rest ∧
      ∀ number ∈ first :: rest, number ≤ rest.foldl Binary64.larger first := by
  induction rest generalizing first with
  | nil =>
      obtain ⟨rank, rfl⟩ := exists_rank (positive first List.mem_cons_self)
      simp [finite_le_iff]
  | cons second rest ih =>
      simp only [List.forall_mem_cons] at positive
      obtain ⟨first_, second_, rest_⟩ := positive
      -- one of the two is dropped, and it is not above the one that stays
      rcases larger_cases first_ second_ with ⟨equal, least⟩ | ⟨equal, least⟩
      · obtain ⟨member, largest⟩ := ih first (List.forall_mem_cons.mpr ⟨first_, rest_⟩)
        rw [List.foldl_cons, equal, List.forall_mem_cons, List.forall_mem_cons]
        rw [List.forall_mem_cons] at largest
        rw [List.mem_cons] at member
        exact ⟨List.mem_cons.mpr (member.imp_right (List.mem_cons_of_mem second)), largest.1,
          Binary64.le_trans least largest.1, largest.2⟩
      · obtain ⟨member, largest⟩ := ih second (List.forall_mem_cons.mpr ⟨second_, rest_⟩)
        rw [List.foldl_cons, equal, List.forall_mem_cons]
        exact ⟨List.mem_cons_of_mem first member,
          Binary64.le_trans least (largest second List.mem_cons_self), largest⟩

/-- The largest of some finite numbers above zero. -/
theorem largest?_eq_some_iff {numbers : List Binary64}
    (positive : ∀ number ∈ numbers, number.isFinitePositive = true) :
    largest? numbers = some x ↔ x ∈ numbers ∧ ∀ number ∈ numbers, number ≤ x := by
  cases numbers with
  | nil => simp [largest?]
  | cons first rest =>
      obtain ⟨member, largest⟩ := foldl_larger rest first positive
      rw [largest?, Option.some.injEq]
      constructor
      · rintro rfl
        exact ⟨member, largest⟩
      · rintro ⟨member', largest'⟩
        exact le_antisymm (positive _ member) (positive _ member') (largest' _ member)
          (largest _ member')

/-! ## Frame rates -/

/-- A text that is no fraction and spells a number. -/
def IsNumber (text : String) (number : Binary64) : Prop :=
  '/' ∉ text.toList ∧ Binary64.ofText? text = some number

/-- Two numbers and the first slash of a text between them. -/
def IsFraction (text : String) (n d : Binary64) : Prop :=
  ∃ upper lower, '/' ∉ upper.toList ∧ text = upper ++ "/" ++ lower ∧
    Binary64.ofText? upper = some n ∧ Binary64.ofText? lower = some d

/-- A text that spells a rate above zero: a number, or a fraction of which the
denominator is above zero. -/
def IsRate (text : String) (rate : Binary64) : Prop :=
  0 < rate ∧ (IsNumber text rate ∨ ∃ n d, IsFraction text n d ∧ 0 < d ∧ rate = n / d)

/-- What makes a text that spells a rate above zero spell one too large for a
double: it is infinity, or a fraction of which the numerator is infinite or the
quotient overflows. -/
def Overflows (text : String) : Prop :=
  IsNumber text (.infinite false) ∨
    ∃ n d, IsFraction text n d ∧
      (n = .infinite false ∨ overflowUnits * d.magnitude ≤ n.magnitude * unitsPerOne)

theorem rate?_number {text : String} (plain : '/' ∉ text.toList) :
    rate? text = (Binary64.ofText? text).filter fun rate => decide (0 < rate) := by
  have front : ∀ c ∈ text.toList, decide (c ≠ '/') = true := by
    intro c member
    exact decide_eq_true fun slash => plain (slash ▸ member)
  unfold rate?
  dsimp only
  rw [List.dropWhile_eq_nil_iff.2 front]

/-- The parts that a text is taken apart into at its first slash. -/
theorem fraction_parts {upper : String} (lower : String) (plain : '/' ∉ upper.toList) :
    (upper ++ "/" ++ lower).toList.takeWhile (fun c => decide (c ≠ '/')) = upper.toList ∧
      (upper ++ "/" ++ lower).toList.dropWhile (fun c => decide (c ≠ '/')) =
        '/' :: lower.toList := by
  have front : ∀ c ∈ upper.toList, decide (c ≠ '/') = true := by
    intro c member
    exact decide_eq_true fun slash => plain (slash ▸ member)
  have chars : (upper ++ "/" ++ lower).toList = upper.toList ++ '/' :: lower.toList := by simp
  rw [chars, List.takeWhile_append_of_pos front, List.dropWhile_append_of_pos front]
  simp

theorem rate?_fraction {upper lower : String} (plain : '/' ∉ upper.toList) :
    rate? (upper ++ "/" ++ lower) =
      ((Binary64.ofText? upper).bind fun n => (Binary64.ofText? lower).bind fun d =>
        if 0 < d then some (n / d) else none).filter fun rate => decide (0 < rate) := by
  obtain ⟨before, after⟩ := fraction_parts lower plain
  unfold rate?
  dsimp only
  rw [before, after]
  dsimp only
  rw [String.ofList_toList, String.ofList_toList]
  cases Binary64.ofText? upper <;> cases Binary64.ofText? lower <;> rfl

/-- What stands before the first slash and what stands after it. -/
theorem slash_cases (text : String) :
    '/' ∉ text.toList ∨ ∃ upper lower, '/' ∉ upper.toList ∧ text = upper ++ "/" ++ lower := by
  by_cases slash : '/' ∈ text.toList
  · obtain ⟨upper, lower, split, plain⟩ := List.eq_append_cons_of_mem slash
    refine .inr ⟨String.ofList upper, String.ofList lower, by simpa using plain, ?_⟩
    rw [← String.toList_inj]
    simpa using split
  · exact .inl slash

/-- A rate is read from the texts that spell it and from nothing else. -/
theorem rate?_eq_some_iff {text : String} {rate : Binary64} :
    rate? text = some rate ↔ IsRate text rate := by
  constructor
  · intro read
    rcases slash_cases text with plain | ⟨upper, lower, plain, rfl⟩
    · rw [rate?_number plain, Option.filter_eq_some_iff] at read
      exact ⟨of_decide_eq_true read.2, .inl ⟨plain, read.1⟩⟩
    · rw [rate?_fraction plain, Option.filter_eq_some_iff] at read
      obtain ⟨read, above⟩ := read
      obtain ⟨n, upperRead, read⟩ := Option.bind_eq_some_iff.mp read
      obtain ⟨d, lowerRead, read⟩ := Option.bind_eq_some_iff.mp read
      obtain ⟨positive, equal⟩ := Option.ite_none_right_eq_some.mp read
      have fraction : IsFraction (upper ++ "/" ++ lower) n d :=
        ⟨upper, lower, plain, rfl, upperRead, lowerRead⟩
      exact ⟨of_decide_eq_true above,
        .inr ⟨n, d, fraction, positive, (Option.some.inj equal).symm⟩⟩
  · rintro ⟨above, ⟨plain, read⟩ | ⟨n, d, ⟨upper, lower, plain, rfl, read, read'⟩, positive, rfl⟩⟩
    · rw [rate?_number plain, Option.filter_eq_some_iff]
      exact ⟨read, decide_eq_true above⟩
    · rw [rate?_fraction plain, Option.filter_eq_some_iff, read, read', Option.bind_some,
        Option.bind_some, if_pos positive]
      exact ⟨rfl, decide_eq_true above⟩

/-- A fraction is split at its first slash, so in one way only. -/
theorem IsFraction.unique {text : String} {n d n' d' : Binary64} (fraction : IsFraction text n d)
    (fraction' : IsFraction text n' d') : n = n' ∧ d = d' := by
  obtain ⟨upper, lower, plain, rfl, read, read'⟩ := fraction
  obtain ⟨upper', lower', plain', equal, readAgain, readAgain'⟩ := fraction'
  obtain ⟨before, after⟩ := fraction_parts lower plain
  obtain ⟨before', after'⟩ := fraction_parts lower' plain'
  rw [equal] at before after
  obtain rfl := String.toList_inj.mp (before.symm.trans before')
  obtain rfl := String.toList_inj.mp (List.cons.inj (after.symm.trans after')).2
  exact ⟨Option.some.inj (read.symm.trans readAgain), Option.some.inj (read'.symm.trans readAgain')⟩

theorem IsFraction.slash {text : String} {n d : Binary64} (fraction : IsFraction text n d) :
    '/' ∈ text.toList := by
  obtain ⟨upper, lower, -, rfl, -, -⟩ := fraction
  simp

theorem not_zero_lt_nan : ¬(0 : Binary64) < .nan := by decide +kernel

/-- A quotient above zero is infinite if its numerator is, or if its exact value
overflows. -/
theorem isFinite_quotient_iff {n d : Binary64} (positive : 0 < d) (above : 0 < n / d) :
    (n / d).isFinite = true ↔
      ¬(n = .infinite false ∨ overflowUnits * d.magnitude ≤ n.magnitude * unitsPerOne) := by
  obtain rfl | ⟨rank, some_, rfl⟩ := Binary64.zero_lt_iff.mp positive
  · -- nothing is above zero that is divided by infinity
    cases n with
    | nan => exact absurd above not_zero_lt_nan
    | infinite negative => exact absurd above not_zero_lt_nan
    | finite negative rank' =>
        have none : Binary64.finite negative rank' / .infinite false = .zero (negative != false) :=
          rfl
        rw [none] at above
        exact absurd above (by cases negative <;> decide +kernel)
  · cases n with
    | nan => exact absurd above not_zero_lt_nan
    | infinite negative =>
        cases negative with
        | false => exact iff_of_false Bool.false_ne_true fun finite => finite (.inl rfl)
        | true =>
            have none : Binary64.infinite true / .finite false rank = .infinite true := rfl
            rw [none] at above
            exact absurd above (by decide +kernel)
    | finite negative rank' =>
        have some_ : (Binary64.finite false rank).magnitude ≠ 0 := Binary64.units_ne_zero some_
        rw [Binary64.isFinite_div_iff rfl rfl some_, or_iff_right nofun, Nat.not_le]

/-- A rate above zero is infinite only if its text stands for one that is too
large. -/
theorem IsRate.isFinite_iff {text : String} {rate : Binary64} (spelled : IsRate text rate) :
    rate.isFinite = true ↔ ¬Overflows text := by
  obtain ⟨above, ⟨plain, read⟩ | ⟨n, d, fraction, positive, rfl⟩⟩ := spelled
  · have whole : Overflows text ↔ rate = .infinite false := by
      constructor
      · rintro (⟨-, read'⟩ | ⟨n, d, fraction, -⟩)
        · exact Option.some.inj (read.symm.trans read')
        · exact absurd fraction.slash plain
      · rintro rfl
        exact .inl ⟨plain, read⟩
    rw [whole]
    obtain rfl | ⟨rank, -, rfl⟩ := Binary64.zero_lt_iff.mp above <;> simp [Binary64.isFinite]
  · have parted : Overflows text ↔ n = .infinite false ∨
        overflowUnits * d.magnitude ≤ n.magnitude * unitsPerOne := by
      constructor
      · rintro (⟨plain, -⟩ | ⟨n', d', fraction', large⟩)
        · exact absurd fraction.slash plain
        · obtain ⟨rfl, rfl⟩ := fraction.unique fraction'
          exact large
      · exact fun large => .inr ⟨n, d, fraction, large⟩
    rw [parted]
    exact isFinite_quotient_iff positive above

/-! ## Streams -/

/-- The first stream of a kind. -/
def Report.First (report : Report) (kind : String) (stream : Stream) : Prop :=
  ∃ earlier later, report.streams = earlier ++ stream :: later ∧ stream.kind = kind ∧
    ∀ other ∈ earlier, other.kind ≠ kind

theorem stream?_eq_some_iff {report : Report} {kind : MediaKind} {stream : Stream} :
    report.stream? kind = some stream ↔ report.First kind.name stream := by
  unfold Report.stream? Report.First
  rw [List.find?_eq_some_iff_append]
  constructor
  · rintro ⟨fits, earlier, later, split, others⟩
    exact ⟨earlier, later, split, eq_of_beq fits, fun other member => by
      simpa using others other member⟩
  · rintro ⟨earlier, later, split, fits, others⟩
    exact ⟨beq_iff_eq.mpr fits, earlier, later, split, fun other member => by
      simpa using others other member⟩

theorem stream?_eq_none_iff {report : Report} {kind : MediaKind} :
    report.stream? kind = none ↔ ∀ stream ∈ report.streams, stream.kind ≠ kind.name := by
  simp [Report.stream?]

/-- The rate of a stream and the text it is read from: that of the average rate
if this spells a rate above zero, or else that of the base rate. -/
def Stream.Runs (stream : Stream) (text : String) (rate : Binary64) : Prop :=
  IsRate text rate ∧ (text ∈ stream.averageRate ∨
    text ∈ stream.baseRate ∧ ∀ average ∈ stream.averageRate, ∀ other, ¬IsRate average other)

theorem stream_rate?_eq_some_iff {stream : Stream} {rate : Binary64} :
    stream.rate? = some rate ↔ ∃ text, stream.Runs text rate := by
  have average : ∀ rate, stream.averageRate.bind Probe.rate? = some rate ↔
      ∃ text ∈ stream.averageRate, IsRate text rate := by
    simp [Option.bind_eq_some_iff, rate?_eq_some_iff]
  have base : ∀ rate, stream.baseRate.bind Probe.rate? = some rate ↔
      ∃ text ∈ stream.baseRate, IsRate text rate := by
    simp [Option.bind_eq_some_iff, rate?_eq_some_iff]
  unfold Stream.rate? Stream.Runs
  rw [Option.or_eq_some_iff, average, base, Option.eq_none_iff_forall_ne_some]
  constructor
  · rintro (⟨text, member, spelled⟩ | ⟨none, text, member, spelled⟩)
    · exact ⟨text, spelled, .inl member⟩
    · refine ⟨text, spelled, .inr ⟨member, fun other member' rate' spelled' => ?_⟩⟩
      exact none rate' ((average rate').mpr ⟨other, member', spelled'⟩)
  · rintro ⟨text, spelled, member | ⟨member, none⟩⟩
    · exact .inl ⟨text, member, spelled⟩
    · refine .inr ⟨fun rate' read => ?_, text, member, spelled⟩
      obtain ⟨other, member', spelled'⟩ := (average rate').mp read
      exact none other member' rate' spelled'

theorem Stream.Runs.unique {stream : Stream} {text text' : String} {rate rate' : Binary64}
    (runs : stream.Runs text rate) (runs' : stream.Runs text' rate') : text = text' := by
  obtain ⟨spelled, here | ⟨here, none⟩⟩ := runs
  · obtain ⟨-, there | ⟨-, none'⟩⟩ := runs'
    · exact Option.mem_unique here there
    · exact absurd spelled (none' text here rate)
  · obtain ⟨spelled', there | ⟨there, -⟩⟩ := runs'
    · exact absurd spelled' (none text' there rate')
    · exact Option.mem_unique here there

theorem stream_duration_eq_some_iff {stream : Stream} {duration : Binary64} :
    stream.duration.bind Probe.duration? = some duration ↔ stream.Lasts duration :=
  duration?_bind_eq_some_iff

theorem report_duration?_eq_some_iff {report : Report} {duration : Binary64} :
    report.duration? = some duration ↔ report.ContainerLasts duration ∨
      (∀ other, ¬report.ContainerLasts other) ∧ report.LongestLasts duration := by
  have container : ∀ duration,
      (report.container.bind (·.duration)).bind Probe.duration? = some duration ↔
        report.ContainerLasts duration := by
    intro duration
    rw [duration?_bind_eq_some_iff, Report.ContainerLasts]
    constructor
    · rintro ⟨text, member, spelled⟩
      obtain ⟨container, given, read⟩ := Option.bind_eq_some_iff.mp member
      exact ⟨container, given, text, read, spelled⟩
    · rintro ⟨container, given, text, read, spelled⟩
      exact ⟨text, Option.bind_eq_some_iff.mpr ⟨container, given, read⟩, spelled⟩
  have streams : ∀ number,
      number ∈ report.streams.filterMap (fun stream => stream.duration.bind Probe.duration?) ↔
        ∃ stream ∈ report.streams, stream.Lasts number := by
    simp [List.mem_filterMap, stream_duration_eq_some_iff]
  have positive : ∀ number ∈
      report.streams.filterMap (fun stream => stream.duration.bind Probe.duration?),
      number.isFinitePositive = true := by
    intro number member
    obtain ⟨stream, -, text, -, spelled⟩ := (streams number).mp member
    exact Binary64.isFinitePositive_iff.mpr spelled.2
  have longest : largest? (report.streams.filterMap fun stream =>
      stream.duration.bind Probe.duration?) = some duration ↔ report.LongestLasts duration := by
    rw [largest?_eq_some_iff positive, streams, Report.LongestLasts]
    refine and_congr_right fun _ => ⟨fun above stream member other lasts => ?_, ?_⟩
    · exact above other ((streams other).mpr ⟨stream, member, lasts⟩)
    · intro above other member
      obtain ⟨stream, here, lasts⟩ := (streams other).mp member
      exact above stream here other lasts
  unfold Report.duration?
  rw [Option.or_eq_some_iff, container, Option.eq_none_iff_forall_ne_some, longest]
  simp only [ne_eq, container]

/-! ## Descriptions -/

/-- What a description says of the file that is reported on. -/
structure Report.Describes (report : Report) (metadata : AssetMetadata) : Prop where
  /-- the container's duration, or else that of the longest stream -/
  duration : ∀ duration, metadata.duration = some duration ↔ report.ContainerLasts duration ∨
    (∀ other, ¬report.ContainerLasts other) ∧ report.LongestLasts duration
  lasting : ∀ duration ∈ metadata.duration, duration.isFinite = true ∧ 0 < duration
  picture : ∀ stream, report.First "video" stream → metadata.width = stream.width ∧
    metadata.height = stream.height ∧
    ∀ rate, metadata.frameRate = some rate ↔ ∃ text, stream.Runs text rate
  unseen : (∀ stream ∈ report.streams, stream.kind ≠ "video") →
    metadata.width = none ∧ metadata.height = none ∧ metadata.frameRate = none
  /-- a frame rate is finite unless it is read from a text that overflows -/
  running : ∀ rate ∈ metadata.frameRate, 0 < rate ∧
    (rate.isFinite = true ↔
      ∀ stream text, report.First "video" stream → stream.Runs text rate → ¬Overflows text)
  sound : ∀ stream, report.First "audio" stream → metadata.channels = stream.channels ∧
    ∀ rate, metadata.sampleRate = some rate ↔ ∃ text ∈ stream.sampleRate, IsNumeral text rate.toNat
  unheard : (∀ stream ∈ report.streams, stream.kind ≠ "audio") →
    metadata.channels = none ∧ metadata.sampleRate = none
  hasAudio : ∃ heard, metadata.hasAudio = some heard ∧
    (heard = true ↔ ∃ stream ∈ report.streams, stream.kind = "audio")

theorem describes_metadata (report : Report) : report.Describes report.metadata := by
  have video : ∀ stream, report.stream? .video = some stream ↔ report.First "video" stream :=
    fun _ => stream?_eq_some_iff
  have audio : ∀ stream, report.stream? .audio = some stream ↔ report.First "audio" stream :=
    fun _ => stream?_eq_some_iff
  have frames : ∀ rate, report.metadata.frameRate = some rate ↔
      ∃ stream text, report.First "video" stream ∧ stream.Runs text rate := by
    intro rate
    show (report.stream? .video).bind (·.rate?) = some rate ↔ _
    rw [Option.bind_eq_some_iff]
    simp only [video, stream_rate?_eq_some_iff, exists_and_left]
  constructor
  · exact fun duration => report_duration?_eq_some_iff
  · intro duration given
    rcases report_duration?_eq_some_iff.mp given with container | ⟨-, ⟨stream, -, lasts⟩, -⟩
    · obtain ⟨-, -, text, -, spelled⟩ := container
      exact spelled.2
    · obtain ⟨text, -, spelled⟩ := lasts
      exact spelled.2
  · intro stream first
    rw [← video] at first
    simp [Report.metadata, first, stream_rate?_eq_some_iff]
  · intro unseen
    have nothing : report.stream? .video = none := stream?_eq_none_iff.mpr unseen
    simp [Report.metadata, nothing]
  · intro rate given
    obtain ⟨stream, text, first, runs⟩ := (frames rate).mp given
    refine ⟨runs.1.1, runs.1.isFinite_iff.trans ⟨fun fits stream' text' first' runs' => ?_,
      fun fits => fits stream text first runs⟩⟩
    have same := ((video stream).mpr first).symm.trans ((video stream').mpr first')
    obtain rfl := Option.some.inj same
    obtain rfl := runs.unique runs'
    exact fits
  · intro stream first
    rw [← audio] at first
    simp [Report.metadata, first, Option.bind_eq_some_iff, Decimal.word?_eq_some_iff]
  · intro unheard
    have nothing : report.stream? .audio = none := stream?_eq_none_iff.mpr unheard
    simp [Report.metadata, nothing]
  · refine ⟨(report.stream? .audio).isSome, rfl, ?_⟩
    rw [← Option.ne_none_iff_isSome, ne_eq, stream?_eq_none_iff]
    simp [MediaKind.name]

/-- Every description that is read is that of a report. -/
theorem describes_of_metadataOf {bytes : Bytes} {metadata : AssetMetadata}
    (read : metadataOf bytes = .ok metadata) :
    ∃ report, Json.ofBytes Report.record.reader bytes = .ok report ∧ report.Describes metadata := by
  unfold metadataOf at read
  obtain ⟨report, reads, rfl⟩ := map_ok_iff.mp read
  exact ⟨report, reads, describes_metadata report⟩

/-- A report on a film of which the average rate is not known and the sound
lasts longer than the picture. -/
def filmReport : Bytes := Text.Utf8.encode (
  "\x7b\"streams\": [" ++
    "\x7b\"codec_type\": \"video\", \"width\": 640, \"height\": 480, " ++
      "\"avg_frame_rate\": \"0/0\", \"r_frame_rate\": \"24000/1001\", " ++
      "\"duration\": \"9.5\"\x7d, " ++
    "\x7b\"codec_type\": \"audio\", \"sample_rate\": \"48000\", \"duration\": \"10.25\"\x7d]\x7d")

theorem describes_film : ∃ report,
    Json.ofBytes Report.record.reader filmReport = .ok report ∧
      report.Describes
        { duration := some 10.25, width := some 640, height := some 480,
          frameRate := some (24000 / 1001), sampleRate := some 48000, hasAudio := some true } := by
  have read : metadataOf filmReport = .ok
      { duration := some 10.25, width := some 640, height := some 480,
        frameRate := some (24000 / 1001), sampleRate := some 48000, hasAudio := some true } :=
    ok_of_toOption (by decide +kernel)
  exact describes_of_metadataOf read

/-- A report on a stream with an infinite average rate beside a usable one. -/
def endlessReport : Bytes := Text.Utf8.encode (
  "\x7b\"streams\": [\x7b\"codec_type\": \"video\", " ++
    "\"avg_frame_rate\": \"inf\", \"r_frame_rate\": \"25/1\"\x7d]\x7d")

/-- The description has the infinite rate. -/
theorem endless_unusable : ∃ metadata, metadataOf endlessReport = .ok metadata ∧
    ∃ rate ∈ metadata.frameRate, rate.isFinite = false := by
  have read : metadataOf endlessReport = .ok
      { frameRate := some (.infinite false), hasAudio := some false } :=
    ok_of_toOption (by decide +kernel)
  exact ⟨_, read, _, rfl, rfl⟩

end Montage.Probe
