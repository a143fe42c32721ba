/-
  The windows of memory records, by their texts and by their instants.
-/
import LocalMoe.Data.Memory

namespace LocalMoe.Data

open Contracts

/-! ## Instants -/

/-- How a timestamp states its offset. -/
inductive IsoOffset where
  | zulu
  | signed (west : Bool) (hours minutes : Nat)
  deriving DecidableEq

def IsoOffset.chars : IsoOffset → List Char
  | .zulu => ['Z']
  | .signed west hours minutes =>
    (if west then '-' else '+') :: (DateTime.digits2 hours ++ ':' :: DateTime.digits2 minutes)

/-- The seconds that an offset is ahead of UTC. -/
def IsoOffset.seconds : IsoOffset → Int
  | .zulu => 0
  | .signed west hours minutes =>
    let ahead : Int := (hours * 60 + minutes) * 60
    if west then -ahead else ahead

/-- An ISO-8601 timestamp: its fields, the digits of its fraction, and its offset. -/
structure IsoTime where
  civil : CivilFields
  fraction : List (Fin 10)
  offset : IsoOffset
  valid : civil.Valid

/-- The days before a date, from the first of the first year on. -/
def daysBefore (year month day : Nat) : Nat :=
  let years := year - 1
  years * 365 + years / 4 - years / 100 + years / 400 +
    ((List.range (month - 1)).map fun k => daysInMonth year (k + 1)).sum + (day - 1)

namespace IsoTime

def text (t : IsoTime) : String :=
  String.ofList ((DateTime.isoChars t.civil).take 19 ++
    ((if t.fraction = [] then [] else '.' :: t.fraction.map fun d => hexDigit d.val) ++
      t.offset.chars))

/-- The value of the digits behind the point. -/
def fractionValue (digits : List (Fin 10)) : ℚ :=
  digits.foldr (fun d rest => ((d.val : ℚ) + rest) / 10) 0

/-- The instant of a timestamp, in seconds. -/
def instant (t : IsoTime) : ℚ :=
  let c := t.civil
  let seconds : Int := ((daysBefore c.year c.month c.day * 24 + c.hour) * 60 + c.minute) * 60 +
    c.second - t.offset.seconds
  seconds + fractionValue t.fraction

theorem text_ne (t : IsoTime) : t.text ≠ "" := by
  intro h
  have hchars := congrArg String.toList h
  unfold text at hchars
  rw [String.toList_ofList] at hchars
  cases hchars

end IsoTime

/-! ## Windows -/

/-- A bound as a record holds it. -/
def bound : Option IsoTime → Value
  | none => .none
  | some t => .str t.text

/-- A record whose bounds are absent or timestamps. -/
structure DatedRecord where
  record : MemoryRecord
  start : Option IsoTime
  stop : Option IsoTime
  start_eq : record.validFrom = bound start
  stop_eq : record.validUntil = bound stop

namespace DatedRecord

/-- The window of a record begins later. -/
def Pending (r : DatedRecord) (now : ℚ) : Prop := ∃ s ∈ r.start, now < s.instant

/-- The window of a record has ended. -/
def Expired (r : DatedRecord) (now : ℚ) : Prop := ∃ e ∈ r.stop, e.instant ≤ now

def Active (r : DatedRecord) (now : ℚ) : Prop := ¬ r.Pending now ∧ ¬ r.Expired now

instance (r : DatedRecord) (now : ℚ) : Decidable (r.Pending now) := by
  unfold Pending
  infer_instance

instance (r : DatedRecord) (now : ℚ) : Decidable (r.Expired now) := by
  unfold Expired
  infer_instance

instance (r : DatedRecord) (now : ℚ) : Decidable (r.Active now) := by
  unfold Active
  infer_instance

theorem Expired.mono {r : DatedRecord} {now later : ℚ} (h : r.Expired now) (hle : now ≤ later) :
    r.Expired later := by
  obtain ⟨e, he, hended⟩ := h
  exact ⟨e, he, hended.trans hle⟩

/-- A record is in exactly one of the three classes. -/
def InOneClass (r : DatedRecord) (now : ℚ) : Prop :=
  (r.Active now ∧ ¬ r.Pending now ∧ ¬ r.Expired now) ∨
    (¬ r.Active now ∧ r.Pending now ∧ ¬ r.Expired now) ∨
    (¬ r.Active now ∧ ¬ r.Pending now ∧ r.Expired now)

theorem inOneClass_iff {r : DatedRecord} {now : ℚ} :
    r.InOneClass now ↔ ¬ (r.Pending now ∧ r.Expired now) := by
  unfold InOneClass Active
  tauto

/-- The texts of the bounds compare with the text of the time as the instants do, and the time
is not both behind the window and ahead of it. -/
structure InOrder (r : DatedRecord) (now : IsoTime) : Prop where
  start : ∀ s ∈ r.start, now.text < s.text ↔ now.instant < s.instant
  stop : ∀ e ∈ r.stop, e.text ≤ now.text ↔ e.instant ≤ now.instant
  window : ∀ s ∈ r.start, ∀ e ∈ r.stop,
    ¬ (e.instant ≤ now.instant ∧ now.instant < s.instant)

end DatedRecord

/-! ## What the store reads -/

theorem comparesTo_bound (b : Option IsoTime) (compare : String → Bool) :
    comparesTo (bound b) compare = .ok (b.any fun t => compare t.text) := by
  cases b with
  | none => rfl
  | some t =>
    have htruthy : truthy (bound (some t)) = true := decide_eq_true t.text_ne
    unfold comparesTo
    rw [if_pos htruthy]
    rfl

section Classes

variable (r : DatedRecord) (now : IsoTime)

theorem isPendingAt_bound : isPendingAt r.record now.text =
    .ok (r.start.any fun s => decide (now.text < s.text)) := by
  unfold isPendingAt
  rw [r.start_eq, comparesTo_bound]

theorem isExpiredAt_bound : isExpiredAt r.record now.text =
    .ok (r.stop.any fun e => decide (e.text ≤ now.text)) := by
  unfold isExpiredAt
  rw [r.stop_eq, comparesTo_bound]

theorem isValidAt_bound : isValidAt r.record now.text =
    .ok (!(r.start.any fun s => decide (now.text < s.text)) &&
      !(r.stop.any fun e => decide (e.text ≤ now.text))) := by
  unfold isValidAt
  rw [isPendingAt_bound, isExpiredAt_bound]
  cases r.start.any fun s => decide (now.text < s.text) <;> rfl

/-- The classes of the store are those of the instants. -/
structure Classified : Prop where
  pending : isPendingAt r.record now.text = .ok (decide (r.Pending now.instant))
  expired : isExpiredAt r.record now.text = .ok (decide (r.Expired now.instant))
  active : isValidAt r.record now.text = .ok (decide (r.Active now.instant))

variable {r now}

theorem any_eq_decide {α : Type} {x : Option α} {p q : α → Prop} [DecidablePred p]
    [Decidable (∃ a ∈ x, q a)] :
    (x.any fun a => decide (p a)) = decide (∃ a ∈ x, q a) ↔ ∀ a ∈ x, p a ↔ q a := by
  rw [Bool.eq_iff_iff, decide_eq_true_iff]
  cases x with
  | none => simp
  | some a => simp

theorem pending_iff : isPendingAt r.record now.text = .ok (decide (r.Pending now.instant)) ↔
    ∀ s ∈ r.start, now.text < s.text ↔ now.instant < s.instant := by
  rw [isPendingAt_bound, Except.ok.injEq]
  exact any_eq_decide

theorem expired_iff : isExpiredAt r.record now.text = .ok (decide (r.Expired now.instant)) ↔
    ∀ e ∈ r.stop, e.text ≤ now.text ↔ e.instant ≤ now.instant := by
  rw [isExpiredAt_bound, Except.ok.injEq]
  exact any_eq_decide

theorem classified_iff : Classified r now ∧ r.InOneClass now.instant ↔ r.InOrder now := by
  constructor
  · rintro ⟨h, hone⟩
    refine ⟨pending_iff.mp h.pending, expired_iff.mp h.expired, fun s hs e he hboth => ?_⟩
    exact DatedRecord.inOneClass_iff.mp hone ⟨⟨s, hs, hboth.2⟩, ⟨e, he, hboth.1⟩⟩
  · intro h
    have hpending := pending_iff.mpr h.start
    have hexpired := expired_iff.mpr h.stop
    refine ⟨⟨hpending, hexpired, ?_⟩, DatedRecord.inOneClass_iff.mpr ?_⟩
    · have hp := hpending
      have he := hexpired
      rw [isPendingAt_bound, Except.ok.injEq] at hp
      rw [isExpiredAt_bound, Except.ok.injEq] at he
      rw [isValidAt_bound, hp, he, Except.ok.injEq, Bool.eq_iff_iff, decide_eq_true_iff]
      simp [DatedRecord.Active]
    · rintro ⟨⟨s, hs, hlater⟩, ⟨e, he, hended⟩⟩
      exact h.window s hs e he ⟨hended, hlater⟩

end Classes

/-! ## Operations on lists -/

theorem partitionM_ok {test : MemoryRecord → Except Raised Bool} {p : DatedRecord → Bool}
    {records : List DatedRecord} (h : ∀ r ∈ records, test r.record = .ok (p r)) :
    partitionM test (records.map DatedRecord.record) =
      .ok ((records.filter p).map DatedRecord.record,
        (records.filter fun r => !p r).map DatedRecord.record) := by
  induction records with
  | nil => rfl
  | cons r records ih =>
    obtain ⟨hr, hrest⟩ := List.forall_mem_cons.mp h
    rw [List.map_cons, partitionM, hr, ih hrest]
    cases hp : p r <;> simp [hp, bind, Except.bind, pure, Except.pure]

/-- The records that a store holds after `prune_expired`. -/
def afterPrune (now : String) (records : List MemoryRecord) :
    Except Raised (List MemoryRecord) :=
  (pruneExpired now records).map fun kept => kept.getD records

/-- What the operations make of the records at a time, by the instants. -/
structure Partitioned (records : List DatedRecord) (now : IsoTime) : Prop where
  classes : ∀ r ∈ records, Classified r now ∧ r.InOneClass now.instant
  report : maintenanceReport now.text (records.map DatedRecord.record) =
    .ok ((records.filter fun r => decide (r.Active now.instant)).length,
      (records.filter fun r => decide (r.Pending now.instant)).length,
      (records.filter fun r => decide (r.Expired now.instant)).length)
  search : ∀ (score : MemoryRecord → ℚ) (scope : Option String) (limit : Nat),
    ∃ found, search score scope limit now.text (records.map DatedRecord.record) = .ok found ∧
      ∀ record ∈ found, ∃ r ∈ records, r.record = record ∧ r.Active now.instant
  prune : afterPrune now.text (records.map DatedRecord.record) =
    .ok ((records.filter fun r => !decide (r.Expired now.instant)).map DatedRecord.record)
  removed : ∀ r ∈ records, r.Expired now.instant → ∀ later, now.instant ≤ later →
    ¬ r.Active later

section Operations

variable {records : List DatedRecord} {now : IsoTime}

theorem report_of (h : ∀ r ∈ records, Classified r now) :
    maintenanceReport now.text (records.map DatedRecord.record) =
      .ok ((records.filter fun r => decide (r.Active now.instant)).length,
        (records.filter fun r => decide (r.Pending now.instant)).length,
        (records.filter fun r => decide (r.Expired now.instant)).length) := by
  unfold maintenanceReport
  rw [partitionM_ok fun r hr => (h r hr).active, partitionM_ok fun r hr => (h r hr).pending,
    partitionM_ok fun r hr => (h r hr).expired]
  simp only [bind, Except.bind, pure, Except.pure, List.length_map]

theorem search_of (h : ∀ r ∈ records, Classified r now) (score : MemoryRecord → ℚ)
    (scope : Option String) (limit : Nat) :
    ∃ found, search score scope limit now.text (records.map DatedRecord.record) = .ok found ∧
      ∀ record ∈ found, ∃ r ∈ records, r.record = record ∧ r.Active now.instant := by
  unfold search
  dsimp only
  rw [List.filter_map, partitionM_ok fun r hr => (h r (List.mem_of_mem_filter hr)).active]
  refine ⟨_, rfl, fun record hrecord => ?_⟩
  have hscored := List.mergeSort_perm _ _ |>.subset (List.mem_of_mem_take hrecord)
  obtain ⟨r, hr, rfl⟩ := List.mem_map.mp (List.mem_of_mem_filter hscored)
  obtain ⟨hscope, hactive⟩ := List.mem_filter.mp hr
  exact ⟨r, List.mem_of_mem_filter hscope, rfl, of_decide_eq_true hactive⟩

theorem afterPrune_of
    (h : ∀ r ∈ records, isExpiredAt r.record now.text = .ok (decide (r.Expired now.instant))) :
    afterPrune now.text (records.map DatedRecord.record) =
      .ok ((records.filter fun r => !decide (r.Expired now.instant)).map DatedRecord.record) := by
  unfold afterPrune pruneExpired removing
  rw [partitionM_ok h]
  dsimp only [bind, Except.bind, pure, Except.pure, Except.map]
  by_cases hnone : records.filter (fun r => decide (r.Expired now.instant)) = []
  · have hkept : records.filter (fun r => !decide (r.Expired now.instant)) = records := by
      refine List.filter_eq_self.mpr fun r hr => ?_
      have hr' := List.filter_eq_nil_iff.mp hnone r hr
      simpa using hr'
    rw [hnone, hkept]
    rfl
  · have hsome : ((records.filter fun r => decide (r.Expired now.instant)).map
        DatedRecord.record).isEmpty = false := by
      rw [List.isEmpty_eq_false_iff]
      exact fun hmap => hnone (List.map_eq_nil_iff.mp hmap)
    rw [hsome]
    rfl

end Operations

/-- At two times, one after the other, the operations do what the instants say, and pruning at
both leaves what pruning at the later leaves, exactly when the bounds are in order at both. -/
theorem validity_by_instants (records : List DatedRecord) (now later : IsoTime)
    (hle : now.instant ≤ later.instant) : (Partitioned records now ∧ Partitioned records later ∧
      afterPrune now.text (records.map DatedRecord.record) >>= afterPrune later.text =
        afterPrune later.text (records.map DatedRecord.record)) ↔
    ∀ r ∈ records, r.InOrder now ∧ r.InOrder later := by
  have hpartitioned {time : IsoTime} (h : ∀ r ∈ records, r.InOrder time) :
      Partitioned records time := by
    have hclasses := fun r hr => classified_iff.mpr (h r hr)
    refine ⟨hclasses, report_of fun r hr => (hclasses r hr).1,
      search_of fun r hr => (hclasses r hr).1, afterPrune_of fun r hr => (hclasses r hr).1.expired,
      fun r _ hexpired time' hle' hactive => hactive.2 (hexpired.mono hle')⟩
  constructor
  · rintro ⟨hnow, hlater, -⟩ r hr
    exact ⟨classified_iff.mp (hnow.classes r hr), classified_iff.mp (hlater.classes r hr)⟩
  · intro h
    have hnow := hpartitioned fun r hr => (h r hr).1
    have hlater := hpartitioned fun r hr => (h r hr).2
    refine ⟨hnow, hlater, ?_⟩
    rw [hnow.prune, hlater.prune]
    change afterPrune later.text _ = _
    rw [afterPrune_of fun r hr => (hlater.classes r (List.mem_of_mem_filter hr)).1.expired,
      List.filter_filter]
    congr 2
    refine List.filter_congr fun r _ => ?_
    by_cases hexpired : r.Expired now.instant
    · simp [hexpired, hexpired.mono hle]
    · simp [hexpired]

/-! ## Two spellings -/

def sampleUntil (stop : IsoTime) : DatedRecord where
  record := ⟨"a", "default", "fact", "x", [], "", .none, .str stop.text⟩
  start := none
  stop := some stop
  start_eq := rfl
  stop_eq := rfl

def sampleNoonEast : IsoTime := ⟨⟨2026, 1, 1, 12, 0, 0⟩, [], .signed false 2 0, by decide⟩

def sampleEleven : IsoTime := ⟨⟨2026, 1, 1, 11, 0, 0⟩, [], .signed false 0 0, by decide⟩

def sampleOne : IsoTime := ⟨⟨2026, 1, 1, 13, 0, 0⟩, [], .signed false 0 0, by decide⟩

theorem validity_by_instants_sample : Partitioned [sampleUntil sampleEleven] sampleEleven ∧
      Partitioned [sampleUntil sampleEleven] sampleOne ∧
      afterPrune sampleEleven.text ([sampleUntil sampleEleven].map DatedRecord.record) >>=
          afterPrune sampleOne.text =
        afterPrune sampleOne.text ([sampleUntil sampleEleven].map DatedRecord.record) := by
  refine (validity_by_instants [sampleUntil sampleEleven] sampleEleven sampleOne
    (by decide +kernel)).mpr fun r hr => ?_
  rw [List.mem_singleton.mp hr]
  refine ⟨⟨nofun, fun e he => ?_, nofun⟩, ⟨nofun, fun e he => ?_, nofun⟩⟩
  · cases he
    exact iff_of_true le_rfl le_rfl
  · cases he
    exact iff_of_true (by decide +kernel) (by decide +kernel)

/-- A record that has ended, one hour ago, is not expired to the store. -/
theorem ended_record_kept : (sampleUntil sampleNoonEast).Expired sampleEleven.instant ∧
      afterPrune sampleEleven.text ([sampleUntil sampleNoonEast].map DatedRecord.record) =
        .ok ([sampleUntil sampleNoonEast].map DatedRecord.record) ∧
      ¬ Partitioned [sampleUntil sampleNoonEast] sampleEleven := by
  have hended : (sampleUntil sampleNoonEast).Expired sampleEleven.instant :=
    ⟨sampleNoonEast, rfl, by decide +kernel⟩
  have hkept : isExpiredAt (sampleUntil sampleNoonEast).record sampleEleven.text = .ok false := by
    rw [isExpiredAt_bound]
    decide +kernel
  refine ⟨hended, ?_, fun h => ?_⟩
  · unfold afterPrune pruneExpired removing
    rw [List.map_singleton, partitionM, hkept]
    rfl
  · have hclass := (h.classes _ (List.mem_singleton_self _)).1.expired
    rw [hkept, decide_eq_true hended] at hclass
    cases hclass

end LocalMoe.Data
