import CodexGate.Foundation.Groups
import CodexGate.Telemetry.Worker

namespace CodexGate.Telemetry

open Foundation

def asiaShanghaiOffsetMs : Int := 8 * millisPerHour

structure StatsOverviewAggRow where
  requestSuccess : Int
  requestFailed : Int
  inputTokens : Int
  outputTokens : Int
  cacheReadInputTokens : Int
  cacheCreationInputTokens : Int
  reasoningOutputTokens : Int
  usageObservedRequests : Int
  waitTimeMs : Int
  latencyLt500ms : Int
  latencyLt1000ms : Int
  latencyLt2000ms : Int
  latencyLt5000ms : Int
  latencyLt15000ms : Int
  latencyGte15000ms : Int
  deriving DecidableEq

namespace StatsOverviewAggRow

def default : StatsOverviewAggRow := ⟨0, 0, 0, 0, 0, 0, 0, 0, 0, 0, 0, 0, 0, 0, 0⟩

def combine (op : Int → Int → Int) (self row : StatsOverviewAggRow) : StatsOverviewAggRow where
  requestSuccess := op self.requestSuccess row.requestSuccess
  requestFailed := op self.requestFailed row.requestFailed
  inputTokens := op self.inputTokens row.inputTokens
  outputTokens := op self.outputTokens row.outputTokens
  cacheReadInputTokens := op self.cacheReadInputTokens row.cacheReadInputTokens
  cacheCreationInputTokens := op self.cacheCreationInputTokens row.cacheCreationInputTokens
  reasoningOutputTokens := op self.reasoningOutputTokens row.reasoningOutputTokens
  usageObservedRequests := op self.usageObservedRequests row.usageObservedRequests
  waitTimeMs := op self.waitTimeMs row.waitTimeMs
  latencyLt500ms := op self.latencyLt500ms row.latencyLt500ms
  latencyLt1000ms := op self.latencyLt1000ms row.latencyLt1000ms
  latencyLt2000ms := op self.latencyLt2000ms row.latencyLt2000ms
  latencyLt5000ms := op self.latencyLt5000ms row.latencyLt5000ms
  latencyLt15000ms := op self.latencyLt15000ms row.latencyLt15000ms
  latencyGte15000ms := op self.latencyGte15000ms row.latencyGte15000ms

def accumulate (self row : StatsOverviewAggRow) : StatsOverviewAggRow :=
  combine (fun a b => wrapI64 (a + b)) self row

end StatsOverviewAggRow

namespace StatsEventRow

def succeeded (row : StatsEventRow) : Bool := row.httpStatus.getD 500 < 400 && row.errorType.isNone

def failed (row : StatsEventRow) : Bool := 400 ≤ row.httpStatus.getD 500 || row.errorType.isSome

def lasted (low high : Int) (row : StatsEventRow) : Bool :=
  low ≤ row.durationMs.getD 0 && row.durationMs.getD 0 < high

end StatsEventRow

def sumOf (rows : List StatsEventRow) (column : StatsEventRow → Int) : Int := (rows.map column).sum

def countOf (rows : List StatsEventRow) (test : StatsEventRow → Bool) : Int :=
  sumOf rows fun row => if test row then 1 else 0

def aggregateRow (rows : List StatsEventRow) : StatsOverviewAggRow where
  requestSuccess := countOf rows StatsEventRow.succeeded
  requestFailed := countOf rows StatsEventRow.failed
  inputTokens := sumOf rows (·.usage.inputTokens)
  outputTokens := sumOf rows (·.usage.outputTokens)
  cacheReadInputTokens := sumOf rows (·.usage.cacheReadInputTokens)
  cacheCreationInputTokens := sumOf rows (·.usage.cacheCreationInputTokens)
  reasoningOutputTokens := sumOf rows (·.usage.reasoningOutputTokens)
  usageObservedRequests := countOf rows (·.usageObserved)
  waitTimeMs := sumOf rows (·.durationMs.getD 0)
  latencyLt500ms := countOf rows fun row => row.durationMs.getD 0 < 500
  latencyLt1000ms := countOf rows (StatsEventRow.lasted 500 1000)
  latencyLt2000ms := countOf rows (StatsEventRow.lasted 1000 2000)
  latencyLt5000ms := countOf rows (StatsEventRow.lasted 2000 5000)
  latencyLt15000ms := countOf rows (StatsEventRow.lasted 5000 15000)
  latencyGte15000ms := countOf rows fun row => 15000 ≤ row.durationMs.getD 0

def eventsWithin (events : List StatsEventRow) (timeFromMs timeToMs : Int) : List StatsEventRow :=
  events.filter fun event => timeFromMs ≤ event.timeMs ∧ event.timeMs ≤ timeToMs

def bucketStartMs (intervalMs : Int) (event : StatsEventRow) : Int :=
  (event.timeMs + 28800000).tdiv intervalMs * intervalMs - 28800000

def aggregateStatsSeries (events : List StatsEventRow) (timeFromMs timeToMs intervalMs : Int) :
    List (Int × StatsOverviewAggRow) :=
  (orderedGroups (bucketStartMs intervalMs) (eventsWithin events timeFromMs timeToMs)).map fun bucket =>
    (bucket.1, aggregateRow bucket.2)

structure SeriesPoint where
  bucketStartMs : Int
  requestSuccess : Int
  requestFailed : Int
  inputTokens : Int
  outputTokens : Int
  cacheReadInputTokens : Int
  cacheCreationInputTokens : Int
  usageObservedRequests : Int
  deriving DecidableEq

def seriesPoint (start : Int) (row : StatsOverviewAggRow) : SeriesPoint where
  bucketStartMs := start
  requestSuccess := row.requestSuccess
  requestFailed := row.requestFailed
  inputTokens := row.inputTokens
  outputTokens := row.outputTokens
  cacheReadInputTokens := row.cacheReadInputTokens
  cacheCreationInputTokens := row.cacheCreationInputTokens
  usageObservedRequests := row.usageObservedRequests

def stepBy (first last step : Int) : List Int :=
  if last < first then []
  else (List.range (((last - first) / step).toNat + 1)).map fun k : Nat => first + k * step

structure SeriesState where
  aggregate : StatsOverviewAggRow
  buckets : List (Int × StatsOverviewAggRow)
  points : List SeriesPoint

def takeBucket (start : Int) : List (Int × StatsOverviewAggRow) →
    StatsOverviewAggRow × List (Int × StatsOverviewAggRow)
  | [] => (.default, [])
  | (time, row) :: rest => if time = start then (row, rest) else (.default, (time, row) :: rest)

def seriesStep (state : SeriesState) (start : Int) : SeriesState :=
  let (row, buckets) := takeBucket start state.buckets
  ⟨state.aggregate.accumulate row, buckets, state.points ++ [seriesPoint start row]⟩

def firstBucketMs (fromMs intervalMs : Int) : Int :=
  (fromMs + asiaShanghaiOffsetMs) / intervalMs * intervalMs - asiaShanghaiOffsetMs

def statsSeriesPoints (fromMs toMs intervalMs : Int) (buckets : List (Int × StatsOverviewAggRow)) :
    StatsOverviewAggRow × List SeriesPoint :=
  let state := (stepBy (firstBucketMs fromMs intervalMs) toMs intervalMs).foldl seriesStep
    ⟨.default, buckets, []⟩
  (state.aggregate, state.points)

namespace StatsOverviewAggRow

instance : Add StatsOverviewAggRow := ⟨combine (· + ·)⟩

instance : Zero StatsOverviewAggRow := ⟨default⟩

theorem add_def (a b : StatsOverviewAggRow) : a + b = combine (· + ·) a b := rfl

theorem zero_def : (0 : StatsOverviewAggRow) = default := rfl

instance : AddCommMonoid StatsOverviewAggRow where
  add_assoc a b c := by simp only [add_def, combine, Int.add_assoc]
  zero_add a := by simp only [add_def, zero_def, combine, default, Int.zero_add]
  add_zero a := by simp only [add_def, zero_def, combine, default, Int.add_zero]
  add_comm a b := by
    rw [add_def, add_def]
    unfold combine
    congr 1 <;> apply Int.add_comm
  nsmul := nsmulRec

def wrapped (row : StatsOverviewAggRow) : StatsOverviewAggRow := combine (fun a _ => wrapI64 a) row row

theorem wrapped_accumulate (a b : StatsOverviewAggRow) : a.wrapped.accumulate b = (a + b).wrapped := by
  have column : ∀ x y : Int, wrapI64 (wrapI64 x + y) = wrapI64 (x + y) := fun _ _ => Int.bmod_add_bmod
  simp only [add_def, accumulate, wrapped, combine, column]

theorem wrapped_default : default.wrapped = default := by decide

end StatsOverviewAggRow

theorem sumOf_append (first second : List StatsEventRow) (column : StatsEventRow → Int) :
    sumOf (first ++ second) column = sumOf first column + sumOf second column := by
  simp only [sumOf, List.map_append, List.sum_append]

theorem aggregateRow_append (first second : List StatsEventRow) :
    aggregateRow (first ++ second) = aggregateRow first + aggregateRow second := by
  simp only [StatsOverviewAggRow.add_def, StatsOverviewAggRow.combine, aggregateRow, countOf, sumOf_append]

theorem aggregateRow_eq_sum (rows : List StatsEventRow) :
    aggregateRow rows = (rows.map fun row => aggregateRow [row]).sum := by
  induction rows with
  | nil => rfl
  | cons row rest ih => rw [List.map_cons, List.sum_cons, ← ih, ← aggregateRow_append, List.singleton_append]

theorem aggregateRow_groups {κ : Type} [DecidableEq κ] {key : StatsEventRow → κ}
    {rows : List StatsEventRow} {groups : List (κ × List StatsEventRow)}
    (perm : groups.Perm (groupRows key rows)) :
    (groups.map fun group => aggregateRow group.2).sum = aggregateRow rows := by
  have sums := @groupRows_sum _ κ _ _ key rows _ fun row => aggregateRow [row]
  rw [aggregateRow_eq_sum rows, ← sums, (perm.map _).sum_eq]
  apply congrArg List.sum
  apply List.map_congr_left
  intro group _
  exact aggregateRow_eq_sum group.2

section Starts

variable {first last step : Int}

theorem mem_stepBy (positive : 0 < step) {start : Int} :
    start ∈ stepBy first last step ↔ (∃ k : Nat, start = first + k * step) ∧ start ≤ last := by
  unfold stepBy
  by_cases empty : last < first
  · simp only [if_pos empty, List.not_mem_nil, false_iff]
    rintro ⟨⟨k, rfl⟩, le⟩
    have ahead : 0 ≤ (k : Int) * step := mul_nonneg (Int.natCast_nonneg k) positive.le
    omega
  · simp only [if_neg empty, List.mem_map, List.mem_range]
    have count : (((last - first) / step).toNat : Int) = (last - first) / step :=
      Int.toNat_of_nonneg (Int.ediv_nonneg (by omega) positive.le)
    constructor
    · rintro ⟨k, below, rfl⟩
      refine ⟨⟨k, rfl⟩, ?_⟩
      have le : (k : Int) ≤ (last - first) / step := by omega
      have fits := (Int.le_ediv_iff_mul_le positive).mp le
      omega
    · rintro ⟨⟨k, rfl⟩, le⟩
      have fits : (k : Int) ≤ (last - first) / step :=
        (Int.le_ediv_iff_mul_le positive).mpr (by omega)
      exact ⟨k, by omega, rfl⟩

theorem stepBy_increasing (positive : 0 < step) : (stepBy first last step).Pairwise (· < ·) := by
  unfold stepBy
  split
  · exact .nil
  · refine List.pairwise_map.mpr (List.pairwise_lt_range.imp ?_)
    intro k later before
    have cast : (k : Int) < later := by exact_mod_cast before
    have grows := mul_lt_mul_of_pos_right cast positive
    omega

/-- An interval that starts on the Shanghai clock. -/
def Aligned (intervalMs start : Int) : Prop := intervalMs ∣ start + asiaShanghaiOffsetMs

theorem aligned_iff {intervalMs start moment : Int} (positive : 0 < intervalMs) :
    start = (moment + asiaShanghaiOffsetMs) / intervalMs * intervalMs - asiaShanghaiOffsetMs ↔
      Aligned intervalMs start ∧ start ≤ moment ∧ moment < start + intervalMs := by
  have split := Int.mul_ediv_add_emod (moment + asiaShanghaiOffsetMs) intervalMs
  have low := Int.emod_nonneg (moment + asiaShanghaiOffsetMs) positive.ne'
  have high := Int.emod_lt_of_pos (moment + asiaShanghaiOffsetMs) positive
  constructor
  · intro here
    refine ⟨⟨(moment + asiaShanghaiOffsetMs) / intervalMs, ?_⟩, ?_, ?_⟩
    · rw [here, mul_comm intervalMs]
      omega
    · rw [here, mul_comm]
      omega
    · rw [here, mul_comm]
      omega
  · rintro ⟨⟨count, aligned⟩, before, after⟩
    rw [mul_comm] at aligned
    have same : (moment + asiaShanghaiOffsetMs) / intervalMs = count :=
      (Int.ediv_eq_iff_of_pos positive).mpr ⟨by omega, by omega⟩
    rw [same, ← aligned]
    omega

theorem aligned_first {fromMs intervalMs : Int} (positive : 0 < intervalMs) :
    Aligned intervalMs (firstBucketMs fromMs intervalMs) ∧ firstBucketMs fromMs intervalMs ≤ fromMs ∧
      fromMs < firstBucketMs fromMs intervalMs + intervalMs :=
  (aligned_iff positive).mp rfl

theorem mem_starts {fromMs toMs intervalMs start : Int} (positive : 0 < intervalMs) :
    start ∈ stepBy (firstBucketMs fromMs intervalMs) toMs intervalMs ↔
      Aligned intervalMs start ∧ start ≤ toMs ∧ fromMs < start + intervalMs := by
  obtain ⟨⟨first, aligned⟩, before, after⟩ := @aligned_first fromMs intervalMs positive
  generalize firstBucketMs fromMs intervalMs = origin at aligned before after ⊢
  rw [mem_stepBy positive]
  constructor
  · rintro ⟨⟨k, rfl⟩, le⟩
    have ahead : 0 ≤ (k : Int) * intervalMs := mul_nonneg (Int.natCast_nonneg k) positive.le
    refine ⟨⟨first + k, ?_⟩, le, by omega⟩
    rw [mul_add, ← aligned, mul_comm intervalMs]
    omega
  · rintro ⟨⟨count, there⟩, le, reaches⟩
    have later : first ≤ count := by
      by_contra earlier
      have step := mul_le_mul_of_nonneg_left (show count + 1 ≤ first by omega) positive.le
      rw [mul_add, mul_one] at step
      omega
    refine ⟨⟨(count - first).toNat, ?_⟩, le⟩
    rw [Int.toNat_of_nonneg (by omega), sub_mul, mul_comm count, mul_comm first]
    omega

theorem bucketStartMs_eq_iff {intervalMs start : Int} (positive : 0 < intervalMs)
    {event : StatsEventRow} (since : 0 ≤ event.timeMs) :
    bucketStartMs intervalMs event = start ↔
      Aligned intervalMs start ∧ start ≤ event.timeMs ∧ event.timeMs < start + intervalMs := by
  have rounds : bucketStartMs intervalMs event =
      (event.timeMs + asiaShanghaiOffsetMs) / intervalMs * intervalMs - asiaShanghaiOffsetMs := by
    show (event.timeMs + 28800000).tdiv intervalMs * intervalMs - 28800000 = _
    rw [Int.tdiv_eq_ediv_of_nonneg (by omega)]
    rfl
  rw [rounds, eq_comm]
  exact aligned_iff positive

end Starts

def rowAt (buckets : List (Int × StatsOverviewAggRow)) (start : Int) : StatsOverviewAggRow :=
  (buckets.lookup start).getD .default

theorem takeBucket_spec {start : Int} {starts : List Int} {buckets : List (Int × StatsOverviewAggRow)}
    (rising : (start :: starts).Pairwise (· < ·)) (sorted : (buckets.map (·.1)).Pairwise (· < ·))
    (known : ∀ bucket ∈ buckets, bucket.1 ∈ start :: starts) :
    (takeBucket start buckets).1 = rowAt buckets start ∧
      (∀ later ∈ starts, rowAt (takeBucket start buckets).2 later = rowAt buckets later) ∧
      ((takeBucket start buckets).2.map (·.1)).Pairwise (· < ·) ∧
      (∀ bucket ∈ (takeBucket start buckets).2, bucket.1 ∈ starts) ∧
      (takeBucket start buckets).1 + ((takeBucket start buckets).2.map (·.2)).sum =
        (buckets.map (·.2)).sum := by
  obtain ⟨before, -⟩ := List.pairwise_cons.mp rising
  cases buckets with
  | nil => exact ⟨rfl, fun _ _ => rfl, .nil, by simp [takeBucket], rfl⟩
  | cons bucket rest =>
    obtain ⟨time, row⟩ := bucket
    obtain ⟨first, sorted'⟩ := List.pairwise_cons.mp sorted
    have after : ∀ bucket ∈ rest, time < bucket.1 := fun bucket member =>
      first bucket.1 (List.mem_map_of_mem member)
    by_cases same : time = start
    · subst same
      simp only [takeBucket, if_true]
      refine ⟨by simp [rowAt], ?_, sorted', ?_, by simp⟩
      · intro later member
        have apart : (later == time) = false := by simpa using (before later member).ne'
        simp only [rowAt, List.lookup_cons, apart]
      · intro bucket member
        rcases List.mem_cons.mp (known bucket (List.mem_cons_of_mem _ member)) with here | there
        · have ahead := after bucket member
          omega
        · exact there
    · simp only [takeBucket, if_neg same]
      have there : time ∈ starts := (List.mem_cons.mp (known _ List.mem_cons_self)).resolve_left same
      have ahead := before time there
      have missed : rowAt ((time, row) :: rest) start = .default := by
        have none : ((time, row) :: rest).lookup start = none := by
          refine List.lookup_eq_none_iff.mpr ?_
          intro bucket member
          rcases List.mem_cons.mp member with rfl | member
          · exact bne_iff_ne.mpr (Ne.symm same)
          · have far := after bucket member
            refine bne_iff_ne.mpr ?_
            omega
        rw [rowAt, none]
        rfl
      refine ⟨missed.symm, fun _ _ => trivial, sorted, ?_, ?_⟩
      · intro bucket member
        rcases List.mem_cons.mp member with rfl | member
        · exact there
        · have far := after bucket member
          refine (List.mem_cons.mp (known _ (List.mem_cons_of_mem _ member))).resolve_left ?_
          omega
      · rw [← StatsOverviewAggRow.zero_def, zero_add]

theorem foldl_seriesStep {starts : List Int} (rising : starts.Pairwise (· < ·)) {state : SeriesState}
    {total : StatsOverviewAggRow} (kept : state.aggregate = total.wrapped)
    (sorted : (state.buckets.map (·.1)).Pairwise (· < ·))
    (known : ∀ bucket ∈ state.buckets, bucket.1 ∈ starts) :
    (starts.foldl seriesStep state).points =
        state.points ++ starts.map (fun start => seriesPoint start (rowAt state.buckets start)) ∧
      (starts.foldl seriesStep state).aggregate = (total + (state.buckets.map (·.2)).sum).wrapped := by
  induction starts generalizing state total with
  | nil =>
    have none : state.buckets = [] := List.eq_nil_iff_forall_not_mem.mpr fun bucket member => by
      simpa using known bucket member
    simp [none, kept]
  | cons start starts ih =>
    obtain ⟨row, rows, sorted', known', sums⟩ := takeBucket_spec rising sorted known
    have next : seriesStep state start = ⟨state.aggregate.accumulate (takeBucket start state.buckets).1,
      (takeBucket start state.buckets).2,
      state.points ++ [seriesPoint start (takeBucket start state.buckets).1]⟩ := rfl
    have kept' : (seriesStep state start).aggregate =
        (total + (takeBucket start state.buckets).1).wrapped := by
      rw [next]
      show state.aggregate.accumulate _ = _
      rw [kept, StatsOverviewAggRow.wrapped_accumulate]
    obtain ⟨points, aggregate⟩ := ih (List.pairwise_cons.mp rising).2 kept' sorted' known'
    rw [List.foldl_cons]
    refine ⟨?_, ?_⟩
    · rw [points, next, List.map_cons, row, List.append_assoc, List.singleton_append]
      congr 2
      apply List.map_congr_left
      intro later member
      rw [rows later member]
    · rw [aggregate, next, add_assoc, sums]

theorem statsSeriesPoints_eq {fromMs toMs intervalMs : Int} (positive : 0 < intervalMs)
    {buckets : List (Int × StatsOverviewAggRow)} (sorted : (buckets.map (·.1)).Pairwise (· < ·))
    (known : ∀ bucket ∈ buckets, bucket.1 ∈ stepBy (firstBucketMs fromMs intervalMs) toMs intervalMs) :
    statsSeriesPoints fromMs toMs intervalMs buckets = (.wrapped (buckets.map Prod.snd).sum,
      (stepBy (firstBucketMs fromMs intervalMs) toMs intervalMs).map fun start =>
        seriesPoint start (rowAt buckets start)) := by
  obtain ⟨points, aggregate⟩ := @foldl_seriesStep _ (stepBy_increasing positive)
    ⟨.default, buckets, []⟩ 0 StatsOverviewAggRow.wrapped_default.symm sorted known
  rw [zero_add] at aggregate
  exact Prod.ext aggregate points

def eventsOf (events : List StatsEventRow) (fromMs toMs intervalMs start : Int) : List StatsEventRow :=
  (eventsWithin events fromMs toMs).filter fun event =>
    start ≤ event.timeMs ∧ event.timeMs < start + intervalMs

structure SeriesExact (events : List StatsEventRow) (fromMs toMs intervalMs : Int)
    (aggregate : StatsOverviewAggRow) (points : List SeriesPoint) : Prop where
  once : (points.map (·.bucketStartMs)).Pairwise (· < ·)
  starts : ∀ start, start ∈ points.map (·.bucketStartMs) ↔
    Aligned intervalMs start ∧ start ≤ toMs ∧ fromMs < start + intervalMs
  counted : ∀ point ∈ points, point = seriesPoint point.bucketStartMs
    (aggregateRow (eventsOf events fromMs toMs intervalMs point.bucketStartMs))
  covered : ∀ event ∈ eventsWithin events fromMs toMs, ∃ point ∈ points, ∀ other ∈ points,
    event ∈ eventsOf events fromMs toMs intervalMs other.bucketStartMs ↔ other = point
  total : aggregate = (aggregateRow (eventsWithin events fromMs toMs)).wrapped

theorem mem_eventsWithin {events : List StatsEventRow} {fromMs toMs : Int} {event : StatsEventRow} :
    event ∈ eventsWithin events fromMs toMs ↔
      event ∈ events ∧ fromMs ≤ event.timeMs ∧ event.timeMs ≤ toMs := by
  simp [eventsWithin]

theorem mem_eventsOf {events : List StatsEventRow} {fromMs toMs intervalMs start : Int}
    {event : StatsEventRow} :
    event ∈ eventsOf events fromMs toMs intervalMs start ↔
      event ∈ eventsWithin events fromMs toMs ∧ start ≤ event.timeMs ∧
        event.timeMs < start + intervalMs := by
  simp [eventsOf]

theorem rowAt_aggregateStatsSeries {events : List StatsEventRow} {fromMs toMs intervalMs start : Int}
    (since : 0 ≤ fromMs) (positive : 0 < intervalMs) (aligned : Aligned intervalMs start) :
    rowAt (aggregateStatsSeries events fromMs toMs intervalMs) start =
      aggregateRow (eventsOf events fromMs toMs intervalMs start) := by
  have found := lookup_groups (orderedGroups_perm (bucketStartMs intervalMs)
    (eventsWithin events fromMs toMs)) aggregateRow start
  have same : rowsOf (bucketStartMs intervalMs) (eventsWithin events fromMs toMs) start =
      eventsOf events fromMs toMs intervalMs start := by
    apply List.filter_congr
    intro event member
    have later := (mem_eventsWithin.mp member).2.1
    rw [decide_eq_decide, bucketStartMs_eq_iff positive (since.trans later)]
    exact and_iff_right aligned
  rw [← same]
  exact found

theorem aggregateStatsSeries_known {events : List StatsEventRow} {fromMs toMs intervalMs : Int}
    (since : 0 ≤ fromMs) (positive : 0 < intervalMs) :
    ∀ bucket ∈ aggregateStatsSeries events fromMs toMs intervalMs,
      bucket.1 ∈ stepBy (firstBucketMs fromMs intervalMs) toMs intervalMs := by
  intro bucket member
  obtain ⟨group, there, rfl⟩ := List.mem_map.mp member
  obtain ⟨⟨event, inside, here⟩, -⟩ := mem_groupRows.mp ((orderedGroups_perm _ _).mem_iff.mp there)
  obtain ⟨-, after, before⟩ := mem_eventsWithin.mp inside
  obtain ⟨aligned, low, high⟩ := (bucketStartMs_eq_iff positive (since.trans after)).mp here
  exact (mem_starts positive).mpr ⟨aligned, low.trans before, by omega⟩

def requestAt (timeMs : Int) : StatsEventRow where
  id := "1"
  timeMs := timeMs
  apiKeyId := 1
  providerId := some 1
  endpointId := none
  upstreamKeyId := none
  apiFormat := "responses"
  model := none
  httpStatus := some 200
  errorType := none
  usage := ⟨10, 5, 0, 0, 0⟩
  usageObserved := true
  priceVersionId := none
  priceTierIndex := none
  durationMs := some 700
  createdAtMs := timeMs

end CodexGate.Telemetry
