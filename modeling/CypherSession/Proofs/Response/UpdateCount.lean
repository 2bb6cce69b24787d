import CypherSession.Proofs.Response.Attribution

/-!
# Update counts

The count of a statement without columns is the sum of four counters that the server reports, as a
64-bit word. It is this sum exactly if a word can hold it, and then it is not taken for the mark of
a statement with columns, as long as the sum is not negative. Decoding restricts neither the signs
of the counters nor their sum.
-/

namespace CypherSession

def FitsWord (n : Int) : Prop := Int64.minValue.toInt ≤ n ∧ n ≤ Int64.maxValue.toInt

theorem fitsWord_toInt (word : Int64) : FitsWord word.toInt :=
  ⟨word.minValue_le_toInt, word.toInt_le⟩

theorem FitsWord.bmod_eq {n : Int} (h : FitsWord n) : n.bmod Int64.size = n := by
  obtain ⟨hlow, hhigh⟩ := h
  have hmin : Int64.minValue.toInt = -9223372036854775808 := rfl
  have hmax : Int64.maxValue.toInt = 9223372036854775807 := rfl
  have hsize : Int64.size = 18446744073709551616 := rfl
  rw [hmin] at hlow
  rw [hmax] at hhigh
  rw [hsize]
  apply Int.bmod_eq_of_le
  · omega
  · omega

namespace Stats

variable {stats : Stats}

def counters (stats : Stats) : List Int64 :=
  [stats.nodesCreated, stats.nodesDeleted, stats.relationshipsCreated, stats.relationshipsDeleted]

def total (stats : Stats) : Int :=
  stats.nodesCreated.toInt + stats.nodesDeleted.toInt + stats.relationshipsCreated.toInt +
    stats.relationshipsDeleted.toInt

def sums (stats : Stats) : List Int :=
  [stats.nodesCreated.toInt + stats.nodesDeleted.toInt,
    stats.nodesCreated.toInt + stats.nodesDeleted.toInt + stats.relationshipsCreated.toInt,
    stats.total]

/-- The counters can be counted in a word: it can hold all sums, and the last one is not negative. -/
structure Countable (stats : Stats) : Prop where
  nonnegative : 0 ≤ stats.total
  fitsWord : ∀ sum ∈ stats.sums, FitsWord sum

theorem toInt_updateCount (stats : Stats) :
    stats.updateCount.toInt = stats.total.bmod Int64.size := by
  have hadd (first second : Int64) :
      (first + second).toInt = (first.toInt + second.toInt).bmod Int64.size :=
    Int64.toInt_add first second
  -- Of the remainders that are taken on the way, only the last one counts.
  rw [updateCount, hadd, hadd, hadd, Int.bmod_add_bmod, Int.add_assoc, Int.bmod_add_bmod,
    ← Int.add_assoc, total]

theorem toInt_updateCount_eq_iff : stats.updateCount.toInt = stats.total ↔ FitsWord stats.total := by
  constructor
  · intro h
    rw [← h]
    exact fitsWord_toInt _
  · intro h
    rw [toInt_updateCount, h.bmod_eq]

theorem total_mem_sums (stats : Stats) : stats.total ∈ stats.sums := by simp [sums]

theorem between_of_mem_sums (h : ∀ counter ∈ stats.counters, 0 ≤ counter.toInt) :
    ∀ sum ∈ stats.sums, 0 ≤ sum ∧ sum ≤ stats.total := by
  -- Every sum is the one before it and a counter more, so they grow from zero to the total.
  have hcreated := h stats.nodesCreated (by simp [counters])
  have hdeleted := h stats.nodesDeleted (by simp [counters])
  have hrelated := h stats.relationshipsCreated (by simp [counters])
  have hunrelated := h stats.relationshipsDeleted (by simp [counters])
  intro sum hmem
  simp only [sums, List.mem_cons, List.not_mem_nil, or_false] at hmem
  rw [total] at hmem ⊢
  omega

/-- Counters that are not negative can be counted unless their total is too large. -/
theorem countable_of_nonnegative (h : ∀ counter ∈ stats.counters, 0 ≤ counter.toInt)
    (hle : stats.total ≤ Int64.maxValue.toInt) : stats.Countable where
  nonnegative := (between_of_mem_sums h stats.total stats.total_mem_sums).1
  fitsWord := by
    intro sum hmem
    obtain ⟨hnonneg, htotal⟩ := between_of_mem_sums h sum hmem
    have hmin : Int64.minValue.toInt ≤ 0 := by decide
    exact ⟨Int.le_trans hmin hnonneg, Int.le_trans htotal hle⟩

end Stats

namespace Envelope

variable {envelope : Envelope}

def total (envelope : Envelope) : Int := (envelope.stats?.map Stats.total).getD 0

/-- The count tells statements with columns from the others, and it is exact for the others. -/
structure CountsUpdates (envelope : Envelope) : Prop where
  mark : envelope.updateCount = -1 ↔ envelope.columns ≠ []
  exact : envelope.columns = [] → envelope.updateCount.toInt = envelope.total
  nonnegative : envelope.columns = [] → 0 ≤ envelope.total
  inRange : envelope.columns = [] → ∀ stats ∈ envelope.stats?, ∀ sum ∈ stats.sums, FitsWord sum

theorem updateCount_of_columns (h : envelope.columns ≠ []) : envelope.updateCount = -1 := by
  have hset : envelope.hasResultSet = true := by
    rw [hasResultSet, List.isEmpty_eq_false_iff.2 h]
    rfl
  rw [updateCount, if_pos hset]

theorem updateCount_of_no_columns (h : envelope.columns = []) :
    envelope.updateCount = (envelope.stats?.map Stats.updateCount).getD 0 := by
  have hset : ¬envelope.hasResultSet = true := by
    rw [hasResultSet, h]
    exact Bool.false_ne_true
  rw [updateCount, if_neg hset]

theorem toInt_updateCount_eq_iff (h : envelope.columns = []) :
    envelope.updateCount.toInt = envelope.total ↔ FitsWord envelope.total := by
  rw [updateCount_of_no_columns h, total]
  cases envelope.stats? with
  | none => exact iff_of_true rfl (fitsWord_toInt 0)
  | some stats => exact Stats.toInt_updateCount_eq_iff

theorem total_of_stats? {stats : Stats} (h : envelope.stats? = some stats) :
    envelope.total = stats.total := by
  rw [total, h]
  rfl

theorem countsUpdates_of_columns (h : envelope.columns ≠ []) : envelope.CountsUpdates where
  mark := iff_of_true (updateCount_of_columns h) h
  exact := fun hnone => absurd hnone h
  nonnegative := fun hnone => absurd hnone h
  inRange := fun hnone => absurd hnone h

theorem countsUpdates_of_countable (hcolumns : envelope.columns = [])
    (h : ∀ stats ∈ envelope.stats?, stats.Countable) : envelope.CountsUpdates := by
  have htotal : 0 ≤ envelope.total ∧ FitsWord envelope.total := by
    cases hstats : envelope.stats? with
    | none =>
      rw [total, hstats]
      exact ⟨Int.le_refl 0, fitsWord_toInt 0⟩
    | some stats =>
      have hcountable := h stats hstats
      rw [total_of_stats? hstats]
      exact ⟨hcountable.nonnegative, hcountable.fitsWord stats.total stats.total_mem_sums⟩
  have hexact : envelope.updateCount.toInt = envelope.total :=
    (toInt_updateCount_eq_iff hcolumns).2 htotal.2
  -- The mark is a count like others, but a negative one.
  have hmark : envelope.updateCount ≠ -1 := by
    intro hmark
    rw [hmark] at hexact
    have hminus : (-1 : Int64).toInt = -1 := rfl
    omega
  exact {
    mark := iff_of_false hmark (not_not_intro hcolumns)
    exact := fun _ => hexact
    nonnegative := fun _ => htotal.1
    inRange := fun _ stats hstats => (h stats hstats).fitsWord }

theorem CountsUpdates.countable (h : envelope.CountsUpdates) (hcolumns : envelope.columns = [])
    {stats : Stats} (hstats : envelope.stats? = some stats) : stats.Countable where
  nonnegative := by
    have htotal := h.nonnegative hcolumns
    rwa [total_of_stats? hstats] at htotal
  fitsWord := h.inRange hcolumns stats hstats

/-- A count is wrong only for counters that cannot be counted, without columns. -/
theorem countsUpdates_iff :
    envelope.CountsUpdates ↔
      (envelope.columns = [] → ∀ stats ∈ envelope.stats?, stats.Countable) := by
  constructor
  · intro h hcolumns stats hstats
    exact h.countable hcolumns hstats
  · intro h
    by_cases hcolumns : envelope.columns = []
    · exact countsUpdates_of_countable hcolumns (h hcolumns)
    · exact countsUpdates_of_columns hcolumns

end Envelope

namespace Decoded

variable {raw : RawResponse} {request : Request} {maxRows : Nat} {decoded : Decoded}

theorem exists_source_of_mem_results {response : Response} {id? : Option Nat} {envelope : Envelope}
    (h : envelope ∈ (ofResponse raw request maxRows response id?).results) :
    (∃ result ∈ response.results, envelope = result.limitRows maxRows) ∨
      ∃ error ∈ response.errors, envelope = .failed error := by
  have hlimited (hmem : envelope ∈ response.results.map (Envelope.limitRows maxRows)) :
      ∃ result ∈ response.results, envelope = result.limitRows maxRows := by
    obtain ⟨result, hresult, rfl⟩ := List.mem_map.1 hmem
    exact ⟨result, hresult, rfl⟩
  change envelope ∈ attributed request _ response.errors.head? at h
  cases herror : response.errors.head? with
  | none =>
    rw [herror] at h
    exact .inl (hlimited h)
  | some error =>
    rw [herror, attributed_eq, List.mem_append, List.mem_singleton] at h
    rcases h with hmem | hfailed
    · exact .inl (hlimited (List.mem_of_mem_take hmem))
    · exact .inr ⟨error, List.mem_of_head? herror, hfailed⟩

/-- **Update counts.** The envelopes of a decoded response are its results, but for the rows that
are cut off, and at most that of a failure. The count of one without columns is the sum of the
counters exactly if a word can hold that sum. It is right in all respects, not negative, not taken
for the mark of a statement with columns, and reached through sums that words can hold, exactly if
the counters can be counted in a word; they can if none is negative and their sum is not too
large. -/
theorem ofRaw_counts_updates (h : Decoded.ofRaw raw request maxRows = .ok decoded) :
    ∃ response, Response.ofRaw raw = .ok response ∧ ∀ envelope ∈ decoded.results,
      ((∃ result ∈ response.results, envelope = result.limitRows maxRows) ∨
        ∃ error ∈ response.errors, envelope = .failed error) ∧
      (envelope.columns = [] →
        (envelope.updateCount.toInt = envelope.total ↔ FitsWord envelope.total)) ∧
      (envelope.CountsUpdates ↔
        (envelope.columns = [] → ∀ stats ∈ envelope.stats?, stats.Countable)) ∧
      ∀ stats ∈ envelope.stats?, (∀ counter ∈ stats.counters, 0 ≤ counter.toInt) →
        stats.total ≤ Int64.maxValue.toInt → stats.Countable := by
  obtain ⟨response, id?, ⟨hresponse, -, -⟩, rfl⟩ := Decoded.ofRaw_eq_ok_iff.1 h
  refine ⟨response, hresponse, fun envelope hmem => ⟨exists_source_of_mem_results hmem, ?_⟩⟩
  exact ⟨Envelope.toInt_updateCount_eq_iff, Envelope.countsUpdates_iff,
    fun stats _ => Stats.countable_of_nonnegative⟩

def sampleCreation : Request := ⟨[⟨"CREATE ()", [], true⟩]⟩

def sampleLargest : RawResponse where
  status := 200
  body := "\x7b\"results\":[\x7b\"stats\":" ++
    "\x7b\"nodes_created\":9223372036854775806,\"nodes_deleted\":1\x7d\x7d]\x7d"

theorem ofRaw_counts_updates_largest :
    ∃ decoded envelope, Decoded.ofRaw sampleLargest sampleCreation 0 = .ok decoded ∧
      envelope ∈ decoded.results ∧ envelope.columns = [] ∧ envelope.CountsUpdates ∧
      envelope.updateCount = Int64.maxValue := by
  let stats : Stats := { nodesCreated := 9223372036854775806, nodesDeleted := 1 }
  let envelope : Envelope := { stats? := some stats }
  let decoded : Decoded := ⟨[envelope], [], none, none, none⟩
  have hdecoded : Decoded.ofRaw sampleLargest sampleCreation 0 = .ok decoded := rfl
  have hmem : envelope ∈ decoded.results := List.mem_singleton.2 rfl
  have hcounters : stats.counters.all (fun counter => decide (0 ≤ counter.toInt)) = true := by decide
  obtain ⟨response, -, henvelopes⟩ := ofRaw_counts_updates hdecoded
  obtain ⟨-, -, hcounts, hcountable⟩ := henvelopes envelope hmem
  have hstats : stats.Countable := hcountable stats rfl
    (fun counter hcounter => of_decide_eq_true (List.all_eq_true.1 hcounters counter hcounter))
    (by decide)
  refine ⟨decoded, envelope, hdecoded, hmem, rfl, hcounts.2 fun _ other hother => ?_, by decide⟩
  cases hother
  exact hstats

def sampleNegative : RawResponse where
  status := 200
  body := "\x7b\"results\":[\x7b\"stats\":\x7b\"nodes_created\":-1\x7d\x7d],\"errors\":[]\x7d"

def sampleOverflow : RawResponse where
  status := 200
  body := "\x7b\"results\":[\x7b\"stats\":" ++
    "\x7b\"nodes_created\":9223372036854775807,\"nodes_deleted\":1\x7d\x7d]\x7d"

/-- A negative counter makes the mark of a statement with columns for one without any, and the sum
of two counters wraps. -/
theorem mark_without_columns :
    (∃ decoded envelope, Decoded.ofRaw sampleNegative sampleCreation 0 = .ok decoded ∧
      envelope ∈ decoded.results ∧ envelope.columns = [] ∧ envelope.updateCount = -1) ∧
    ∃ decoded envelope, Decoded.ofRaw sampleOverflow sampleCreation 0 = .ok decoded ∧
      envelope ∈ decoded.results ∧ envelope.columns = [] ∧
      envelope.total = Int64.maxValue.toInt + 1 ∧ envelope.updateCount = Int64.minValue := by
  constructor
  · let envelope : Envelope := { stats? := some { nodesCreated := -1 } }
    exact ⟨_, envelope, rfl, List.mem_singleton.2 rfl, rfl, by decide⟩
  · let envelope : Envelope :=
      { stats? := some { nodesCreated := Int64.maxValue, nodesDeleted := 1 } }
    exact ⟨_, envelope, rfl, List.mem_singleton.2 rfl, rfl, by decide, by decide⟩

end Decoded

end CypherSession
