import CovenantRadar.Ingestion.Report

/-!
# Reading a report back

What `from_dict` makes of what `as_dict` writes: every field comes back, decimals without their
exponent and samples without their row, except a lag below zero, which is refused.
-/

namespace CovenantRadar.Ingestion

open Taxonomy (SignalFamily)

/-! ## Values -/

theorem reportText_str {text : Text} (visible : Text.strip text ≠ []) (name : String) :
    reportText (.str text) name = .ok text := if_neg visible

theorem reportInt_natCast (count : Nat) (name : String) :
    reportInt (.int count) name = .ok count := by
  have nonneg : ¬ (count : Int) < 0 := by omega
  rw [reportInt, if_neg nonneg, Int.toNat_natCast]

theorem reportUuid_str (id : Uuid) (name : String) : reportUuid (.str id.str) name = .ok id := by
  rw [reportUuid, Uuid.ofText_str, Option.elim_some]

theorem reportDecimal_fixed (number : Decimal) (name : String) :
    reportDecimal (.str number.fixed) name = .ok number.plain := by
  rw [reportDecimal, Decimal.ofText_fixed, Option.elim_some]

theorem dateOfIso_isoformat (date : Date) : dateOfIso date.isoformat = some date := by
  have read := readDate_isoformat date []
  rw [List.append_nil] at read
  rw [dateOfIso, read, Option.bind_some, if_pos rfl]

theorem reportDate_nullable (date : Option Date) :
    reportDate (nullable (fun date => .str date.isoformat) date) = .ok date := by
  cases date with
  | none => rfl
  | some date =>
    simp only [nullable, Option.elim_some, reportDate, dateOfIso_isoformat]

theorem toUtc_aware (instant : UtcInstant) : toUtc instant.aware = .ok instant := by
  have utc : instant.aware.utcoffset = some 0 := rfl
  unfold toUtc
  rw [utc]
  simp only
  rw [instant.astimezone_aware, Option.elim_some]

theorem reportDatetime_isoformat (instant : UtcInstant) :
    reportDatetime (.str instant.isoformatAuto) = .ok instant := by
  simp only [reportDatetime]
  rw [UtcInstant.fromIsoformat_isoformatAuto, Option.elim_some, toUtc_aware]

theorem reportReference_nullable {reference : Option Text}
    (visible : ∀ text, reference = some text → Text.strip text ≠ []) :
    reportReference (nullable .str reference) = .ok reference := by
  cases reference with
  | none => rfl
  | some text =>
    simp only [nullable, Option.elim_some, reportReference, reportText_str (visible text rfl)]
    rfl

theorem reportSource_nullable (source : Option Uuid) :
    reportSource (nullable (fun id => .str id.str) source) = .ok source := by
  cases source with
  | none => rfl
  | some id =>
    simp only [nullable, Option.elim_some, reportSource, reportUuid_str]
    rfl

/-- A list of written values is read value by value. -/
theorem mapM_map_ok {ε α β : Type} {read : β → Except ε α} {write : α → β} {xs : List α}
    (back : ∀ x ∈ xs, read (write x) = .ok x) : (xs.map write).mapM read = .ok xs := by
  rw [mapM_eq_ok_iff, List.forall₂_map_left_iff, List.forall₂_same]
  exact back

theorem reportMappingList_map {α : Type} (write : α → JsonObject) (xs : List α) (name : String) :
    reportMappingList (.arr (xs.map fun x => .obj (write x))) name = .ok (xs.map write) := by
  have objects : (xs.map fun x => Json.obj (write x)) = (xs.map write).map Json.obj := by
    rw [List.map_map]
    rfl
  rw [objects]
  exact mapM_map_ok fun _ _ => rfl

/-! ## Source lags -/

/-- The lag is not below zero. -/
def SignalSourceLag.Readable (lag : SignalSourceLag) : Prop :=
  ∀ days, lag.lagDays = some days → 0 ≤ days

/-- A lag comes back exactly where it is not below zero. -/
theorem SignalSourceLag.ofDict_asDict_iff {lag back : SignalSourceLag} :
    ofDict lag.asDict = .ok back ↔ back = lag ∧ lag.Readable := by
  have sourceId : field lag.asDict "source_id" = .str lag.sourceId.str := rfl
  have stated : field lag.asDict "stated_as_of_date" =
      nullable (fun date => .str date.isoformat) lag.statedAsOfDate := rfl
  have days : field lag.asDict "lag_days" = nullable .int lag.lagDays := rfl
  unfold ofDict Readable
  rw [sourceId, stated, days, reportUuid_str, reportDate_nullable]
  obtain ⟨id, date, count⟩ := lag
  cases count with
  | none =>
    simp only [nullable, Option.elim_none, reportOptionalInt, bind, Except.bind, Option.map_none,
      Except.ok.injEq, reduceCtorEq, false_implies, implies_true, and_true]
    exact eq_comm
  | some count =>
    simp only [nullable, Option.elim_some, reportOptionalInt, reportInt, Option.some.injEq,
      forall_eq', bind, Except.bind]
    split_ifs with negative
    · simp only [misread, Except.map, reduceCtorEq, false_iff, not_and]
      intro _
      omega
    · have whole : Int.ofNat count.toNat = count := Int.toNat_of_nonneg (by omega)
      simp only [Except.map, Option.map_some, whole, Except.ok.injEq]
      exact ⟨fun same => ⟨same.symm, by omega⟩, fun same => same.1.symm⟩

theorem mapM_lags_iff {lags back : List SignalSourceLag} :
    (lags.map SignalSourceLag.asDict).mapM SignalSourceLag.ofDict = .ok back ↔
      back = lags ∧ ∀ lag ∈ lags, lag.Readable := by
  rw [mapM_eq_ok_iff, List.forall₂_map_left_iff]
  induction lags generalizing back with
  | nil => simp
  | cons lag lags ih =>
    constructor
    · intro pairs
      cases pairs with
      | cons first rest =>
        obtain ⟨rfl, readable⟩ := SignalSourceLag.ofDict_asDict_iff.mp first
        obtain ⟨rfl, others⟩ := ih.mp rest
        exact ⟨rfl, List.forall_mem_cons.mpr ⟨readable, others⟩⟩
    · rintro ⟨rfl, readable⟩
      obtain ⟨first, rest⟩ := List.forall_mem_cons.mp readable
      exact .cons (SignalSourceLag.ofDict_asDict_iff.mpr ⟨rfl, first⟩) (ih.mpr ⟨rfl, rest⟩)

/-! ## Rejection reasons -/

/-- The summary with its share as it is written. -/
def RejectionReasonSummary.plain (summary : RejectionReasonSummary) : RejectionReasonSummary :=
  { summary with share := summary.share.plain, shared := summary.shared.plain }

theorem RejectionReasonSummary.asDict_plain (summary : RejectionReasonSummary) :
    summary.plain.asDict = summary.asDict := by
  unfold asDict plain
  simp only [Decimal.plain_fixed]

theorem RejectionReasonSummary.ofDict_asDict (summary : RejectionReasonSummary) :
    ofDict summary.asDict = .ok summary.plain := by
  have reason : field summary.asDict "reason" = .str summary.reason := rfl
  have count : field summary.asDict "count" = .int summary.count := rfl
  have share : field summary.asDict "share" = .str summary.share.fixed := rfl
  have dominant : fieldOr summary.asDict "dominant" (.bool false) = .bool summary.dominant := rfl
  unfold ofDict
  rw [reason, count, share, dominant, reportText_str summary.explained, reportInt_natCast,
    reportDecimal_fixed]
  exact make_returns summary.dominant summary.explained summary.positive summary.shared.plain

theorem mapM_reasons (summaries : List RejectionReasonSummary) :
    (summaries.map RejectionReasonSummary.asDict).mapM RejectionReasonSummary.ofDict =
      .ok (summaries.map RejectionReasonSummary.plain) := by
  rw [mapM_eq_ok_iff, List.forall₂_map_left_iff, List.forall₂_map_right_iff, List.forall₂_same]
  exact fun summary _ => summary.ofDict_asDict

/-! ## Sample rows -/

/-- A row as a stored report keeps it. -/
def QuarantinedSignal.stored (batchId : Uuid) (generatedAt : UtcInstant)
    (signal : QuarantinedSignal) : QuarantinedSignal :=
  { signal with batchId, raw := none, occurredAt := generatedAt }

theorem QuarantinedSignal.ofDict_asDict (batchId : Uuid) (generatedAt : UtcInstant)
    (signal : QuarantinedSignal) :
    ofDict (.str batchId.str) generatedAt signal.asDict =
      .ok (signal.stored batchId generatedAt) := by
  have rowNumber : field signal.asDict "row_number" = .int signal.rowNumber := rfl
  have reason : field signal.asDict "reason" = .str signal.reason := rfl
  have sourceId : field signal.asDict "source_id" =
      nullable (fun id => .str id.str) signal.sourceId := rfl
  unfold ofDict
  rw [rowNumber, reason, sourceId, reportUuid_str, reportInt_natCast,
    reportText_str signal.explained, reportSource_nullable]
  simp only [bind, Except.bind, make]
  rw [dif_pos signal.positive, dif_pos signal.explained, dif_pos signal.bounded]
  rfl

theorem mapM_samples (batchId : Uuid) (generatedAt : UtcInstant)
    (signals : List QuarantinedSignal) :
    (signals.map QuarantinedSignal.asDict).mapM
        (QuarantinedSignal.ofDict (.str batchId.str) generatedAt) =
      .ok (signals.map (·.stored batchId generatedAt)) := by
  rw [mapM_eq_ok_iff, List.forall₂_map_left_iff, List.forall₂_map_right_iff, List.forall₂_same]
  exact fun signal _ => signal.ofDict_asDict batchId generatedAt

/-! ## Reports -/

theorem visible_family (family : SignalFamily) : Text.strip family.value ≠ [] := by
  cases family <;> decide

theorem find_family (family : SignalFamily) :
    (SignalFamily.families.find? fun known => known.value = family.value) = some family := by
  cases family <;> decide

theorem reportVolume_value (entry : SignalFamily × Nat) :
    reportVolume (entry.1.value, .int entry.2) = .ok entry := by
  unfold reportVolume
  rw [reportText_str (visible_family entry.1), reportInt_natCast]
  simp only [bind, Except.bind, find_family]

namespace SignalIngestionReport

/-- The text fields are such as the service lets through. -/
structure Visible (report : SignalIngestionReport) : Prop where
  sourceType : Text.strip report.sourceType ≠ []
  sourceReference : ∀ text, report.sourceReference = some text → Text.strip text ≠ []

/-- The report as it is read back. -/
def stored (report : SignalIngestionReport) : SignalIngestionReport :=
  { report with
    quarantined := report.sample.map (·.stored report.batchId report.generatedAt)
    topRejectionReasons := report.topRejectionReasons.map RejectionReasonSummary.plain
    dominantReasonShare := report.dominantReasonShare.plain
    sampled := by
      rw [List.length_map]
      exact le_trans (List.length_take_le' _ _) report.sampled
    shared := report.shared.plain }

theorem sample_stored (report : SignalIngestionReport) :
    report.stored.sample = report.sample.map (·.stored report.batchId report.generatedAt) := by
  unfold sample
  simp only [stored, sample]
  rw [List.take_of_length_le]
  rw [List.length_map]
  exact List.length_take_le _ _

theorem asDict_stored (report : SignalIngestionReport) : report.stored.asDict = report.asDict := by
  have samples : (report.stored.sample.map fun signal => Json.obj signal.asDict) =
      report.sample.map fun signal => Json.obj signal.asDict := by
    rw [sample_stored, List.map_map]
    rfl
  have reasons : (report.stored.topRejectionReasons.map fun summary => Json.obj summary.asDict) =
      report.topRejectionReasons.map fun summary => Json.obj summary.asDict := by
    simp only [stored, List.map_map]
    apply List.map_congr_left
    intro summary _
    exact congrArg Json.obj summary.asDict_plain
  have flagged : report.stored.dominantReasonFlagged = report.dominantReasonFlagged := by
    simp only [dominantReasonFlagged, stored, List.any_map]
    rfl
  have share : report.stored.dominantReasonShare.fixed = report.dominantReasonShare.fixed :=
    report.dominantReasonShare.plain_fixed
  unfold asDict
  rw [samples, reasons, flagged, share]
  rfl

/-- The entries `from_dict` looks up are the ones `as_dict` wrote. -/
theorem field_asDict (report : SignalIngestionReport) :
    field report.asDict "generated_at" = .str report.generatedAt.isoformatAuto ∧
      fieldOr report.asDict "source_ids" (.arr []) =
        .arr (report.sourceIds.map fun id => .str id.str) ∧
      fieldOr report.asDict "family_volumes" (.obj []) =
        .obj (report.familyVolumes.map fun entry => (entry.1.value, .int entry.2)) ∧
      fieldOr report.asDict "source_lag" (.arr []) =
        .arr (report.sourceLag.map fun lag => .obj lag.asDict) ∧
      fieldOr report.asDict "top_rejection_reasons" (.arr []) =
        .arr (report.topRejectionReasons.map fun summary => .obj summary.asDict) ∧
      field report.asDict "batch_id" = .str report.batchId.str ∧
      fieldOr report.asDict "source_type" (.str "api".toList) = .str report.sourceType ∧
      field report.asDict "source_reference" = nullable .str report.sourceReference ∧
      field report.asDict "received" = .int report.received ∧
      field report.asDict "inserted" = .int report.inserted ∧
      field report.asDict "duplicates" = .int report.duplicates ∧
      field report.asDict "rejected" = .int report.rejected ∧
      fieldOr report.asDict "dominant_reason_share" (.str "0.50".toList) =
        .str report.dominantReasonShare.fixed := by
  refine ⟨rfl, rfl, rfl, rfl, rfl, rfl, rfl, rfl, rfl, rfl, rfl, rfl, rfl⟩

theorem reportSamples_asDict (report : SignalIngestionReport) :
    reportSamples report.asDict report.generatedAt =
      .ok (report.sample.map (·.stored report.batchId report.generatedAt)) := by
  have quarantine : fieldOr report.asDict "quarantine" (.obj []) = .obj [
      ("count".toList, .int report.rejected),
      ("sample".toList, .arr (report.sample.map fun signal => .obj signal.asDict))] := rfl
  have batch : field report.asDict "batch_id" = .str report.batchId.str := rfl
  unfold reportSamples
  rw [quarantine, batch]
  have sample : fieldOr [("count".toList, Json.int report.rejected),
      ("sample".toList, .arr (report.sample.map fun signal => .obj signal.asDict))] "sample"
        (.arr []) = .arr (report.sample.map fun signal => .obj signal.asDict) := rfl
  simp only
  rw [sample, reportMappingList_map]
  exact mapM_samples report.batchId report.generatedAt report.sample

/-- A stored report is read back exactly where no lag is below zero. -/
theorem fromDict_asDict_iff {report back : SignalIngestionReport} (visible : report.Visible) :
    fromDict report.asDict = .ok back ↔
      back = report.stored ∧ ∀ lag ∈ report.sourceLag, lag.Readable := by
  obtain ⟨generatedAt, sourceIds, volumes, lags, reasons, batch, sourceType, reference, received,
    inserted, duplicates, rejected, share⟩ := report.field_asDict
  have identifiers := @mapM_map_ok DomainError Uuid Json (fun value => reportUuid value "source_ids")
    (fun id => .str id.str) report.sourceIds fun id _ => reportUuid_str id _
  have counts := @mapM_map_ok DomainError _ _ reportVolume (fun entry => (entry.1.value, .int entry.2))
    report.familyVolumes fun entry _ => reportVolume_value entry
  unfold fromDict
  rw [generatedAt, sourceIds, volumes, lags, reasons, batch, sourceType, reference, received,
    inserted, duplicates, rejected, share, reportDatetime_isoformat, reportMappingList_map,
    reportMappingList_map, reportUuid_str, reportText_str visible.sourceType,
    reportReference_nullable visible.sourceReference, reportDecimal_fixed]
  simp only [reportInt_natCast, reportList, reportVolumes, bind, Except.bind, identifiers, counts,
    reportSamples_asDict, mapM_reasons]
  cases read : (report.sourceLag.map SignalSourceLag.asDict).mapM SignalSourceLag.ofDict with
  | error error =>
    simp only [reduceCtorEq, false_iff, not_and]
    intro _ readable
    rw [mapM_lags_iff.mpr ⟨rfl, readable⟩] at read
    cases read
  | ok lags =>
    obtain ⟨rfl, readable⟩ := mapM_lags_iff.mp read
    have sampled := report.stored.sampled
    simp only [stored] at sampled
    simp only
    rw [make_returns report.typed report.reconciles sampled report.shared.plain, Except.ok.injEq]
    exact ⟨fun same => ⟨same.symm, readable⟩, fun same => same.1.symm⟩

end SignalIngestionReport

end CovenantRadar.Ingestion
