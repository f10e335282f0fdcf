import CovenantRadar.Audit.Ranges
import CovenantRadar.Integrity.Checks

/-!
# Windows of the audit chain

A window of the chain is verified together with the row before it. It passes exactly when every row in
it is sealed and follows its neighbour, so windows that together read every sequence see what the
verification of the whole table sees.
-/

namespace CovenantRadar

namespace Integrity

open Audit HashChain

/-! ## Rows read back in UTC -/

section

variable {py : Builtins}

/-- Nothing overflows. -/
def NoOverflow {α : Type} (result : Except AuditError α) : Prop :=
  ∀ message, result ≠ .error (.overflowError message)

theorem NoOverflow.ok {α : Type} (value : α) : NoOverflow (.ok value) := by
  intro message raised
  cases raised

theorem NoOverflow.bind {α β : Type} {result : Except AuditError α}
    {next : α → Except AuditError β} (first : NoOverflow result)
    (second : ∀ value, NoOverflow (next value)) : NoOverflow (result >>= next) := by
  intro message raised
  cases result with
  | error error =>
    have same : error = .overflowError message := Except.error.inj raised
    exact first message (congrArg Except.error same)
  | ok value => exact second value message raised

theorem noOverflow_reference (value : AuditValue) (path : Text) :
    NoOverflow (reference py value path) := by
  intro message raised
  unfold reference at raised
  cases value with
  | str text =>
    simp only at raised
    split at raised <;> cases raised
  | _ => cases raised

theorem noOverflow_referenceObject (value : AuditValue) (path : Text) :
    NoOverflow (referenceObject py value path) := by
  intro message raised
  unfold referenceObject at raised
  cases value with
  | mapping items =>
    exact NoOverflow.bind (noOverflow_reference _ path) (fun _ => NoOverflow.ok _) message raised
  | _ => cases raised

mutual

/-- Normalising a payload refuses and fails on types only. -/
theorem noOverflow_normaliseValue :
    ∀ (value : AuditValue) (path : Text), NoOverflow (normaliseValue py value path)
  | .personalValue, path, message, raised => by
    rw [normaliseValue] at raised
    cases raised
  | .personalReference target, path, message, raised => by
    rw [normaliseValue] at raised
    exact NoOverflow.bind (noOverflow_reference target path) (fun _ => NoOverflow.ok _) message raised
  | .mapping items, path, message, raised => by
    rw [normaliseValue] at raised
    exact NoOverflow.bind (noOverflow_normaliseEntries items path []) (fun _ => NoOverflow.ok _)
      message raised
  | .sequence _ items, path, message, raised => by
    rw [normaliseValue] at raised
    exact NoOverflow.bind (noOverflow_normaliseItems items path 0) (fun _ => NoOverflow.ok _)
      message raised
  | .none, path, message, raised => by
    rw [normaliseValue] at raised
    cases raised
  | .bool _, path, message, raised => by
    rw [normaliseValue] at raised
    cases raised
  | .int _, path, message, raised => by
    rw [normaliseValue] at raised
    cases raised
  | .str _, path, message, raised => by
    rw [normaliseValue] at raised
    cases raised
  | .float _, path, message, raised => by
    rw [normaliseValue] at raised
    cases raised
  | .specialFloat, path, message, raised => by
    rw [normaliseValue] at raised
    cases raised
  | .other _, path, message, raised => by
    rw [normaliseValue] at raised
    cases raised

theorem noOverflow_normaliseEntries :
    ∀ (items : List (AuditValue × AuditValue)) (path : Text) (result : List (Text × Json)),
      NoOverflow (normaliseEntries py items path result)
  | [], path, result, message, raised => by
    rw [normaliseEntries] at raised
    cases raised
  | (key, child) :: items, path, result, message, raised => by
    cases key with
    | str key =>
      rw [normaliseEntries] at raised
      split at raised
      · split at raised
        · exact NoOverflow.bind (noOverflow_referenceObject child _)
            (fun _ => noOverflow_normaliseEntries items path _) message raised
        · cases raised
      · exact NoOverflow.bind (noOverflow_normaliseValue child _)
          (fun _ => noOverflow_normaliseEntries items path _) message raised
    | _ =>
      rw [normaliseEntries] at raised
      · cases raised
      · nofun

theorem noOverflow_normaliseItems :
    ∀ (items : List AuditValue) (path : Text) (index : Nat),
      NoOverflow (normaliseItems py items path index)
  | [], path, index, message, raised => by
    rw [normaliseItems] at raised
    cases raised
  | item :: items, path, index, message, raised => by
    rw [normaliseItems] at raised
    exact NoOverflow.bind (noOverflow_normaliseValue item _)
      (fun _ => NoOverflow.bind (noOverflow_normaliseItems items path _) fun _ => NoOverflow.ok _)
      message raised

end

theorem noOverflow_canonicalPayload (payload : AuditValue) :
    NoOverflow (canonicalPayload py payload) := by
  have normalised : NoOverflow (normalisePayload py payload) := by
    intro message raised
    unfold normalisePayload at raised
    cases payload with
    | mapping items => exact noOverflow_normaliseEntries items _ [] message raised
    | _ => cases raised
  apply NoOverflow.bind normalised
  intro value message raised
  split at raised <;> cases raised

/-- An instant in UTC stays within its day. -/
theorem astimezone_zero_ne_none (value : Datetime) : value.astimezone 0 ≠ none := by
  have inDay := value.inDay
  intro outside
  simp only [Datetime.astimezone] at outside
  split at outside
  · omega
  · split at outside
    · cases outside
    · omega

theorem utcTimestamp_of_astimezone {value : Datetime} {offset : Int}
    (aware : value.utcoffset = some offset) {instant : UtcInstant}
    (converted : value.astimezone offset = some instant) : utcTimestamp value = .ok instant := by
  simp only [utcTimestamp, aware, converted]

theorem exists_utcTimestamp {value : Datetime} (utc : value.utcoffset = some 0) :
    ∃ instant, utcTimestamp value = .ok instant := by
  obtain ⟨instant, converted⟩ := Option.ne_none_iff_exists'.mp (astimezone_zero_ne_none value)
  exact ⟨instant, utcTimestamp_of_astimezone utc converted⟩

/-- A row with a positive sequence and an instant in UTC can be read. -/
theorem legible_of_utc {row : AuditChainRow} (positive : 1 ≤ row.sequence)
    (utc : row.occurredAt.utcoffset = some 0) : row.Legible py := by
  refine ⟨positive, ?_⟩
  obtain ⟨instant, timestamp⟩ := exists_utcTimestamp utc
  unfold AuditChainRow.chained Audit.chained
  rw [if_neg (not_lt.mpr positive), timestamp]
  apply NoOverflow.bind (noOverflow_canonicalPayload row.payload)
  intro canonical message raised
  split at raised <;> cases raised

end

/-! ## One window -/

section

variable {py : Builtins} {hexdigest : ByteArray → Text} {table : AuditTable}

/-- Without bounds the stored table is verified as a whole. -/
theorem verifyStored_whole :
    verifyStored py hexdigest table none none = verifyChain py hexdigest table.rows none none := by
  have all : storedRows table none none = table.rows := by
    simp [storedRows]
  have loop : verifyStored py hexdigest table none none =
      if (storedRows table none none).isEmpty then .ok none
      else verifyChain py hexdigest (storedRows table none none) none none := rfl
  rw [loop, all]
  cases rows : table.rows with
  | nil => rfl
  | cons row rows => rfl

/-- A window without rows passes; the rows of another are checked behind the row before them. -/
theorem verifyStored_window {low high : Int} (positive : 1 ≤ low) (ordered : low ≤ high) :
    verifyStored py hexdigest table (some low) (some high) =
      if (storedRows table (some low) (some high)).isEmpty then .ok none
      else verifyRows py hexdigest false none (selectRows table.rows (some low) (some high)) := by
  have inRange : ∀ row ∈ storedRows table (some low) (some high), low ≤ row.sequence := by
    intro row member
    have kept := (List.mem_filter.mp member).2
    simp only [Option.all_some, Bool.and_eq_true, decide_eq_true_eq] at kept
    exact kept.1
  have within : (storedRows table (some low) (some high)).filter
      (fun row => low ≤ row.sequence && (none : Option Int).all (row.sequence ≤ ·)) =
        storedRows table (some low) (some high) := by
    apply List.filter_eq_self.mpr
    intro row member
    simpa using inRange row member
  have nothing : (storedRows table (some low) (some high)).filter (fun row => row.sequence < low) =
      [] := by
    apply List.filter_eq_nil_iff.mpr
    intro row member
    have := inRange row member
    simp only [decide_eq_true_eq]
    omega
  have checked : validateRange (some low) none = .ok () := by
    have : ¬ low < 1 := by omega
    simp [validateRange, this]
  unfold verifyStored
  rw [validateRange_between positive ordered]
  simp only [bind, Except.bind]
  split_ifs with empty
  · rfl
  · cases context : maxBy AuditChainRow.sequence
      (table.rows.filter fun row => row.sequence < low) with
    | none =>
      simp only [verifyChain, checked, bind, Except.bind, selectRows, context, nothing, within]
      rfl
    | some predecessor =>
      have before : predecessor.sequence < low := by
        simpa using (List.mem_filter.mp (maxBy_mem context)).2
      have earlier : ((predecessor :: storedRows table (some low) (some high)).filter
          fun row => row.sequence < low) = [predecessor] := by
        rw [List.filter_cons, if_pos (decide_eq_true before), nothing]
      have later : ((predecessor :: storedRows table (some low) (some high)).filter fun row =>
          low ≤ row.sequence && (none : Option Int).all (row.sequence ≤ ·)) =
            storedRows table (some low) (some high) := by
        rw [List.filter_cons, if_neg (by simp; omega), within]
      simp only [verifyChain, checked, bind, Except.bind, selectRows, context, earlier, later]
      rfl

/-- A window of a stretch passes. -/
theorem verifyStored_of_stretch {low high : Int} (positive : 1 ≤ low) (ordered : low ≤ high)
    (stretch : (rowLinks py hexdigest).Stretch table.rows) :
    verifyStored py hexdigest table (some low) (some high) = .ok none := by
  rw [verifyStored_window positive ordered]
  split_ifs with empty
  · rfl
  · apply (verifyRows_eq_ok_none_iff false none).mpr
    refine ⟨?_, stretch.of_isInfix (selectRows_isInfix table.increasing)⟩
    intro row _
    simp [LinkHolds]

/-- Two neighbours are next to each other in the rows of a window that has the second one. -/
theorem selectRows_neighbours {low high : Int} {front back : List AuditChainRow}
    {before row : AuditChainRow}
    (increasing : (front ++ before :: row :: back).Pairwise fun a b => a.sequence < b.sequence)
    (lower : low ≤ row.sequence) (upper : row.sequence ≤ high) :
    ∃ ahead behind, selectRows (front ++ before :: row :: back) (some low) (some high) =
      ahead ++ before :: row :: behind := by
  obtain ⟨inFront, inBack, across⟩ := List.pairwise_append.mp increasing
  obtain ⟨afterBefore, fromRow⟩ := List.pairwise_cons.mp inBack
  obtain ⟨afterRow, _⟩ := List.pairwise_cons.mp fromRow
  have less : before.sequence < row.sequence := afterBefore row List.mem_cons_self
  have earlier : (row :: back).filter (fun row => row.sequence < low) = [] := by
    apply List.filter_eq_nil_iff.mpr
    intro other member
    simp only [decide_eq_true_eq]
    rcases List.mem_cons.mp member with rfl | later
    · omega
    · have := afterRow other later
      omega
  have kept : (row :: back).filter (fun row => low ≤ row.sequence && (some high).all (row.sequence ≤ ·))
      = row :: back.filter (fun row => low ≤ row.sequence && (some high).all (row.sequence ≤ ·)) := by
    rw [List.filter_cons, if_pos (by simp [lower, upper])]
  by_cases outside : before.sequence < low
  · -- the first neighbour is the last row before the window
    have context : (front ++ before :: row :: back).filter (fun row => row.sequence < low) =
        front ++ [before] := by
      have all : front.filter (fun row => row.sequence < low) = front := by
        apply List.filter_eq_self.mpr
        intro other member
        have := across other member before List.mem_cons_self
        simp only [decide_eq_true_eq]
        omega
      rw [List.filter_append, all, List.filter_cons, if_pos (decide_eq_true outside), earlier]
    have inWindow : (front ++ before :: row :: back).filter
        (fun row => low ≤ row.sequence && (some high).all (row.sequence ≤ ·)) =
          row :: back.filter (fun row => low ≤ row.sequence && (some high).all (row.sequence ≤ ·)) := by
      have none : front.filter (fun row => low ≤ row.sequence && (some high).all (row.sequence ≤ ·)) =
          [] := by
        apply List.filter_eq_nil_iff.mpr
        intro other member
        have := across other member before List.mem_cons_self
        simp only [Bool.and_eq_true, decide_eq_true_eq, not_and]
        omega
      rw [List.filter_append, none, List.filter_cons, if_neg (by simp; omega), kept, List.nil_append]
    have latest : maxBy AuditChainRow.sequence (front ++ [before]) = some before := by
      rw [maxBy_of_increasing, List.getLast?_concat]
      apply List.pairwise_append.mpr
      refine ⟨inFront, List.pairwise_singleton _ _, ?_⟩
      intro other member last isLast
      rw [List.mem_singleton.mp isLast]
      exact across other member before List.mem_cons_self
    refine ⟨[], back.filter (fun row => low ≤ row.sequence && (some high).all (row.sequence ≤ ·)), ?_⟩
    simp only [selectRows]
    rw [context, latest, inWindow]
    rfl
  · -- both neighbours are in the window
    have inWindow : (front ++ before :: row :: back).filter
        (fun row => low ≤ row.sequence && (some high).all (row.sequence ≤ ·)) =
          front.filter (fun row => low ≤ row.sequence && (some high).all (row.sequence ≤ ·)) ++
            before :: row ::
              back.filter (fun row => low ≤ row.sequence && (some high).all (row.sequence ≤ ·)) := by
      rw [List.filter_append, List.filter_cons, if_pos (by simp; omega), kept]
    refine ⟨(maxBy AuditChainRow.sequence ((front ++ before :: row :: back).filter
      fun row => row.sequence < low)).toList ++
        front.filter (fun row => low ≤ row.sequence && (some high).all (row.sequence ≤ ·)),
      back.filter (fun row => low ≤ row.sequence && (some high).all (row.sequence ≤ ·)), ?_⟩
    simp only [selectRows]
    rw [inWindow, List.append_assoc]

/-- A window that passes has checked each of its rows against its neighbour. -/
theorem checked_of_verifyStored {low high : Int} (positive : 1 ≤ low)
    (passed : verifyStored py hexdigest table (some low) (some high) = .ok none)
    {row : AuditChainRow} (member : row ∈ table.rows) (lower : low ≤ row.sequence)
    (upper : row.sequence ≤ high) :
    (rowLinks py hexdigest).Sealed row ∧
      ∀ front before back, table.rows = front ++ before :: row :: back →
        (rowLinks py hexdigest).Follows before row := by
  rw [verifyStored_window positive (by omega)] at passed
  have inWindow : row ∈ storedRows table (some low) (some high) :=
    List.mem_filter.mpr ⟨member, by simp [lower, upper]⟩
  rw [if_neg (by simpa using List.ne_nil_of_mem inWindow)] at passed
  have stretch := ((verifyRows_eq_ok_none_iff false none).mp passed).2
  constructor
  · apply stretch.sealed
    simp only [selectRows]
    exact List.mem_append_right _ inWindow
  · intro front before back place
    have increasing := table.increasing
    rw [place] at increasing stretch
    obtain ⟨ahead, behind, selected⟩ := selectRows_neighbours increasing lower upper
    exact (Links.stretch_iff_forall.mp stretch row (by simp [selected])).2 ahead before behind selected

/-- On readable rows a window is verified. -/
theorem exists_verifyStored {low high : Int} (positive : 1 ≤ low) (ordered : low ≤ high)
    (first : ∀ row ∈ table.rows, 1 ≤ row.sequence) :
    ∃ found, verifyStored py hexdigest table (some low) (some high) = .ok found := by
  rw [verifyStored_window positive ordered]
  split_ifs with empty
  · exact ⟨none, rfl⟩
  · apply verifyRows_returns
    intro row member
    have listed : row ∈ table.rows := (selectRows_isInfix table.increasing).subset member
    exact legible_of_utc (first row listed) (table.utc row listed)

end

end Integrity

end CovenantRadar
