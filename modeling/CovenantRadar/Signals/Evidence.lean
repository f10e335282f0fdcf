import CovenantRadar.Python.Value
import CovenantRadar.Misc.Loop
import Mathlib.Data.Finset.Sort

/-!
# Evidence facts

Source `domain/signals/evidence.py`: the persistence-neutral records of a signal
event, an evidence item and an evidence transition. Texts and dates have been
normalised by `__post_init__`, so their types carry that check; the checks that
relate several fields are `EvidenceFields.Valid`, made again wherever the source
constructs an item.
-/

namespace CovenantRadar.Signals

/-- Source `EVIDENCE_STATES`. -/
inductive EvidenceState where
  | transient
  | sustained
  | superseded
  | disputed
  deriving DecidableEq, Repr

/-- Source `_MAX_EVENT_IDS`. -/
def maxEventIds : Nat := 100000

/-- A tuple of source ids: normalised, sorted and without repetitions. -/
abbrev SourceIds := Finset (BoundedText 128)

/-- Source `_merged_source_ids` on normalised ids: the limit on their number. -/
def mergedSourceIds (values : SourceIds) : Except PyError SourceIds :=
  if maxEventIds < values.card then
    .error (.valueError "An evidence item cannot reference more than 100000 events.")
  else .ok values

/-- Source `_source_ids`. -/
def sourceIds (values : List Text) : Except PyError SourceIds := do
  let normalized ← values.mapM (BoundedText.check "source_event_id" 128)
  mergedSourceIds normalized.toFinset

/-! ## Signal events -/

/-- `UUID | str`, as `_event_identifier` leaves it. -/
inductive EventIdentifier where
  | uuid (value : Uuid)
  | text (value : BoundedText 128)
  deriving DecidableEq

/-- `str(identifier)`. -/
def EventIdentifier.str : EventIdentifier → Text
  | .uuid value => value.str
  | .text value => value.text

/-- Source `SignalEventFacts`. The payload is the canonical one of a stored event;
    `content_hash` is checked by `__post_init__` but kept as it was given. -/
structure SignalEventFacts where
  borrowerId : Uuid
  facilityId : Option Uuid
  eventDate : Date
  family : BoundedText 20
  eventType : BoundedText 100
  evidenceType : BoundedText 100
  magnitude : Option Decimal
  payload : List (Text × Json)
  eventId : Option EventIdentifier
  contentHash : Option Text
  hashBounded : ∀ value ∈ contentHash, Text.IsBounded 128 value.strip

/-! ## Evidence items -/

/-- The fields of `EvidenceFacts`, each with its own check made. -/
structure EvidenceFields where
  id : Option Uuid
  borrowerId : Uuid
  facilityId : Option Uuid
  family : BoundedText 20
  evidenceType : BoundedText 50
  firstSeen : Date
  lastSeen : Date
  persistenceDays : Option Nat
  eventCountWindow : Option Nat
  materialityPct : Option Decimal
  decayFactor : Option Decimal
  state : EvidenceState
  countsTowardPressure : Bool
  supersededById : Option Uuid
  supersedesId : Option Uuid
  sourceEventIds : SourceIds
  deriving DecidableEq

namespace EvidenceFields

/-- An item that links to itself. -/
def linksToItself (fields : EvidenceFields) : Bool :=
  fields.id.isSome && (fields.supersededById == fields.id || fields.supersedesId == fields.id)

/-- `Decimal("0") <= decay_factor <= Decimal("1")`. -/
def decayInRange (fields : EvidenceFields) : Bool :=
  fields.decayFactor.all fun decay =>
    !decay.lt (Decimal.ofInt 0) && !(Decimal.ofInt 1).lt decay

/-- What `EvidenceFacts.__post_init__` checks across fields. -/
structure Valid (fields : EvidenceFields) : Prop where
  ordered : fields.firstSeen ≤ fields.lastSeen
  decay : fields.decayInRange = true
  unlinked : fields.linksToItself = false
  limited : fields.sourceEventIds.card ≤ maxEventIds

end EvidenceFields

/-- Source `EvidenceFacts`: fields that passed `__post_init__`. -/
structure EvidenceFacts extends EvidenceFields where
  valid : toEvidenceFields.Valid
  deriving DecidableEq

namespace EvidenceFacts

@[ext] theorem ext {a b : EvidenceFacts} (same : a.toEvidenceFields = b.toEvidenceFields) :
    a = b := by
  cases a
  cases b
  simpa using same

/-- Source `EvidenceFacts.__post_init__`, from the checks across fields on. -/
def make (fields : EvidenceFields) : Except PyError EvidenceFacts :=
  if ordered : fields.lastSeen < fields.firstSeen then
    .error (.valueError "last_seen must not precede first_seen.")
  else if decay : fields.decayInRange = false then
    .error (.valueError "decay_factor must be between 0 and 1.")
  else if linked : fields.linksToItself = true then
    .error (.valueError "An evidence item cannot link to itself.")
  else if limited : maxEventIds < fields.sourceEventIds.card then
    .error (.valueError "An evidence item cannot reference more than 100000 events.")
  else
    .ok ⟨fields, ⟨not_lt.mp ordered, by simpa using decay, by simpa using linked,
      Nat.not_lt.mp limited⟩⟩

theorem make_eq_ok_iff {fields : EvidenceFields} {item : EvidenceFacts} :
    make fields = .ok item ↔ item.toEvidenceFields = fields := by
  unfold make
  constructor
  · intro returned
    split_ifs at returned
    cases returned
    rfl
  · rintro rfl
    rw [dif_neg (not_lt.mpr item.valid.ordered), dif_neg (by simp [item.valid.decay]),
      dif_neg (by simp [item.valid.unlinked]), dif_neg (Nat.not_lt.mpr item.valid.limited)]

theorem make_returns_iff {fields : EvidenceFields} :
    (∃ item, make fields = .ok item) ↔ fields.Valid := by
  constructor
  · rintro ⟨item, returned⟩
    exact make_eq_ok_iff.mp returned ▸ item.valid
  · intro valid
    exact ⟨⟨fields, valid⟩, make_eq_ok_iff.mpr rfl⟩

/-- Source `EvidenceFacts.identity`. -/
def identity (item : EvidenceFacts) : Uuid × Option Uuid × Text × Text :=
  (item.borrowerId, item.facilityId, item.family.text, item.evidenceType.text)

end EvidenceFacts

/-- Source `EvidenceTransitionFacts`. -/
structure EvidenceTransitionFacts where
  fromState : Option EvidenceState
  toState : EvidenceState
  occurredOn : Date
  rule : BoundedText 100
  evidenceId : Option Uuid
  deriving DecidableEq

end CovenantRadar.Signals
