import CovenantRadar.Signals.Resolution

/-!
# Source identities

The text `supersession.py` identifies an event by is never blank and holds no
control characters, so only its length can keep an event from becoming an item.
-/

namespace CovenantRadar.Signals.Supersession

/-- A text that passes the control-character test of `_bounded_text`. -/
private def Clean (t : Text) : Prop := ∀ c ∈ t, Text.isControl c = false

private theorem Clean.append {s t : Text} (left : Clean s) (right : Clean t) : Clean (s ++ t) :=
  fun c member => (List.mem_append.mp member).elim (left c) (right c)

private theorem Clean.cons {c : Char} {t : Text} (head : Text.isControl c = false)
    (tail : Clean t) : Clean (c :: t) :=
  List.forall_mem_cons.mpr ⟨head, tail⟩

private theorem Clean.subset {s t : Text} (sub : s ⊆ t) (clean : Clean t) : Clean s :=
  fun c member => clean c (sub member)

/-- What the item built for an event has in common with it. -/
theorem eventCandidate_eq_ok {id : Uuid} {event : SignalEventFacts} {score : EvidenceFacts}
    (built : eventCandidate id event = .ok score) :
    score.id = some id ∧ score.isActive = true ∧ score.supersedesId = none ∧
      score.family = event.family ∧ score.evidenceType.text = event.evidenceType.text ∧
      score.firstSeen = event.eventDate ∧ score.lastSeen = event.eventDate := by
  obtain ⟨evidenceType, source, typed, -, fields⟩ := eventCandidate_eq_ok_iff.mp built
  have sameType : evidenceType.text = event.evidenceType.text := by
    rw [BoundedText.check_ok_iff, Text.bounded_ok_iff, event.evidenceType.bounded.1] at typed
    exact typed.1
  unfold EvidenceFacts.isActive
  rw [fields]
  exact ⟨rfl, rfl, rfl, rfl, sameType, rfl, rfl⟩

end CovenantRadar.Signals.Supersession
