import CovenantRadar.Notifications.Runs

/-!
# What the dispatchers do to a row

Each dispatcher handles a row at most once in a call: it keeps it from the adapter, or attempts it
once and records the result. The rows it does not select are as they were.
-/

namespace CovenantRadar

namespace Notifications

/-! ## One row -/

/-- What never changes of a notification. -/
structure NotificationContent where
  id : Uuid
  recipientId : Uuid
  channel : NotificationChannel
  template : Text
  subject : Option (Text × Uuid)
  payload : Option JsonMapping

def Notification.content (row : Notification) : NotificationContent :=
  ⟨row.id, row.recipientId, row.channel, row.template, row.subject, row.payload⟩

/-- Two states of one notification. -/
def SameNotification (row row' : Notification) : Prop := row'.content = row.content

namespace SameNotification

variable {row row' : Notification}

theorem id (same : SameNotification row row') : row'.id = row.id :=
  congrArg NotificationContent.id same

theorem recipientId (same : SameNotification row row') : row'.recipientId = row.recipientId :=
  congrArg NotificationContent.recipientId same

theorem subject (same : SameNotification row row') : row'.subject = row.subject :=
  congrArg NotificationContent.subject same

end SameNotification

/-- A pending row that is handled: it is kept from the adapter, or attempted once with the counter
    set to a number. -/
inductive Handled (maxAttempts attempt : Nat) (row : Notification) :
    List Attempt → Notification → Prop where
  | kept {row' : Notification} (same : SameNotification row row')
      (attempts : row'.attempts = row.attempts)
      (state : row'.state = .pending ∨ row'.state = .suppressed) :
      Handled maxAttempts attempt row [] row'
  | sent {a : Attempt} {row' : Notification} (here : a.notification = row)
      (same : SameNotification row row') (state : row'.state = .sent) (result : a.result = .sent) :
      Handled maxAttempts attempt row [a] row'
  | deadLettered {a : Attempt} {row' : Notification} (here : a.notification = row)
      (same : SameNotification row row') (state : row'.state = .deadLettered)
      (failed : a.result ≠ .sent)
      (why : (∃ error, a.result = .deadLettered error) ∨ maxAttempts ≤ attempt) :
      Handled maxAttempts attempt row [a] row'
  | retried {a : Attempt} {row' : Notification} (here : a.notification = row)
      (same : SameNotification row row') (state : row'.state = .pending)
      (attempts : row'.attempts = attempt) (failed : a.result ≠ .sent) :
      Handled maxAttempts attempt row [a] row'

theorem Handled.same {maxAttempts attempt : Nat} {row row' : Notification} {as : List Attempt}
    (handled : Handled maxAttempts attempt row as row') : SameNotification row row' := by
  cases handled <;> assumption

theorem Handled.of {maxAttempts attempt : Nat} {row row' : Notification} {as : List Attempt}
    (handled : Handled maxAttempts attempt row as row') : ∀ a ∈ as, a.notification = row := by
  cases handled with
  | kept => exact fun a listed => absurd listed List.not_mem_nil
  | sent here => exact fun a listed => List.mem_singleton.mp listed ▸ here
  | deadLettered here => exact fun a listed => List.mem_singleton.mp listed ▸ here
  | retried here => exact fun a listed => List.mem_singleton.mp listed ▸ here

/-- A result that ends the retries is a dead letter, or the attempts are used up. -/
theorem why_of_endsRetries {settings : DeliverySettings} {result : DeliveryResult} {attempt : Nat}
    (failed : result ≠ .sent) (ends : endsRetries settings result attempt = true) :
    (∃ error, result = .deadLettered error) ∨ settings.maxAttempts ≤ attempt := by
  cases result with
  | sent => exact absurd rfl failed
  | retry error seconds => exact Or.inr (of_decide_eq_true ends)
  | deadLettered error => exact Or.inl ⟨error, rfl⟩

theorem same_alertDeadLetter (service : NotificationService) (row : Notification) (reason : Text) :
    SameNotification row (alertDeadLetter service row reason) ∧
      (alertDeadLetter service row reason).state = row.state := by
  unfold alertDeadLetter
  split <;> exact ⟨rfl, rfl⟩

theorem afterSending_handled {service : NotificationService} {now : UtcInstant}
    {row row' : Notification} {result : DeliveryResult} {a : Attempt}
    (here : a.notification = row) (of : a.result = result)
    (after : afterSending service now row result = .ok row') :
    Handled service.settings.maxAttempts (row.attempts + 1) row [a] row' := by
  unfold afterSending at after
  simp only at after
  split_ifs at after with sent ends
  · cases after
    exact .sent here rfl rfl (of.trans sent)
  · cases after
    obtain ⟨same, state⟩ := same_alertDeadLetter service
      (row.deadLetter (row.attempts + 1) now
        (errorText (result.error.getD "notification delivery failed".toList)))
      (errorText (result.error.getD "notification delivery failed".toList))
    exact .deadLettered here same state (of ▸ sent)
      (of ▸ why_of_endsRetries sent ends)
  · obtain ⟨again, _, after⟩ := Except.bind_eq_ok_iff.mp after
    cases after
    exact .retried here rfl rfl rfl (of ▸ sent)

/-! ## Before the adapter -/

/-- Whether a notification may be delivered: its recipient is active and sees its subject. -/
def Directory.mayReceive (directory : Directory) (row : Notification) : Prop :=
  directory.isActive row.recipientId = true ∧
    ∀ subject ∈ row.subject, directory.sees row.recipientId subject = true

/-- What may be before the adapter is called: a row that is kept is suppressed or put off, and one
    that is not may be delivered. -/
def Prepared.Fits (directory : Directory) (row : Notification) : Prepared → Prop
  | .kept row' => SameNotification row row' ∧ row'.attempts = row.attempts ∧
      (row'.state = row.state ∨ row'.state = .suppressed)
  | _ => directory.mayReceive row

theorem fits_suppress {directory : Directory} {row : Notification} (reason : Text) :
    (Prepared.kept (row.suppress reason)).Fits directory row :=
  ⟨rfl, rfl, Or.inr rfl⟩

theorem prepareMessage_fits {directory : Directory} {row : Notification}
    (may : directory.mayReceive row) (template : NotificationTemplate) :
    (prepareMessage template row).Fits directory row := by
  unfold prepareMessage
  split
  · exact fits_suppress _
  · split
    · exact may
    · exact may

theorem prepareVisible_fits {directory : Directory} {row : Notification} {prepared : Prepared}
    {template : NotificationTemplate} (active : directory.isActive row.recipientId = true)
    (returned : prepareVisible directory template row = .ok prepared) :
    prepared.Fits directory row := by
  unfold prepareVisible at returned
  cases given : row.subject with
  | none =>
    rw [given] at returned
    cases returned
    exact prepareMessage_fits ⟨active, by simp [given]⟩ template
  | some subject =>
    rw [given] at returned
    obtain ⟨scope, granted, returned⟩ := Except.bind_eq_ok_iff.mp returned
    split_ifs at returned with visible
    · cases returned
      refine prepareMessage_fits ⟨active, fun other same => ?_⟩ template
      rw [given] at same
      cases same
      unfold Directory.sees
      rw [granted]
      exact visible
    · cases returned
      exact fits_suppress _

theorem prepare_fits {registry : TemplateRegistry} {directory : Directory}
    {preferences : Uuid → Text → NotificationChannel → NotificationPreference} {now : UtcInstant}
    {row : Notification} {prepared : Prepared}
    (returned : prepare registry directory preferences now row = .ok prepared) :
    prepared.Fits directory row := by
  unfold prepare at returned
  split_ifs at returned with inactive
  · cases returned
    exact fits_suppress _
  split at returned
  · cases returned
    exact fits_suppress _
  · simp only at returned
    split_ifs at returned with disabled
    · cases returned
      exact fits_suppress _
    · obtain ⟨deferred, _, returned⟩ := Except.bind_eq_ok_iff.mp returned
      cases deferred with
      | some resumed =>
        cases returned
        exact ⟨rfl, rfl, Or.inl rfl⟩
      | none => exact prepareVisible_fits (by simpa using inactive) returned

section Immediate

variable {service : NotificationService} {directory : Directory}
  {preferences : Uuid → Text → NotificationChannel → NotificationPreference} {now : UtcInstant}
  {notifier : Uuid → OutboundMessage → Except Text DeliveryResult} {row row' : Notification}

/-- What the immediate dispatcher hands to the adapter may be delivered. -/
theorem sendOne_mayReceive {a : Attempt}
    (made : a ∈ (sendOne service directory preferences now notifier row).1) :
    a.notification = row ∧ directory.mayReceive row := by
  unfold sendOne at made
  split at made
  · cases made
  · cases made
  · next prepared =>
    rw [List.mem_singleton.mp made]
    exact ⟨rfl, prepare_fits prepared⟩
  · next prepared =>
    rw [List.mem_singleton.mp made]
    exact ⟨rfl, prepare_fits prepared⟩

/-- The immediate dispatcher handles a pending row. -/
theorem sendOne_handled (pending : row.state = .pending)
    (sent : (sendOne service directory preferences now notifier row).2 = .ok row') :
    Handled service.settings.maxAttempts (row.attempts + 1) row
      (sendOne service directory preferences now notifier row).1 row' := by
  unfold sendOne at sent ⊢
  split at sent
  · cases sent
  · next kept prepared =>
    cases sent
    obtain ⟨same, attempts, state⟩ := prepare_fits prepared
    rw [pending] at state
    exact .kept same attempts state
  · exact afterSending_handled rfl rfl sent
  · exact afterSending_handled rfl rfl sent

end Immediate

/-! ## Calls -/

/-- The attempts of a row. -/
def attemptsAt (id : Uuid) (as : List Attempt) : List Attempt :=
  as.filter fun a => a.notification.id = id

/-- What a call is: the bound on the attempts, whether its digests have even counters, and the dead
    letters it may replay. -/
structure CallRules where
  maxAttempts : Nat
  even : Prop
  replays : Uuid → Prop

/-- A call of the immediate dispatcher. -/
def NotificationService.rules (service : NotificationService) (replays : Uuid → Prop) : CallRules :=
  ⟨service.settings.maxAttempts, True, replays⟩

/-- A call of the digest dispatcher. -/
def DigestDeliveryService.rules (service : DigestDeliveryService) (even : Prop) : CallRules :=
  ⟨service.settings.maxAttempts, even, fun _ => False⟩

/-- A row that is handled: a pending one, its counter one more if the counters are even, or a dead
    letter that is replayed. -/
inductive Updated (rules : CallRules) (row : Notification) (as : List Attempt)
    (row' : Notification) : Prop
  | pending (attempt : Nat) (counted : rules.even → attempt = row.attempts + 1)
      (state : row.state = .pending) (handled : Handled rules.maxAttempts attempt row as row')
  | replayed (now : UtcInstant) (allowed : rules.replays row.id) (state : row.state = .deadLettered)
      (handled : Handled rules.maxAttempts 1 (row.revive now) as row')

/-- What a call does: it handles the rows with these identifiers one after the other. -/
inductive Made (rules : CallRules) :
    NotificationTable → List Uuid → List Attempt → NotificationTable → Prop
  | nil {table : NotificationTable} : Made rules table [] [] table
  | cons {table next : NotificationTable} {row row' : Notification} {as bs : List Attempt}
      {ids : List Uuid} (found : table.find row.id = some row)
      (updated : Updated rules row as row')
      (rest : Made rules (table.put row') ids bs next) :
      Made rules table (row.id :: ids) (as ++ bs) next

variable {rules : CallRules} {table mid next : NotificationTable} {row row' : Notification}
  {as bs : List Attempt} {ids others : List Uuid} {id : Uuid}

theorem Updated.same (updated : Updated rules row as row') :
    SameNotification row row' ∧ ∀ a ∈ as, a.notification.id = row.id := by
  cases updated with
  | pending _ _ _ handled =>
    exact ⟨handled.same, fun a listed => congrArg Notification.id (handled.of a listed)⟩
  | replayed now _ _ handled =>
    exact ⟨handled.same,
      fun a listed => handled.of a listed ▸ rfl⟩

theorem Updated.find_put (found : table.find row.id = some row)
    (updated : Updated rules row as row') (id : Uuid) :
    (table.put row').find id = if id = row.id then some row' else table.find id := by
  have key := updated.same.1.id
  rw [← key] at found ⊢
  exact KeyedTable.find_put found id

theorem Updated.attemptsAt (updated : Updated rules row as row') (id : Uuid) :
    attemptsAt id as = if id = row.id then as else [] := by
  by_cases here : id = row.id
  · rw [if_pos here]
    refine List.filter_eq_self.mpr fun a listed => decide_eq_true ?_
    rw [here, updated.same.2 a listed]
  · rw [if_neg here]
    refine List.filter_eq_nil_iff.mpr fun a listed same => here ?_
    rw [← of_decide_eq_true same, updated.same.2 a listed]

theorem Made.append (first : Made rules table ids as mid)
    (second : Made rules mid others bs next) :
    Made rules table (ids ++ others) (as ++ bs) next := by
  induction first with
  | nil => exact second
  | cons found updated _ ih =>
    rw [List.append_assoc]
    exact .cons found updated (ih second)

/-- A row the call does not handle is as it was. -/
theorem Made.find_of_notMem (made : Made rules table ids as next) (other : id ∉ ids) :
    next.find id = table.find id ∧ attemptsAt id as = [] := by
  induction made with
  | nil => exact ⟨rfl, rfl⟩
  | cons found updated _ ih =>
    rw [List.mem_cons, not_or] at other
    obtain ⟨kept, quiet⟩ := ih other.2
    rw [updated.find_put found, if_neg other.1] at kept
    refine ⟨kept, ?_⟩
    unfold Notifications.attemptsAt at quiet ⊢
    rw [List.filter_append, quiet, List.append_nil]
    exact (updated.attemptsAt id).trans (if_neg other.1)

/-- A row the call handles is handled once. -/
theorem Made.find_of_mem (made : Made rules table ids as next) (distinct : ids.Nodup)
    (mine : id ∈ ids) : ∃ row row', table.find id = some row ∧ next.find id = some row' ∧
      Updated rules row (attemptsAt id as) row' := by
  induction made with
  | nil => cases mine
  | @cons table next row row' as bs ids found updated rest ih =>
    obtain ⟨apart, distinct⟩ := List.nodup_cons.mp distinct
    have split : attemptsAt id (as ++ bs) = attemptsAt id as ++ attemptsAt id bs :=
      List.filter_append ..
    rw [split, updated.attemptsAt]
    by_cases here : id = row.id
    · subst here
      obtain ⟨kept, quiet⟩ := rest.find_of_notMem apart
      rw [if_pos rfl, quiet, List.append_nil]
      rw [updated.find_put found, if_pos rfl] at kept
      exact ⟨row, row', found, kept, updated⟩
    · obtain ⟨old, left, stored, kept, once⟩ :=
        ih distinct ((List.mem_cons.mp mine).resolve_left here)
      rw [updated.find_put found, if_neg here] at stored
      rw [if_neg here, List.nil_append]
      exact ⟨old, left, stored, kept, once⟩

/-- A row a call leaves is one it found. -/
theorem Made.same (made : Made rules table ids as next)
    (found : next.find id = some row') :
    ∃ row, table.find id = some row ∧ SameNotification row row' := by
  induction made with
  | nil => exact ⟨row', found, rfl⟩
  | @cons table next row left as bs ids present updated rest ih =>
    obtain ⟨old, stored, same⟩ := ih found
    rw [updated.find_put present] at stored
    split_ifs at stored with here
    · cases stored
      exact ⟨row, here ▸ present, same.trans updated.same.1⟩
    · exact ⟨old, stored, same⟩

/-- An attempt is one of an item's, made on a table that the items before it leave. -/
theorem mem_sendEach {α : Type} {send : NotificationTable → α → Sending} {items : List α}
    {fine : NotificationTable → Prop}
    (keeps : ∀ item ∈ items, ∀ mid as next, fine mid → send mid item = (as, .ok next) → fine next)
    (start : fine table) {a : Attempt} (made : a ∈ (sendEach send table items).1) :
    ∃ item ∈ items, ∃ mid, fine mid ∧ a ∈ (send mid item).1 := by
  induction items generalizing table with
  | nil => cases made
  | cons item items ih =>
    unfold sendEach at made
    split at made
    · next as error here =>
      exact ⟨item, List.mem_cons_self, table, start, by rw [here]; exact made⟩
    · next as next here =>
      rcases List.mem_append.mp made with first | later
      · exact ⟨item, List.mem_cons_self, table, start, by rw [here]; exact first⟩
      · obtain ⟨other, member, mid, reached, made⟩ :=
          ih (fun item member => keeps item (List.mem_cons_of_mem _ member))
            (keeps item List.mem_cons_self table as next start here) later
        exact ⟨other, List.mem_cons_of_mem _ member, mid, reached, made⟩

/-- Items that are sent one after the other, no two with a row in common. -/
theorem sendEach_made {α : Type} {idsOf : α → List Uuid} {send : NotificationTable → α → Sending}
    {items : List α} (distinct : (items.flatMap idsOf).Nodup)
    (each : ∀ item ∈ items, ∀ mid as next, (∀ id ∈ idsOf item, mid.find id = table.find id) →
      send mid item = (as, .ok next) → Made rules mid (idsOf item) as next)
    (agree : ∀ id ∈ items.flatMap idsOf, mid.find id = table.find id)
    (sent : sendEach send mid items = (as, .ok next)) :
    Made rules mid (items.flatMap idsOf) as next := by
  induction items generalizing mid as with
  | nil =>
    cases sent
    exact .nil
  | cons item items ih =>
    rw [List.flatMap_cons] at distinct agree
    obtain ⟨_, later, apart⟩ := List.nodup_append.mp distinct
    unfold sendEach at sent
    split at sent
    · cases sent
    · next first next' here =>
      have made := each item List.mem_cons_self mid first next'
        (fun id listed => agree id (List.mem_append_left _ listed)) here
      cases rest : sendEach send next' items with
      | mk others result =>
        rw [rest] at sent
        simp only [Prod.mk.injEq] at sent
        obtain ⟨rfl, rfl⟩ := sent
        refine made.append (ih later (fun item listed => each item (List.mem_cons_of_mem _ listed))
          (fun id listed => ?_) rest)
        rw [(made.find_of_notMem fun mine => apart id mine id listed rfl).1]
        exact agree id (List.mem_append_right _ listed)

theorem mem_selectRows {p : Notification → Bool} {key : Notification → Int} {limit : Nat}
    (selected : row ∈ selectRows table p key limit) : row ∈ table.rows ∧ p row = true := by
  have sorted := List.mem_of_mem_take selected
  rw [List.mem_insertionSort, List.mem_insertionSort] at sorted
  exact List.mem_filter.mp sorted

theorem nodup_selectRows (table : NotificationTable) (p : Notification → Bool)
    (key : Notification → Int) (limit : Nat) :
    ((selectRows table p key limit).map Notification.id).Nodup := by
  have perm := (List.perm_insertionSort (fun a b => key a ≤ key b) _).trans
    (List.perm_insertionSort (fun a b : Notification => a.id.int ≤ b.id.int) (table.rows.filter p))
  have distinct : ((table.rows.filter p).map Notification.id).Nodup :=
    table.distinct.sublist (List.filter_sublist.map _)
  have sorted := (perm.map Notification.id).nodup_iff.mpr distinct
  exact sorted.sublist ((List.take_sublist limit _).map _)

/-! ## The immediate dispatcher -/

section Dispatcher

variable {service : NotificationService} {directory : Directory}
  {preferences : Uuid → Text → NotificationChannel → NotificationPreference} {now : UtcInstant}
  {notifier : Uuid → OutboundMessage → Except Text DeliveryResult} {replays : Uuid → Prop}

/-- A row that is sent, as it is or revived. -/
theorem sendIn_made {start : Notification} (found : table.find row.id = some row)
    (sent : sendIn (sendOne service directory preferences now notifier) table start =
      (as, .ok next)) (pending : start.state = .pending)
    (updated : ∀ as row', Handled service.settings.maxAttempts (start.attempts + 1) start as row' →
      Updated (service.rules replays) row as row') :
    Made (service.rules replays) table [row.id] as next := by
  unfold sendIn at sent
  simp only [Prod.mk.injEq] at sent
  obtain ⟨rfl, stored⟩ := sent
  obtain ⟨row', handled, rfl⟩ := Except.map_eq_ok_iff.mp stored
  have made := Made.cons found (updated _ _ (sendOne_handled pending handled)) Made.nil
  rw [List.append_nil] at made
  exact made

/-- Rows that are selected and sent one after the other. -/
theorem selected_made {rules : CallRules} {p : Notification → Bool} {key : Notification → Int}
    {limit : Nat} {send : NotificationTable → Notification → Sending}
    (each : ∀ row, p row = true → ∀ mid as next, mid.find row.id = some row →
      send mid row = (as, .ok next) → Made rules mid [row.id] as next)
    (sent : sendEach send table (selectRows table p key limit) = (as, .ok next)) :
    ∃ ids, ids.Nodup ∧ Made rules table ids as next := by
  have distinct := nodup_selectRows table p key limit
  rw [show (selectRows table p key limit).map Notification.id =
    (selectRows table p key limit).flatMap fun row => [row.id] from List.map_eq_flatMap] at distinct
  refine ⟨_, distinct, sendEach_made distinct ?_ (fun _ _ => rfl) sent⟩
  intro row selected mid as next agree sent
  obtain ⟨listed, awaits⟩ := mem_selectRows selected
  exact each row awaits mid as next
    ((agree _ (List.mem_singleton_self _)).trans (KeyedTable.find_of_mem listed)) sent

/-- What `send_due` does to the rows. -/
theorem sendDue_made {limit : Nat}
    (sent : sendDue service directory preferences table limit now = (as, .ok next)) :
    ∃ ids, ids.Nodup ∧ Made (service.rules fun _ => False) table ids as next := by
  unfold sendDue at sent
  split at sent
  · cases sent
  · split_ifs at sent with outside
    · cases sent
    · refine selected_made (fun row awaits mid as next found sent => ?_) sent
      rw [Bool.and_eq_true, decide_eq_true_eq] at awaits
      exact sendIn_made found sent awaits.1 fun _ _ handled =>
        .pending _ (fun _ => rfl) awaits.1 handled

/-- What `replay_dead_letter` does to the rows: a row that was sent stays. -/
theorem replayDeadLetter_made {replayed : Uuid} (allowed : replays replayed)
    (sent : replayDeadLetter service directory preferences table replayed now = (as, .ok next)) :
    (as = [] ∧ next = table ∧ ∀ row, table.find replayed = some row → row.state = .sent) ∨
      Made (service.rules replays) table [replayed] as next := by
  unfold replayDeadLetter at sent
  split at sent
  · cases sent
  · next row found =>
    obtain rfl := (KeyedTable.find_eq_some_iff.mp found).2
    split_ifs at sent with delivered alive
    · cases sent
      refine Or.inl ⟨rfl, rfl, fun other same => ?_⟩
      cases found.symm.trans same
      exact delivered
    · cases sent
    · split at sent
      · cases sent
      · exact Or.inr (sendIn_made found sent rfl fun _ _ handled =>
          .replayed now allowed (not_not.mp alive) handled)

/-- What `replay_dead_letters` does to the rows. -/
theorem replayDeadLetters_made {limit : Nat} (allowed : ∀ id, replays id)
    (sent : replayDeadLetters service directory preferences table limit now = (as, .ok next)) :
    ∃ ids, ids.Nodup ∧ Made (service.rules replays) table ids as next := by
  unfold replayDeadLetters at sent
  split_ifs at sent with outside
  · cases sent
  · refine selected_made (fun row dead mid as next found sent => ?_) sent
    rw [Bool.and_eq_true, decide_eq_true_eq, decide_eq_true_eq] at dead
    rcases replayDeadLetter_made (allowed row.id) sent with ⟨_, _, delivered⟩ | made
    · cases dead.2.symm.trans (delivered row found)
    · exact made

/-- An attempt of the immediate dispatcher on a row of the table, as it is or revived. -/
def SentFrom (service : NotificationService) (directory : Directory)
    (preferences : Uuid → Text → NotificationChannel → NotificationPreference) (now : UtcInstant)
    (table : NotificationTable) (a : Attempt) : Prop :=
  ∃ notifier row start, table.find row.id = some row ∧ SameNotification row start ∧
    a ∈ (sendOne service directory preferences now notifier start).1

variable {a : Attempt}

theorem sendDue_sentFrom {limit : Nat}
    (made : a ∈ (sendDue service directory preferences table limit now).1) :
    SentFrom service directory preferences now table a := by
  unfold sendDue at made
  split at made
  · cases made
  · split_ifs at made with outside
    · cases made
    · obtain ⟨row, selected, mid, _, made⟩ :=
        @mem_sendEach table _ _ _ (fun _ => True) (fun _ _ _ _ _ _ _ => trivial) trivial a made
      exact ⟨_, row, row, KeyedTable.find_of_mem (mem_selectRows selected).1, rfl, made⟩

theorem replayDeadLetter_sentFrom {id : Uuid}
    (made : a ∈ (replayDeadLetter service directory preferences table id now).1) :
    SentFrom service directory preferences now table a := by
  unfold replayDeadLetter at made
  split at made
  · cases made
  · next row found =>
    obtain rfl := (KeyedTable.find_eq_some_iff.mp found).2
    split_ifs at made with delivered alive
    · cases made
    · cases made
    · split at made
      · cases made
      · exact ⟨_, row, row.revive now, found, rfl, made⟩

theorem replayDeadLetters_sentFrom {limit : Nat}
    (made : a ∈ (replayDeadLetters service directory preferences table limit now).1) :
    SentFrom service directory preferences now table a := by
  unfold replayDeadLetters at made
  split_ifs at made with outside
  · cases made
  · obtain ⟨_, _, mid, same, made⟩ := @mem_sendEach table _ _ _
      (fun mid => ∀ id row', mid.find id = some row' →
        ∃ row, table.find id = some row ∧ SameNotification row row')
      (by
        intro row _ mid as next same sent id row' found
        rcases @replayDeadLetter_made mid next as service directory preferences now (fun _ => True)
          row.id trivial sent with ⟨_, rfl, _⟩ | made
        · exact same id row' found
        · obtain ⟨old, stored, kept⟩ := made.same found
          obtain ⟨first, start, before⟩ := same id old stored
          exact ⟨first, start, kept.trans before⟩)
      (fun id row found => ⟨row, found, rfl⟩) a made
    obtain ⟨notifier, row, start, stored, revived, made⟩ := replayDeadLetter_sentFrom made
    obtain ⟨first, found, before⟩ := same _ row stored
    have key := (KeyedTable.find_eq_some_iff.mp found).2
    exact ⟨notifier, first, start, by rw [key]; exact found, revived.trans before, made⟩

end Dispatcher

/-! ## The digest dispatcher -/

theorem mem_sortEntries {entries : List DigestEntry} {entry : DigestEntry} :
    entry ∈ sortEntries entries ↔ entry ∈ entries := by
  unfold sortEntries
  rw [List.mem_insertionSort, List.mem_insertionSort]

theorem perm_sortEntries (entries : List DigestEntry) : (sortEntries entries).Perm entries :=
  (List.perm_insertionSort _ _).trans (List.perm_insertionSort _ _)

/-- The entry of a row bears its identifier. -/
theorem digestEntry_id {registry : TemplateRegistry} {row : Notification} {entry : DigestEntry}
    (made : digestEntry registry row = .ok entry) : entry.notificationId = row.id := by
  unfold digestEntry at made
  split_ifs at made with blank
  split at made
  · cases made
  · obtain ⟨subject, _, made⟩ := Except.bind_eq_ok_iff.mp made
    split at made
    · cases made
    · split_ifs at made
      cases made
      rfl

section Digests

variable {service : DigestDeliveryService} {window : DigestWindow} {now : UtcInstant}
  {digest : EmailDigest} {addresses : Uuid → Except DomainError Text} {digests : List EmailDigest}
  {even : Prop}

/-- The pairs a window is grouped from: each row of the window with its recipient. -/
theorem assemble_pairs (assembled : assemble service table window addresses = .ok digests) :
    ∃ pairs : List (Uuid × DigestEntry),
      List.Forall₂ (fun row pair => pair.1 = row.recipientId ∧ pair.2.notificationId = row.id)
        (queryNotifications table window service.maxEntries) pairs ∧
      (digests.map fun digest => (digest.recipientId, digest.entries)).Perm
        ((groupPairs pairs).map fun group => (group.1, sortEntries group.2)) := by
  obtain ⟨pairs, entries, assembled⟩ := Except.bind_eq_ok_iff.mp assembled
  split_ifs at assembled with tooMany
  obtain ⟨unsorted, addressed, assembled⟩ := Except.bind_eq_ok_iff.mp assembled
  cases assembled
  refine ⟨pairs, ?_, ?_⟩
  · rw [List.take_of_length_le (not_lt.mp tooMany)] at entries
    refine (mapM_eq_ok_iff.mp entries).imp fun row pair made => ?_
    obtain ⟨entry, isEntry, made⟩ := Except.bind_eq_ok_iff.mp made
    cases made
    exact ⟨rfl, digestEntry_id isEntry⟩
  · refine ((List.perm_insertionSort _ _).map _).trans (List.Perm.of_eq ?_)
    have grouped := mapM_eq_ok_iff.mp addressed
    refine (map_eq_of_forall₂ (fun group digest made => ?_) grouped).symm
    obtain ⟨email, _, made⟩ := Except.bind_eq_ok_iff.mp made
    cases made
    rfl

/-- Each digest holds rows that await it, all of its recipient, and no row twice. -/
theorem assemble_rows (assembled : assemble service table window addresses = .ok digests) :
    (digests.flatMap EmailDigest.notificationIds).Nodup ∧
      ∀ digest ∈ digests, ∀ id ∈ digest.notificationIds, ∃ row, table.find id = some row ∧
        row.awaits window = true ∧ row.recipientId = digest.recipientId := by
  obtain ⟨pairs, entries, grouped⟩ := assemble_pairs assembled
  have ids : pairs.map (fun pair => pair.2.notificationId) =
      (queryNotifications table window service.maxEntries).map Notification.id :=
    (map_eq_of_forall₂ (fun _ _ same => same.2.symm) entries).symm
  have distinct : (pairs.map fun pair => pair.2.notificationId).Nodup := by
    rw [ids]
    exact nodup_selectRows ..
  have inGroup : ∀ {key : Uuid} {values : List DigestEntry} {entry : DigestEntry},
      (key, values) ∈ groupPairs pairs → entry ∈ values → (key, entry) ∈ pairs := by
    intro key values entry group listed
    obtain ⟨_, rfl⟩ := mem_groupPairs.mp group
    obtain ⟨⟨key', entry'⟩, filtered, rfl⟩ := List.mem_map.mp listed
    obtain ⟨listed, same⟩ := List.mem_filter.mp filtered
    rw [← of_decide_eq_true same]
    exact listed
  constructor
  · have flat : (digests.flatMap EmailDigest.notificationIds).Perm
        ((groupPairs pairs).flatMap fun group => (sortEntries group.2).map
          DigestEntry.notificationId) := by
      have mapped := grouped.flatMap_right fun pair => pair.2.map DigestEntry.notificationId
      rw [List.flatMap_map, List.flatMap_map] at mapped
      exact mapped
    rw [flat.nodup_iff, List.nodup_flatMap]
    constructor
    · rintro ⟨key, values⟩ group
      obtain ⟨_, rfl⟩ := mem_groupPairs.mp group
      refine ((perm_sortEntries _).map _).nodup_iff.mpr ?_
      rw [List.map_map]
      exact distinct.sublist (List.filter_sublist.map _)
    · refine (List.pairwise_map.mp (nodup_keys_groupPairs pairs)).imp_of_mem ?_
      rintro ⟨key, values⟩ ⟨key', values'⟩ group group' apart
      rw [Function.onFun, List.disjoint_iff_ne]
      rintro id listed id' listed' rfl
      obtain ⟨entry, isEntry, rfl⟩ := List.mem_map.mp listed
      obtain ⟨entry', isEntry', same⟩ := List.mem_map.mp listed'
      have pair := inGroup group (mem_sortEntries.mp isEntry)
      have pair' := inGroup group' (mem_sortEntries.mp isEntry')
      have together := List.inj_on_of_nodup_map distinct pair pair' same.symm
      exact apart (Prod.mk.inj together).1
  · intro digest isDigest id listed
    have member := grouped.subset (List.mem_map_of_mem isDigest)
    obtain ⟨⟨key, values⟩, group, same⟩ := List.mem_map.mp member
    simp only [Prod.mk.injEq] at same
    obtain ⟨entry, isEntry, rfl⟩ := List.mem_map.mp listed
    rw [← same.2, mem_sortEntries] at isEntry
    obtain ⟨row, isRow, recipient, isId⟩ :=
      (forall₂_exists entries).2 _ (inGroup group isEntry)
    obtain ⟨stored, awaits⟩ := mem_selectRows isRow
    exact ⟨row, by rw [isId]; exact KeyedTable.find_of_mem stored, awaits,
      recipient.symm.trans same.1⟩

/-- The rows of a digest that are all there. -/
theorem map_id_digestRows
    (present : ∀ id ∈ digest.notificationIds, ∃ row, table.find id = some row) :
    (digestRows table digest).map Notification.id = digest.notificationIds := by
  unfold digestRows
  revert present
  generalize digest.notificationIds = ids
  intro present
  induction ids with
  | nil => rfl
  | cons id ids ih =>
    obtain ⟨row, found⟩ := present id List.mem_cons_self
    rw [List.filterMap_cons, found, List.map_cons,
      ih fun other listed => present other (List.mem_cons_of_mem _ listed),
      (KeyedTable.find_eq_some_iff.mp found).2]

/-- Rows that are put in their places one after the other. -/
theorem putAll_made {rows lefts : List Notification} {attempt : Notification → Attempt}
    (distinct : (rows.map Notification.id).Nodup)
    (found : ∀ row ∈ rows, table.find row.id = some row)
    (updated : List.Forall₂ (fun row left => Updated rules row [attempt row] left) rows
      lefts) :
    Made rules table (rows.map Notification.id) (rows.map attempt)
      (putAll table lefts) := by
  induction updated generalizing table with
  | nil => exact .nil
  | @cons row left rows lefts first _ ih =>
    have present := found row List.mem_cons_self
    obtain ⟨apart, distinct⟩ := List.nodup_cons.mp distinct
    refine Made.cons present first (ih distinct fun other listed => ?_)
    have other' : other.id ≠ row.id := fun same => apart (same ▸ List.mem_map_of_mem listed)
    rw [first.find_put present, if_neg other']
    exact found other (List.mem_cons_of_mem _ listed)

/-- The rows of a digest after its outcome. -/
theorem outcomeRows_updated {rows lefts : List Notification} {result : DeliveryResult}
    (pending : ∀ row ∈ rows, row.state = .pending)
    (counts : even → ∀ row ∈ rows, row.attempts + 1 = digestAttempt rows)
    (returned : outcomeRows service rows result now = .ok lefts) :
    List.Forall₂ (fun row left => Updated (service.rules even) row
      [⟨row, true, none, result⟩] left) rows lefts := by
  have updated : ∀ row ∈ rows, ∀ left, Handled service.settings.maxAttempts (digestAttempt rows) row
      [⟨row, true, none, result⟩] left →
        Updated (service.rules even) row [⟨row, true, none, result⟩] left :=
    fun row listed left handled =>
      .pending _ (fun given => (counts given row listed).symm) (pending row listed) handled
  unfold outcomeRows at returned
  simp only at returned
  split_ifs at returned with sent ends
  · cases returned
    rw [List.forall₂_map_right_iff, List.forall₂_same]
    exact fun row listed => updated row listed _ (.sent rfl rfl rfl sent)
  · refine ((List.forall₂_and_left _ _).mpr ⟨updated, mapM_eq_ok_iff.mp returned⟩).imp ?_
    rintro row left ⟨updated, made⟩
    unfold digestDeadLetter at made
    split at made
    · cases made
      exact updated _ (.deadLettered rfl rfl rfl sent (why_of_endsRetries sent ends))
    · cases made
  · obtain ⟨again, _, returned⟩ := Except.bind_eq_ok_iff.mp returned
    cases returned
    rw [List.forall₂_map_right_iff, List.forall₂_same]
    exact fun row listed => updated row listed _ (.retried rfl rfl rfl rfl sent)

/-- What sending a digest does to the rows. -/
theorem sendDigest_made (distinct : digest.notificationIds.Nodup)
    (counts : even → ∀ row ∈ digestRows table digest,
      row.attempts + 1 = digestAttempt (digestRows table digest))
    (sent : sendDigest service now table digest = (as, .ok next)) :
    Made (service.rules even) table digest.notificationIds as next := by
  unfold sendDigest persistOutcome at sent
  simp only [Prod.mk.injEq] at sent
  obtain ⟨rfl, stored⟩ := sent
  split at stored
  · cases stored
  · next complete =>
    split at stored
    · cases stored
    · next allPending =>
      obtain ⟨lefts, returned, rfl⟩ := Except.map_eq_ok_iff.mp stored
      rw [List.find?_eq_none] at complete allPending
      have ids := map_id_digestRows fun id listed =>
        Option.ne_none_iff_exists'.mp (by simpa using complete id listed)
      have pending : ∀ row ∈ digestRows table digest, row.state = .pending := by
        intro row listed
        simpa using allPending row listed
      have found : ∀ row ∈ digestRows table digest, table.find row.id = some row := by
        intro row listed
        obtain ⟨id, _, found⟩ := List.mem_filterMap.mp listed
        rw [(KeyedTable.find_eq_some_iff.mp found).2, found]
      rw [← ids] at distinct ⊢
      exact putAll_made distinct found (outcomeRows_updated pending counts returned)

/-- Whether the rows of each digest of a window have equal counters. -/
def EvenDigests (service : DigestDeliveryService) (table : NotificationTable)
    (window : DigestWindow) (addresses : Uuid → Except DomainError Text) : Prop :=
  ∀ digests, assemble service table window addresses = .ok digests → ∀ digest ∈ digests,
    ∀ row ∈ digestRows table digest, row.attempts + 1 = digestAttempt (digestRows table digest)

/-- What `send_window` does to the rows. -/
theorem sendWindow_made (sent : sendWindow service table window addresses now = (as, .ok next)) :
    ∃ ids, ids.Nodup ∧
      Made (service.rules (EvenDigests service table window addresses)) table ids as next := by
  unfold sendWindow at sent
  split at sent
  · cases sent
  · next digests assembled =>
    obtain ⟨distinct, _⟩ := assemble_rows assembled
    refine ⟨_, distinct, sendEach_made distinct ?_ (fun _ _ => rfl) sent⟩
    intro digest member mid as next agree sent
    refine sendDigest_made ((List.nodup_flatMap.mp distinct).1 digest member) ?_ sent
    rw [show digestRows mid digest = digestRows table digest from List.filterMap_congr agree]
    exact fun even => even digests assembled digest member

/-- What is handed over in a digest may be delivered, if every row of the window may be. -/
theorem sendWindow_mayReceive {directory : Directory}
    (careful : ∀ row ∈ table.rows, row.awaits window = true → directory.mayReceive row)
    {a : Attempt} (made : a ∈ (sendWindow service table window addresses now).1) :
    directory.mayReceive a.notification := by
  unfold sendWindow at made
  split at made
  · cases made
  · next digests assembled =>
    obtain ⟨distinct, rows⟩ := assemble_rows assembled
    obtain ⟨digest, member, mid, same, made⟩ := @mem_sendEach table _ _ _
      (fun mid => ∀ id row', mid.find id = some row' →
        ∃ row, table.find id = some row ∧ SameNotification row row')
      (by
        intro digest member mid as next same sent id row' found
        have made := @sendDigest_made mid next as service now digest False
          ((List.nodup_flatMap.mp distinct).1 digest member) False.elim sent
        obtain ⟨row, stored, kept⟩ := made.same found
        obtain ⟨first, start, before⟩ := same id row stored
        exact ⟨first, start, kept.trans before⟩)
      (fun id row found => ⟨row, found, rfl⟩) a made
    obtain ⟨row, listed, rfl⟩ := List.mem_map.mp made
    obtain ⟨id, isId, found⟩ := List.mem_filterMap.mp listed
    obtain ⟨first, start, kept⟩ := same id row found
    obtain ⟨selected, stored, awaits, _⟩ := rows digest member id isId
    cases start.symm.trans stored
    obtain ⟨active, sees⟩ := careful first (KeyedTable.find_eq_some_iff.mp start).1 awaits
    unfold Directory.mayReceive
    rw [kept.recipientId, kept.subject]
    exact ⟨active, sees⟩

end Digests

end Notifications

end CovenantRadar
