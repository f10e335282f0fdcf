import CovenantRadar.Notifications.Deliveries
import CovenantRadar.Notifications.Webhook
import CovenantRadar.Python.Digest

/-!
# Event ids

The event id of a webhook is the digest of the message, not of the notification: over a run, the
messages of one notification share it where their subject texts are the same, and so do those of two
notifications whose messages are the same.
-/

namespace CovenantRadar

namespace Notifications

/-! ## What identifies a message -/

/-- Two messages that are identified alike: the payloads may differ in the order of their keys. -/
structure SameMessage (m n : OutboundMessage) : Prop where
  recipientId : m.recipientId = n.recipientId
  template : m.template = n.template
  reference : m.reference = n.reference
  subject : m.subject = n.subject
  payload : m.payload.json.sortKeys = n.payload.json.sortKeys

theorem subjectJson_injective : Function.Injective subjectJson := by
  intro a b same
  cases a with
  | none => cases b with
    | none => rfl
    | some => cases same
  | some first => cases b with
    | none => cases same
    | some second =>
      obtain ⟨type, id⟩ := first
      obtain ⟨type', id'⟩ := second
      simp only [subjectJson, Json.obj.injEq, List.cons.injEq, Prod.mk.injEq, Json.str.injEq,
        true_and, and_true] at same
      rw [same.2, Uuid.str_injective same.1]

/-- The keys of a message are in order. -/
theorem sortKeys_identity (m : OutboundMessage) :
    Json.sortKeys m.identity = .obj [("data".toList, m.payload.json.sortKeys),
      ("recipient_id".toList, .str m.recipientId.str),
      ("subject".toList, subjectJson m.reference),
      ("subject_text".toList, .str m.subject),
      ("type".toList, .str m.template)] := by
  have inOrder {entries : List (Text × Json)}
      (keys : (entries.map Prod.fst).Pairwise (· < ·)) :
      entries.insertionSort (fun a b => a.1 ≤ b.1) = entries :=
    ((List.pairwise_map.mp keys).imp le_of_lt).insertionSort_eq
  have subject : Json.sortKeys (subjectJson m.reference) = subjectJson m.reference := by
    cases m.reference with
    | none => rfl
    | some reference => exact congrArg Json.obj (inOrder (show ["id".toList, "type".toList].Pairwise
        (· < ·) by decide))
  have keys : ["data".toList, "recipient_id".toList, "subject".toList, "subject_text".toList,
      "type".toList].Pairwise (· < ·) := by decide
  rw [OutboundMessage.identity, Json.sortKeys]
  simp only [Json.sortKeysEntries, Json.sortKeys, subject]
  exact congrArg Json.obj (inOrder keys)

/-- Without collisions, messages have equal event ids just where they are identified alike. -/
theorem eventId_eq_iff {hexdigest : ByteArray → Text} (collisionFree : Function.Injective hexdigest)
    {m n : OutboundMessage} : m.eventId hexdigest = n.eventId hexdigest ↔ SameMessage m n := by
  unfold OutboundMessage.eventId canonicalJson
  rw [collisionFree.eq_iff, Text.encode_injective.eq_iff, Json.dumps_inj, sortKeys_identity,
    sortKeys_identity]
  simp only [Json.obj.injEq, List.cons.injEq, Prod.mk.injEq, Json.str.injEq, true_and, and_true]
  constructor
  · rintro ⟨payload, recipient, subject, text, template⟩
    exact ⟨Uuid.str_injective recipient, template, subjectJson_injective subject, text, payload⟩
  · intro same
    exact ⟨same.payload, congrArg Uuid.str same.recipientId, congrArg subjectJson same.reference,
      same.subject, same.template⟩

/-! ## The message of a notification -/

/-- What the message of a notification has from its content. -/
structure MadeFrom (content : NotificationContent) (m : OutboundMessage) : Prop where
  recipientId : m.recipientId = content.recipientId
  template : ((boundedName content.template "template" 100).bind fun name =>
    boundedText name "template" 100) = .ok m.template
  reference : normalizeReference content.subject = .ok m.reference
  payload : m.payload = content.payload.getD ⟨[], noEntries_readsBack, noEntries_distinct⟩

/-- Messages with the same content differ at most in their texts. -/
theorem MadeFrom.same {content : NotificationContent} {m n : OutboundMessage}
    (first : MadeFrom content m) (second : MadeFrom content n) (subject : m.subject = n.subject) :
    SameMessage m n where
  recipientId := first.recipientId.trans second.recipientId.symm
  template := Except.ok.inj (first.template.symm.trans second.template)
  reference := Except.ok.inj (first.reference.symm.trans second.reference)
  subject := subject
  payload := by rw [first.payload, second.payload]

theorem prepareMessage_madeFrom {registry : TemplateRegistry} {row : Notification}
    {template : NotificationTemplate} {m : OutboundMessage}
    (found : registry.get row.template = .ok template)
    (ready : prepareMessage template row = .ready m) : MadeFrom row.content m := by
  unfold prepareMessage at ready
  split at ready
  · cases ready
  · next rendered shown =>
    split at ready
    · cases ready
    · next made =>
      cases ready
      unfold NotificationTemplate.render at shown
      obtain ⟨texts, _, shown⟩ := Except.bind_eq_ok_iff.mp shown
      cases shown
      unfold OutboundMessage.make at made
      obtain ⟨name, bounded, made⟩ := Except.bind_eq_ok_iff.mp made
      obtain ⟨subject, _, made⟩ := Except.bind_eq_ok_iff.mp made
      obtain ⟨body, _, made⟩ := Except.bind_eq_ok_iff.mp made
      obtain ⟨reference, normalized, made⟩ := Except.bind_eq_ok_iff.mp made
      cases made
      refine ⟨rfl, ?_, normalized, rfl⟩
      unfold TemplateRegistry.get at found
      obtain ⟨known, named, found⟩ := Except.bind_eq_ok_iff.mp found
      split at found
      · next listed =>
        cases found
        refine Except.bind_eq_ok_iff.mpr ⟨known, named, ?_⟩
        have same : template.name = known := by simpa using List.find?_some listed
        rw [← same]
        exact bounded
      · cases found

theorem prepare_madeFrom {registry : TemplateRegistry} {directory : Directory}
    {preferences : Uuid → Text → NotificationChannel → NotificationPreference} {now : UtcInstant}
    {row : Notification} {m : OutboundMessage}
    (ready : prepare registry directory preferences now row = .ok (.ready m)) :
    MadeFrom row.content m := by
  unfold prepare at ready
  split_ifs at ready with inactive
  · cases ready
  split at ready
  · cases ready
  · next template found =>
    simp only at ready
    split_ifs at ready with disabled
    · cases ready
    · obtain ⟨deferred, _, ready⟩ := Except.bind_eq_ok_iff.mp ready
      cases deferred with
      | some resumed => cases ready
      | none =>
        change prepareVisible directory template row = _ at ready
        unfold prepareVisible at ready
        split at ready
        · exact prepareMessage_madeFrom found (Except.ok.inj ready)
        · obtain ⟨scope, _, ready⟩ := Except.bind_eq_ok_iff.mp ready
          split_ifs at ready with visible
          · exact prepareMessage_madeFrom found (Except.ok.inj ready)
          · cases ready

/-! ## Attempts with a message -/

/-- An attempt that hands over a message of a notification in the table. -/
def Attempt.OfTable (a : Attempt) (table : NotificationTable) : Prop :=
  ∀ m ∈ a.message, ∃ row, table.find a.notification.id = some row ∧ MadeFrom row.content m

theorem SentFrom.ofTable {service : NotificationService} {directory : Directory}
    {preferences : Uuid → Text → NotificationChannel → NotificationPreference} {now : UtcInstant}
    {table : NotificationTable} {a : Attempt}
    (sent : SentFrom service directory preferences now table a) : a.OfTable table := by
  obtain ⟨notifier, row, start, found, same, made⟩ := sent
  intro m message
  obtain ⟨here, _⟩ := sendOne_mayReceive made
  refine ⟨row, by rw [here, same.id, found], ?_⟩
  rw [← (show start.content = row.content from same)]
  unfold sendOne at made
  split at made
  · cases made
  · cases made
  · rw [List.mem_singleton.mp made] at message
    cases message
  · next ready =>
    rw [List.mem_singleton.mp made] at message
    cases message
    exact prepare_madeFrom ready

theorem attemptsOf_ofTable {office : Office} {op : Op} {a : Attempt}
    (made : a ∈ attemptsOf office op) : a.OfTable office.notifications := by
  cases op with
  | queue => cases made
  | write => cases made
  | changeDirectory => cases made
  | changePreferences => cases made
  | sendDue => exact (sendDue_sentFrom made).ofTable
  | replay => exact (replayDeadLetter_sentFrom made).ofTable
  | replayAll => exact (replayDeadLetters_sentFrom made).ofTable
  | sendWindow service window addresses now =>
    intro m message
    change a ∈ (sendWindow service office.notifications window addresses now).1 at made
    unfold sendWindow at made
    split at made
    · cases made
    · obtain ⟨digest, _, mid, _, made⟩ := @mem_sendEach office.notifications _ _ _ (fun _ => True)
        (fun _ _ _ _ _ _ _ => trivial) trivial a made
      obtain ⟨row, _, rfl⟩ := List.mem_map.mp made
      cases message

/-! ## Runs -/

/-- A webhook that is posted: the notification it is for, its message and its event id. -/
structure Post where
  notificationId : Uuid
  message : OutboundMessage
  eventId : Text

/-- What an attempt posts. -/
def Attempt.post (hexdigest : ByteArray → Text) (notifier : WebhookNotifier) (a : Attempt) :
    Option Post :=
  a.message.bind fun m => (notifier.posted hexdigest m).map fun eventId =>
    ⟨a.notification.id, m, eventId⟩

/-- What is posted over a run, each step with the adapter as it is then. -/
def posts (hexdigest : ByteArray → Text) : Office → List (Op × WebhookNotifier) → List Post
  | _, [] => []
  | office, (op, notifier) :: rest =>
      (attemptsOf office op).filterMap (Attempt.post hexdigest notifier) ++
        posts hexdigest (step office op) rest

/-- A post is of a content. -/
structure Post.Of (hexdigest : ByteArray → Text) (post : Post) (content : NotificationContent) :
    Prop where
  eventId : post.eventId = post.message.eventId hexdigest
  madeFrom : MadeFrom content post.message

variable {hexdigest : ByteArray → Text} {office : Office} {ops : List (Op × WebhookNotifier)}

theorem posted_eq {notifier : WebhookNotifier} {m : OutboundMessage} {eventId : Text}
    (posted : notifier.posted hexdigest m = some eventId) :
    eventId = m.eventId hexdigest ∧ payloadRefusal m.payload = none := by
  unfold WebhookNotifier.posted at posted
  split_ifs at posted with other
  cases request : notifier.request hexdigest m with
  | error reason =>
    rw [request] at posted
    cases posted
  | ok sent =>
    rw [request] at posted
    cases posted
    unfold WebhookNotifier.request at request
    obtain ⟨endpoints, _, request⟩ := Except.bind_eq_ok_iff.mp request
    split at request
    · cases request
    · split at request
      · cases request
      · next passed =>
        obtain ⟨made, body, request⟩ := Except.bind_eq_ok_iff.mp request
        cases request
        have body := Except.mapError_eq_ok_iff.mp body
        unfold envelope at body
        split_ifs at body
        cases body
        exact ⟨rfl, passed⟩

/-- The posts for a notification are of one content, the one it has already if it is in the table. -/
theorem posts_of (hexdigest : ByteArray → Text) (office : Office)
    (ops : List (Op × WebhookNotifier)) (id : Uuid) :
    ∃ content, (∀ row ∈ office.notifications.find id, row.content = content) ∧
      ∀ post ∈ posts hexdigest office ops, post.notificationId = id → post.Of hexdigest content := by
  induction ops generalizing office with
  | nil =>
    have noPost : ∀ content, ∀ post ∈ posts hexdigest office [], post.notificationId = id →
        post.Of hexdigest content := fun _ _ listed => absurd listed List.not_mem_nil
    cases office.notifications.find id with
    | none =>
      exact ⟨⟨id, id, .webhook, [], none, none⟩,
        fun row found => absurd found (Option.not_mem_none row), noPost _⟩
    | some row =>
      refine ⟨row.content, fun other same => ?_, noPost _⟩
      cases same
      rfl
  | cons entry ops ih =>
    obtain ⟨op, notifier⟩ := entry
    obtain ⟨content, kept, later⟩ := ih (step office op)
    have before : ∀ row ∈ office.notifications.find id, row.content = content := by
      intro row found
      obtain ⟨row', left, same⟩ := step_content op found
      rw [← same]
      exact kept row' left
    refine ⟨content, before, fun post listed mine => ?_⟩
    rcases List.mem_append.mp listed with now | after
    · obtain ⟨a, made, posted⟩ := List.mem_filterMap.mp now
      obtain ⟨m, message, posted⟩ := Option.bind_eq_some_iff.mp posted
      obtain ⟨eventId, sent, rfl⟩ := Option.map_eq_some_iff.mp posted
      obtain ⟨row, found, madeFrom⟩ := attemptsOf_ofTable made m message
      rw [show a.notification.id = id from mine] at found
      exact ⟨(posted_eq sent).1, before row found ▸ madeFrom⟩
    · exact later post after mine

/-- Event ids tell the notifications of a run apart just where the messages of each have one subject
    text and those of two are not the same. -/
theorem eventIds_exact_iff (collisionFree : Function.Injective hexdigest) :
    (∀ a ∈ posts hexdigest office ops, ∀ b ∈ posts hexdigest office ops,
      (a.eventId = b.eventId ↔ a.notificationId = b.notificationId)) ↔
    ∀ a ∈ posts hexdigest office ops, ∀ b ∈ posts hexdigest office ops,
      (a.notificationId = b.notificationId → a.message.subject = b.message.subject) ∧
      (a.notificationId ≠ b.notificationId → ¬ SameMessage a.message b.message) := by
  refine forall₂_congr fun a isPost => forall₂_congr fun b isPost' => ?_
  obtain ⟨content, _, ofContent⟩ := posts_of hexdigest office ops a.notificationId
  obtain ⟨content', _, ofContent'⟩ := posts_of hexdigest office ops b.notificationId
  have first := ofContent a isPost rfl
  have second := ofContent' b isPost' rfl
  have equal : a.eventId = b.eventId ↔ SameMessage a.message b.message := by
    rw [first.eventId, second.eventId, eventId_eq_iff collisionFree]
  rw [equal]
  constructor
  · intro exact'
    exact ⟨fun one => (exact'.mpr one).subject, fun two alike => two (exact'.mp alike)⟩
  · rintro ⟨stable, apart⟩
    constructor
    · intro alike
      by_contra two
      exact apart two alike
    · intro one
      exact first.madeFrom.same (ofContent b isPost' one.symm).madeFrom (stable one)

/-! ## Personal fields -/

/-- The message of a webhook that is due. -/
def dueMessage : OutboundMessage where
  recipientId := Uuid.ofInt 1
  channel := .webhook
  template := "due".toList
  subject := "Due".toList
  body := "Due.".toList
  payload := ⟨[], noEntries_readsBack, noEntries_distinct⟩
  reference := none
  scheduledFor := some juneStart
  attempt := 1

/-- A digest known on the message. -/
def dueDigest : ByteArray → Text := knownDigest [(Json.dumps dueMessage.identity, "0d".toList)]

theorem dueDigest_injective : Function.Injective dueDigest :=
  knownDigest_injective (List.nodup_singleton _) (by decide)

theorem eventId_dueMessage : dueMessage.eventId dueDigest = "0d".toList := by
  unfold OutboundMessage.eventId canonicalJson dueDigest knownDigest
  simp only [List.find?_cons, decide_true]

/-- An adapter with an endpoint for everyone. -/
def anyEndpoint : WebhookNotifier where
  enabled := true
  hasSecret := true
  endpoints := some fun _ => some ⟨"https://bank.example/hook".toList, true⟩
  transport _ _ _ := .sent

theorem size_canonicalJson {value : Json} (short : (Json.dumps value).length ≤ 1000) :
    ¬ maxPayloadBytes < (canonicalJson value).size := by
  have bound := Text.size_encode_le (Json.dumps value)
  unfold canonicalJson maxPayloadBytes
  omega

theorem posted_dueMessage : anyEndpoint.posted dueDigest dueMessage = some "0d".toList := by
  have payload : payloadRefusal dueMessage.payload = none := by
    have short : (Json.dumps dueMessage.payload.json).length ≤ 1000 := by decide
    have fields : mappingRefusal "payload".toList dueMessage.payload.entries = none := rfl
    unfold payloadRefusal
    simp only [fields]
    exact if_neg (size_canonicalJson short)
  have event : (Json.dumps (dueMessage.event dueDigest)).length ≤ 1000 := by
    unfold OutboundMessage.event
    rw [eventId_dueMessage]
    decide
  have made : envelope dueDigest dueMessage =
      .ok (canonicalJson (dueMessage.event dueDigest), "0d".toList) := by
    unfold envelope
    rw [if_neg (size_canonicalJson event), eventId_dueMessage]
  unfold WebhookNotifier.posted WebhookNotifier.request
  simp only [payload, made]
  rfl

/-- A dispatcher whose adapter accepts everything. -/
def acceptingService : NotificationService where
  registry := (digestsOf .sent).registry
  settings := (digestsOf .sent).settings
  notifier := some fun _ _ => .ok .sent
  alertFails _ := none

/-- A webhook to the only user. -/
def webhookRow (n : Nat) : WrittenRow := { dueRow n with channel := .webhook }

/-- Webhooks that are written and sent. -/
def sendWebhooks (ids : List Nat) : List (Op × WebhookNotifier) :=
  [(.write (ids.map webhookRow), anyEndpoint),
    (.sendDue acceptingService 10 juneStart, anyEndpoint)]

theorem post_webhookRow (n : Nat) : Attempt.post dueDigest anyEndpoint
    ⟨(webhookRow n).notification, true, some dueMessage, .sent⟩ =
      some ⟨Uuid.ofInt n, dueMessage, "0d".toList⟩ := by
  unfold Attempt.post
  rw [Option.bind_some, posted_dueMessage]
  rfl

/-- What is posted when webhooks to the only user are written and sent. -/
def webhookPosts (ids : List Nat) : List Post :=
  posts dueDigest (opened (oneUser true) allowAll) (sendWebhooks ids)

theorem webhookPosts_one : webhookPosts [1] = [⟨Uuid.ofInt 1, dueMessage, "0d".toList⟩] := by
  have attempts : attemptsOf (step (opened (oneUser true) allowAll) (.write [webhookRow 1]))
      (.sendDue acceptingService 10 juneStart) =
        [⟨(webhookRow 1).notification, true, some dueMessage, .sent⟩] := rfl
  simp only [webhookPosts, sendWebhooks, posts, List.map_cons, List.map_nil, attempts,
    List.filterMap_cons, post_webhookRow]
  rfl

/-- A webhook that is sent once has an event id of its own. -/
theorem oneWebhook_exact : (webhookPosts [1]).length = 1 ∧
    ∀ a ∈ webhookPosts [1], ∀ b ∈ webhookPosts [1],
      (a.eventId = b.eventId ↔ a.notificationId = b.notificationId) := by
  refine ⟨congrArg List.length webhookPosts_one, (eventIds_exact_iff dueDigest_injective).mpr ?_⟩
  change ∀ a ∈ webhookPosts [1], ∀ b ∈ webhookPosts [1], _
  rw [webhookPosts_one]
  intro a isPost b isPost'
  rw [List.mem_singleton.mp isPost, List.mem_singleton.mp isPost']
  exact ⟨fun _ => rfl, fun apart => absurd rfl apart⟩

/-- Two notifications of the same to the same recipient share their event id. -/
theorem alikeWebhooks_share : ¬ ∀ hexdigest, Function.Injective hexdigest → ∀ office ops,
    ∀ a ∈ posts hexdigest office ops, ∀ b ∈ posts hexdigest office ops,
      (a.eventId = b.eventId ↔ a.notificationId = b.notificationId) := by
  intro claimed
  have posted : webhookPosts [1, 2] =
      [⟨Uuid.ofInt 1, dueMessage, "0d".toList⟩, ⟨Uuid.ofInt 2, dueMessage, "0d".toList⟩] := by
    have attempts : attemptsOf
        (step (opened (oneUser true) allowAll) (.write [webhookRow 1, webhookRow 2]))
        (.sendDue acceptingService 10 juneStart) =
          [⟨(webhookRow 1).notification, true, some dueMessage, .sent⟩,
            ⟨(webhookRow 2).notification, true, some dueMessage, .sent⟩] := rfl
    simp only [webhookPosts, sendWebhooks, posts, List.map_cons, List.map_nil, attempts,
      List.filterMap_cons, post_webhookRow]
    rfl
  have exact' := claimed dueDigest dueDigest_injective (opened (oneUser true) allowAll)
    (sendWebhooks [1, 2])
  change ∀ a ∈ webhookPosts [1, 2], ∀ b ∈ webhookPosts [1, 2], _ at exact'
  rw [posted] at exact'
  have same := (exact' _ List.mem_cons_self _ (List.mem_cons_of_mem _ List.mem_cons_self)).mp rfl
  exact absurd same (by decide)

end Notifications

end CovenantRadar
