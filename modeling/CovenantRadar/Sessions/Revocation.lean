import CovenantRadar.Python.Digest
import CovenantRadar.Sessions.Manager

/-!
# Revocation among interleaved calls

A call of the manager is its steps on the store: a refresh and a revocation read a row, and write it
back later, with the steps of other calls between. Revoking all sessions of a user is one step.
-/

namespace CovenantRadar

namespace Sessions

/-! ## Steps -/

/-- A row that a refresh or a revocation has read and has yet to write back. -/
structure InFlight where
  record : SessionRecord
  revokes : Bool

/-- The store, the calls between their read and their write, and the digests of the sessions a
    revocation was completed for. -/
structure Site where
  store : SessionStore
  inFlight : List InFlight
  revoked : List Text

/-- A step of a call on the store, with the instants the call reads. -/
inductive SessionOp where
  | issue (id userId : Uuid) (rawToken : Text) (ipAddress userAgent : Option Text)
      (instant : UtcInstant)
  | validate (cookie : Cookie) (instant : UtcInstant)
  | refreshRead (cookie : Cookie) (ipAddress userAgent : Option Text)
      (checkedAt instant : UtcInstant)
  | revokeRead (cookie : Cookie) (instant : UtcInstant)
  | write (index : Nat)
  | revokeAll (userId : Uuid) (instant : UtcInstant)

/-- The digests of a user's sessions. -/
def tokensOf (store : SessionStore) (userId : Uuid) : List Text :=
  (store.rows.filter fun record => decide (record.userId = userId)).map SessionRecord.tokenHash

/-- A row written back. -/
def writeBack (site : Site) (index : Nat) (call : InFlight) : Site :=
  match save site.store call.record with
  | none => site
  | some store =>
      { store := store
        inFlight := site.inFlight.eraseIdx index
        revoked := if call.revokes then call.record.tokenHash :: site.revoked else site.revoked }

/-- The calls in flight, and one that has read its row. -/
def Site.launch (site : Site) (revokes : Bool) (record : Option SessionRecord) : Site :=
  match record with
  | none => site
  | some record => { site with inFlight := site.inFlight ++ [⟨record, revokes⟩] }

/-- One step. -/
def step (manager : SessionManager) (site : Site) : SessionOp → Site
  | .issue id userId rawToken ipAddress userAgent instant =>
      match (newSession manager id userId rawToken ipAddress userAgent instant).bind
        (create site.store) with
      | none => site
      | some store => { site with store := store }
  | .validate _ _ => site
  | .refreshRead cookie ipAddress userAgent checkedAt instant =>
      site.launch false ((Sessions.validate manager site.store cookie checkedAt).bind fun record =>
        refreshed manager record ipAddress userAgent instant)
  | .revokeRead cookie instant =>
      site.launch true ((lookup manager site.store cookie).bind fun record => revoked record instant)
  | .write index =>
      match site.inFlight[index]? with
      | none => site
      | some call => writeBack site index call
  | .revokeAll userId instant =>
      { site with
        store := revokeAllIn site.store userId instant
        revoked := tokensOf site.store userId ++ site.revoked }

/-- A site without sessions. -/
def emptySite : Site := ⟨KeyedTable.empty, [], []⟩

/-- The site after steps one after the other. -/
def run (manager : SessionManager) (ops : List SessionOp) : Site :=
  ops.foldl (step manager) emptySite

/-- No refresh writes its row over one that was revoked since it was read. -/
def KeepsRevoked (site : Site) : SessionOp → Prop
  | .write index => ∀ call, site.inFlight[index]? = some call → call.revokes = false →
      ∀ record, site.store.find call.record.tokenHash = some record → record.revokedAt = none
  | _ => True

/-! ## What steps keep -/

/-- Two states of one session. -/
structure SameSession (a b : SessionRecord) : Prop where
  id : b.id = a.id
  userId : b.userId = a.userId
  tokenHash : b.tokenHash = a.tokenHash
  absoluteExpiresAt : b.absoluteExpiresAt = a.absoluteExpiresAt

theorem SameSession.refl (record : SessionRecord) : SameSession record record :=
  ⟨rfl, rfl, rfl, rfl⟩

theorem SameSession.trans {a b c : SessionRecord} (first : SameSession a b)
    (second : SameSession b c) : SameSession a c :=
  ⟨second.id.trans first.id, second.userId.trans first.userId,
    second.tokenHash.trans first.tokenHash,
    second.absoluteExpiresAt.trans first.absoluteExpiresAt⟩

/-- What holds of every reachable site: each row belongs to a token, each call in flight holds a
    state of a row, live for a refresh and revoked for a revocation, and a row that is revoked was
    revoked by a completed call. -/
structure Coherent (manager : SessionManager) (site : Site) : Prop where
  tokens : ∀ token record, site.store.find token = some record →
    ∃ rawToken, token = manager.tokenHash rawToken
  calls : ∀ call ∈ site.inFlight, ∃ record, site.store.find call.record.tokenHash = some record ∧
    SameSession record call.record
  refreshes : ∀ call ∈ site.inFlight, call.revokes = false →
    ∃ instant, call.record.isLive instant = true
  revokes : ∀ call ∈ site.inFlight, call.revokes = true → call.record.revokedAt ≠ none
  logged : ∀ token record, site.store.find token = some record → record.revokedAt ≠ none →
    token ∈ site.revoked

/-- What one step keeps of the rows: each stays, as a state of the same session. -/
def RowsKept (site next : Site) : Prop :=
  ∀ token record, site.store.find token = some record →
    ∃ record', next.store.find token = some record' ∧ SameSession record record'

theorem RowsKept.refl (site : Site) : RowsKept site site :=
  fun _ record found => ⟨record, found, SameSession.refl record⟩

theorem lookup_eq_some {manager : SessionManager} {store : SessionStore} {cookie : Cookie}
    {record : SessionRecord} (found : lookup manager store cookie = some record) :
    store.find (manager.tokenHash cookie.rawToken) = some record ∧ record.id = cookie.sessionId := by
  obtain ⟨present, same⟩ := Option.filter_eq_some_iff.mp found
  exact ⟨present, of_decide_eq_true same⟩

theorem validate_eq_some {manager : SessionManager} {store : SessionStore} {cookie : Cookie}
    {instant : UtcInstant} {record : SessionRecord}
    (valid : validate manager store cookie instant = some record) :
    lookup manager store cookie = some record ∧ record.isLive instant = true :=
  Option.filter_eq_some_iff.mp valid

theorem isLive_iff {record : SessionRecord} {instant : UtcInstant} :
    record.isLive instant = true ↔ record.revokedAt = none ∧
      instant.ticks < record.absoluteExpiresAt.ticks ∧ instant.ticks < record.expiresAt.ticks := by
  simp only [SessionRecord.isLive, Bool.and_eq_true, decide_eq_true_eq, Bool.not_eq_true',
    Bool.or_eq_false_iff, decide_eq_false_iff_not, not_le]

/-- A refresh writes back a live state of the session. -/
theorem refreshed_eq_some {manager : SessionManager} {record new : SessionRecord}
    {ipAddress userAgent : Option Text} {instant : UtcInstant} (live : record.revokedAt = none)
    (refreshes : refreshed manager record ipAddress userAgent instant = some new) :
    SameSession record new ∧ new.isLive instant = true := by
  obtain ⟨idle, _, refreshes⟩ := Option.bind_eq_some_iff.mp refreshes
  simp only at refreshes
  split_ifs at refreshes with expired
  cases refreshes
  have bound : (earlier idle record.absoluteExpiresAt).ticks ≤ record.absoluteExpiresAt.ticks := by
    rw [ticks_earlier]
    exact min_le_right _ _
  have fresh := not_le.mp expired
  exact ⟨⟨rfl, rfl, rfl, rfl⟩, isLive_iff.mpr ⟨live, fresh.trans_le bound, fresh⟩⟩

theorem revoked_eq_some {record new : SessionRecord} {instant : UtcInstant}
    (revokes : revoked record instant = some new) :
    SameSession record new ∧ new.revokedAt ≠ none := by
  unfold revoked at revokes
  split_ifs at revokes
  cases revokes
  exact ⟨⟨rfl, rfl, rfl, rfl⟩, Option.some_ne_none _⟩

theorem save_eq_some {store next : SessionStore} {record : SessionRecord}
    (saved : save store record = some next) : ∃ old, store.find record.tokenHash = some old ∧
      ∀ token, next.find token =
        if token = record.tokenHash then some record else store.find token := by
  unfold save at saved
  split_ifs at saved with present
  cases saved
  obtain ⟨old, found⟩ := Option.isSome_iff_exists.mp present
  exact ⟨old, found, fun token => KeyedTable.find_put found token⟩

theorem find_revokeAllIn (store : SessionStore) (userId : Uuid) (instant : UtcInstant)
    (token : Text) : (revokeAllIn store userId instant).find token =
      (store.find token).map fun record => record.revokeFor userId instant :=
  KeyedTable.find_update _ token

theorem same_revokeFor (record : SessionRecord) (userId : Uuid) (instant : UtcInstant) :
    SameSession record (record.revokeFor userId instant) := by
  unfold SessionRecord.revokeFor
  split_ifs
  · exact ⟨rfl, rfl, rfl, rfl⟩
  · exact SameSession.refl record

/-- A call that has read its row. -/
theorem coherent_launch {manager : SessionManager} {site : Site} (coherent : Coherent manager site)
    {revokes : Bool} {record : Option SessionRecord}
    (read : ∀ new ∈ record, ∃ old, site.store.find new.tokenHash = some old ∧ SameSession old new)
    (live : ∀ new ∈ record, revokes = false → ∃ instant, new.isLive instant = true)
    (ends : ∀ new ∈ record, revokes = true → new.revokedAt ≠ none) :
    Coherent manager (site.launch revokes record) := by
  cases record with
  | none => exact coherent
  | some new =>
    refine ⟨coherent.tokens, fun call listed => ?_, fun call listed => ?_, fun call listed => ?_,
      coherent.logged⟩
    all_goals rcases List.mem_append.mp listed with listed | listed
    · exact coherent.calls call listed
    · rw [List.mem_singleton.mp listed]
      exact read new rfl
    · exact coherent.refreshes call listed
    · rw [List.mem_singleton.mp listed]
      exact live new rfl
    · exact coherent.revokes call listed
    · rw [List.mem_singleton.mp listed]
      exact ends new rfl

/-- A row that is written back. -/
theorem coherent_writeBack {manager : SessionManager} {site : Site}
    (coherent : Coherent manager site) {index : Nat} {call : InFlight}
    (listed : call ∈ site.inFlight) :
    Coherent manager (writeBack site index call) ∧ RowsKept site (writeBack site index call) := by
  unfold writeBack
  split
  · exact ⟨coherent, RowsKept.refl site⟩
  · next store saved =>
    obtain ⟨old, present, finds⟩ := save_eq_some saved
    obtain ⟨old', present', same⟩ := coherent.calls call listed
    rw [present] at present'
    cases present'
    have kept : ∀ token record, site.store.find token = some record →
        ∃ record', store.find token = some record' ∧ SameSession record record' := by
      intro token record found
      rw [finds]
      split_ifs with here
      · subst here
        rw [present] at found
        cases found
        exact ⟨_, rfl, same⟩
      · exact ⟨record, found, SameSession.refl record⟩
    have older : ∀ other, other ∈ site.inFlight.eraseIdx index → other ∈ site.inFlight :=
      fun other => List.mem_of_mem_eraseIdx
    refine ⟨⟨fun token record found => ?_, fun other isOther => ?_, fun other isOther =>
      coherent.refreshes other (older other isOther), fun other isOther =>
      coherent.revokes other (older other isOther), fun token record found ended => ?_⟩, kept⟩
    · rw [finds] at found
      split_ifs at found with here
      · exact coherent.tokens token old (here ▸ present)
      · exact coherent.tokens token record found
    · obtain ⟨record, found, same'⟩ := coherent.calls other (older other isOther)
      obtain ⟨record', found', kept'⟩ := kept _ record found
      exact ⟨record', found', ⟨same'.id.trans kept'.id.symm, same'.userId.trans kept'.userId.symm,
        same'.tokenHash.trans kept'.tokenHash.symm,
        same'.absoluteExpiresAt.trans kept'.absoluteExpiresAt.symm⟩⟩
    · rw [finds] at found
      split_ifs at found with here
      · cases found
        cases revokes : call.revokes with
        | false =>
          obtain ⟨instant, live⟩ := coherent.refreshes call listed revokes
          exact absurd (isLive_iff.mp live).1 ended
        | true => simp [here]
      · have earlier := coherent.logged token record found ended
        split_ifs
        · exact List.mem_cons_of_mem _ earlier
        · exact earlier

/-- A new session. -/
theorem coherent_create {manager : SessionManager} {site : Site}
    (coherent : Coherent manager site) {record : SessionRecord} {store : SessionStore}
    {rawToken : Text} (token : record.tokenHash = manager.tokenHash rawToken)
    (live : record.revokedAt = none) (created : create site.store record = some store) :
    Coherent manager { site with store := store } ∧ RowsKept site { site with store := store } := by
  unfold create at created
  split_ifs at created with fresh
  cases created
  have finds := KeyedTable.find_insert fresh
  have kept : ∀ key old, site.store.find key = some old →
      (site.store.insert record fresh).find key = some old := by
    intro key old found
    rw [finds, if_neg]
    · exact found
    · rintro rfl
      rw [fresh] at found
      cases found
  refine ⟨⟨fun key row found => ?_, fun call listed => ?_, coherent.refreshes, coherent.revokes,
    fun key row found ended => ?_⟩, fun key old found => ⟨old, kept key old found,
      SameSession.refl old⟩⟩
  · simp only [finds] at found
    split_ifs at found with here
    · exact ⟨rawToken, here.trans token⟩
    · exact coherent.tokens key row found
  · obtain ⟨old, found, same⟩ := coherent.calls call listed
    exact ⟨old, kept _ old found, same⟩
  · simp only [finds] at found
    split_ifs at found with here
    · cases found
      exact absurd live ended
    · exact coherent.logged key row found ended

/-- One step keeps the site coherent and its rows. -/
theorem coherent_step {manager : SessionManager} {site : Site} (coherent : Coherent manager site)
    (op : SessionOp) : Coherent manager (step manager site op) ∧
      RowsKept site (step manager site op) := by
  have launched : ∀ revokes record, RowsKept site (site.launch revokes record) := by
    intro revokes record
    cases record <;> exact RowsKept.refl site
  cases op with
  | issue id userId rawToken ipAddress userAgent instant =>
    unfold step
    simp only
    split
    · exact ⟨coherent, RowsKept.refl site⟩
    · next store issued =>
      obtain ⟨record, made, created⟩ := Option.bind_eq_some_iff.mp issued
      obtain ⟨absolute, _, made⟩ := Option.bind_eq_some_iff.mp made
      obtain ⟨idle, _, made⟩ := Option.bind_eq_some_iff.mp made
      cases made
      exact coherent_create coherent rfl rfl created
  | validate cookie instant => exact ⟨coherent, RowsKept.refl site⟩
  | refreshRead cookie ipAddress userAgent checkedAt instant =>
    refine ⟨coherent_launch coherent ?_ ?_ ?_, launched _ _⟩
    all_goals
      intro new made
      obtain ⟨record, valid, made⟩ := Option.bind_eq_some_iff.mp made
      obtain ⟨found, live⟩ := validate_eq_some valid
      obtain ⟨same, fresh⟩ := refreshed_eq_some (isLive_iff.mp live).1 made
    · have present := (lookup_eq_some found).1
      have token := (KeyedTable.find_eq_some_iff.mp present).2
      rw [← token] at present
      exact ⟨record, same.tokenHash ▸ present, same⟩
    · exact fun _ => ⟨instant, fresh⟩
    · exact fun impossible => Bool.noConfusion impossible
  | revokeRead cookie instant =>
    refine ⟨coherent_launch coherent ?_ ?_ ?_, launched _ _⟩
    all_goals
      intro new made
      obtain ⟨record, found, made⟩ := Option.bind_eq_some_iff.mp made
      obtain ⟨same, ended⟩ := revoked_eq_some made
    · have present := (lookup_eq_some found).1
      have token := (KeyedTable.find_eq_some_iff.mp present).2
      rw [← token] at present
      exact ⟨record, same.tokenHash ▸ present, same⟩
    · exact fun impossible => Bool.noConfusion impossible
    · exact fun _ => ended
  | write index =>
    unfold step
    simp only
    split
    · exact ⟨coherent, RowsKept.refl site⟩
    · next call listed => exact coherent_writeBack coherent (List.mem_of_getElem? listed)
  | revokeAll userId instant =>
    have kept : RowsKept site (step manager site (.revokeAll userId instant)) := by
      intro token record found
      refine ⟨record.revokeFor userId instant, ?_, same_revokeFor record userId instant⟩
      exact (find_revokeAllIn ..).trans (by rw [found, Option.map_some])
    refine ⟨⟨fun token record found => ?_, fun call listed => ?_, coherent.refreshes,
      coherent.revokes, fun token record found ended => ?_⟩, kept⟩
    · obtain ⟨old, present, _⟩ := Option.map_eq_some_iff.mp
        ((find_revokeAllIn ..).symm.trans found)
      exact coherent.tokens token old present
    · obtain ⟨old, present, same⟩ := coherent.calls call listed
      obtain ⟨new, present', same'⟩ := kept _ old present
      exact ⟨new, present', ⟨same.id.trans same'.id.symm, same.userId.trans same'.userId.symm,
        same.tokenHash.trans same'.tokenHash.symm,
        same.absoluteExpiresAt.trans same'.absoluteExpiresAt.symm⟩⟩
    · obtain ⟨old, present, rfl⟩ := Option.map_eq_some_iff.mp
        ((find_revokeAllIn ..).symm.trans found)
      obtain ⟨stored, rfl⟩ := KeyedTable.find_eq_some_iff.mp present
      unfold SessionRecord.revokeFor at ended
      split_ifs at ended with mine
      · exact List.mem_append_left _ (List.mem_map_of_mem (List.mem_filter.mpr
          ⟨stored, decide_eq_true mine.1⟩))
      · exact List.mem_append_right _ (coherent.logged _ old present ended)

theorem coherent_emptySite (manager : SessionManager) : Coherent manager emptySite where
  tokens := by
    intro _ _ found
    cases found
  calls := fun _ listed => absurd listed List.not_mem_nil
  refreshes := fun _ listed => absurd listed List.not_mem_nil
  revokes := fun _ listed => absurd listed List.not_mem_nil
  logged := by
    intro _ _ found
    cases found

theorem run_append (manager : SessionManager) (before after : List SessionOp) :
    run manager (before ++ after) = after.foldl (step manager) (run manager before) :=
  List.foldl_append ..

/-- Every reachable site is coherent. -/
theorem coherent_run (manager : SessionManager) (ops : List SessionOp) :
    Coherent manager (run manager ops) := by
  induction ops using List.reverseRecOn with
  | nil => exact coherent_emptySite manager
  | append_singleton ops op ih =>
    rw [run_append]
    exact (coherent_step ih op).1

/-- A session keeps its absolute expiry through every run. -/
theorem rowsKept_run (manager : SessionManager) (before middle : List SessionOp) :
    RowsKept (run manager before) (run manager (before ++ middle)) := by
  induction middle using List.reverseRecOn with
  | nil =>
    rw [List.append_nil]
    exact RowsKept.refl _
  | append_singleton middle op ih =>
    rw [← List.append_assoc, run_append]
    intro token record found
    obtain ⟨record', found', same⟩ := ih token record found
    obtain ⟨record'', found'', same'⟩ :=
      (coherent_step (coherent_run manager (before ++ middle)) op).2 token record' found'
    exact ⟨record'', found'', same.trans same'⟩

/-! ## Revoked sessions -/

/-- Every session a revocation was completed for is revoked in the store. -/
def RevokedStay (site : Site) : Prop :=
  ∀ token ∈ site.revoked, ∃ record, site.store.find token = some record ∧ record.revokedAt ≠ none

/-- A row that was revoked is so after a step that writes no other over it. -/
theorem revokedStay_step {manager : SessionManager} {site : Site} (coherent : Coherent manager site)
    (stay : RevokedStay site) {op : SessionOp} (keeps : KeepsRevoked site op) :
    RevokedStay (step manager site op) := by
  have launched : ∀ revokes record, RevokedStay (site.launch revokes record) := by
    intro revokes record
    cases record <;> exact stay
  cases op with
  | issue id userId rawToken ipAddress userAgent instant =>
    unfold step
    simp only
    split
    · exact stay
    · next store issued =>
      obtain ⟨record, _, created⟩ := Option.bind_eq_some_iff.mp issued
      unfold create at created
      split_ifs at created with fresh
      cases created
      intro token listed
      obtain ⟨old, found, ended⟩ := stay token listed
      refine ⟨old, (KeyedTable.find_insert fresh token).trans ?_, ended⟩
      rw [if_neg]
      · exact found
      · rintro rfl
        rw [fresh] at found
        cases found
  | validate cookie instant => exact stay
  | refreshRead cookie ipAddress userAgent checkedAt instant => exact launched _ _
  | revokeRead cookie instant => exact launched _ _
  | write index =>
    unfold step
    simp only
    split
    · exact stay
    · next call here =>
      have listed := List.mem_of_getElem? here
      unfold writeBack
      split
      · exact stay
      · next store saved =>
        obtain ⟨old, present, finds⟩ := save_eq_some saved
        intro token logged
        show ∃ record, store.find token = some record ∧ record.revokedAt ≠ none
        rw [finds]
        cases revokes : call.revokes with
        | true =>
          simp only [revokes, if_true] at logged
          split_ifs with same
          · exact ⟨_, rfl, coherent.revokes call listed revokes⟩
          · rcases List.mem_cons.mp logged with rfl | logged
            · exact absurd rfl same
            · exact stay token logged
        | false =>
          simp only [revokes, Bool.false_eq_true, if_false] at logged
          obtain ⟨record, found, ended⟩ := stay token logged
          split_ifs with same
          · exact absurd (keeps call here revokes record (same ▸ found)) ended
          · exact ⟨record, found, ended⟩
  | revokeAll userId instant =>
    intro token logged
    have finds := find_revokeAllIn site.store userId instant token
    rcases List.mem_append.mp logged with mine | earlier
    · obtain ⟨record, filtered, rfl⟩ := List.mem_map.mp mine
      obtain ⟨stored, isUser⟩ := List.mem_filter.mp filtered
      refine ⟨_, finds.trans (by rw [KeyedTable.find_of_mem stored, Option.map_some]), ?_⟩
      unfold SessionRecord.revokeFor
      split_ifs with live
      · exact Option.some_ne_none _
      · exact fun none => live ⟨of_decide_eq_true isUser, none⟩
    · obtain ⟨record, found, ended⟩ := stay token earlier
      refine ⟨_, finds.trans (by rw [found, Option.map_some]), ?_⟩
      unfold SessionRecord.revokeFor
      split_ifs with live
      · exact Option.some_ne_none _
      · exact ended

/-- A refresh that writes over a revoked row makes the session valid again. -/
theorem valid_of_overwritten {manager : SessionManager} {site : Site}
    (coherent : Coherent manager site) {index : Nat}
    (overwrites : ¬ KeepsRevoked site (.write index)) :
    ∃ cookie instant record,
      manager.tokenHash cookie.rawToken ∈ (step manager site (.write index)).revoked ∧
        validate manager (step manager site (.write index)).store cookie instant =
          some record := by
  unfold KeepsRevoked at overwrites
  push Not at overwrites
  obtain ⟨call, here, refreshes, record, found, ended⟩ := overwrites
  have listed := List.mem_of_getElem? here
  obtain ⟨instant, live⟩ := coherent.refreshes call listed refreshes
  obtain ⟨rawToken, token⟩ := coherent.tokens _ record found
  have logged := coherent.logged _ record found ended
  have written : step manager site (.write index) =
      ⟨site.store.put call.record, site.inFlight.eraseIdx index, site.revoked⟩ := by
    simp [step, here, writeBack, save, found, refreshes]
  rw [written]
  refine ⟨⟨call.record.id, rawToken⟩, instant, call.record, token ▸ logged, ?_⟩
  have stored : (site.store.put call.record).find (manager.tokenHash rawToken) =
      some call.record := by
    rw [← token, KeyedTable.find_put found, if_pos rfl]
  exact Option.filter_eq_some_iff.mpr
    ⟨Option.filter_eq_some_iff.mpr ⟨stored, decide_eq_true rfl⟩, live⟩

/-- In a run, a session whose revocation was completed is never valid again, and none is valid from
    the absolute expiry it was issued with on, exactly when no refresh writes its row over one that
    was revoked since it was read. -/
theorem revoked_never_valid_iff (manager : SessionManager) (ops : List SessionOp) :
    ((∀ before after, ops = before ++ after → ∀ cookie instant,
        manager.tokenHash cookie.rawToken ∈ (run manager before).revoked →
          validate manager (run manager before).store cookie instant = none) ∧
      ∀ before middle after, ops = before ++ middle ++ after → ∀ cookie record,
        (run manager before).store.find (manager.tokenHash cookie.rawToken) = some record →
          ∀ instant, record.absoluteExpiresAt.ticks ≤ instant.ticks →
            validate manager (run manager (before ++ middle)).store cookie instant = none) ↔
      ∀ before op after, ops = before ++ op :: after → KeepsRevoked (run manager before) op := by
  have expire : ∀ before middle cookie record,
      (run manager before).store.find (manager.tokenHash cookie.rawToken) = some record →
        ∀ instant, record.absoluteExpiresAt.ticks ≤ instant.ticks →
          validate manager (run manager (before ++ middle)).store cookie instant = none := by
    intro before middle cookie record found instant late
    by_contra valid
    obtain ⟨record', valid⟩ := Option.ne_none_iff_exists'.mp valid
    obtain ⟨present, live⟩ := validate_eq_some valid
    obtain ⟨kept, stored, same⟩ := rowsKept_run manager before middle _ record found
    rw [(lookup_eq_some present).1] at stored
    cases stored
    have bound := (isLive_iff.mp live).2.1
    rw [same.absoluteExpiresAt] at bound
    exact absurd late (not_le.mpr bound)
  constructor
  · rintro ⟨safe, _⟩ before op after rfl
    by_contra overwrites
    cases op with
    | write index =>
      obtain ⟨cookie, instant, record, logged, valid⟩ :=
        valid_of_overwritten (coherent_run manager before) overwrites
      have next : run manager (before ++ [.write index]) =
          step manager (run manager before) (.write index) := run_append ..
      have refused := safe (before ++ [.write index]) after (by simp) cookie instant
      rw [next] at refused
      rw [refused logged] at valid
      cases valid
    | _ => exact overwrites trivial
  · intro keeps
    refine ⟨?_, fun before middle _ _ => expire before middle⟩
    intro before after split cookie instant logged
    have stay : ∀ early late, before = early ++ late → RevokedStay (run manager early) := by
      intro early
      induction early using List.reverseRecOn with
      | nil =>
        intro _ _ token listed
        exact absurd listed List.not_mem_nil
      | append_singleton early op ih =>
        intro late whole
        rw [run_append]
        refine revokedStay_step (coherent_run manager early) (ih (op :: late) (by simp [whole])) ?_
        exact keeps early op (late ++ after) (by simp [split, whole])
    obtain ⟨record, found, ended⟩ := stay before [] (by simp) _ logged
    by_contra valid
    obtain ⟨record', valid⟩ := Option.ne_none_iff_exists'.mp valid
    obtain ⟨present, live⟩ := validate_eq_some valid
    rw [(lookup_eq_some present).1] at found
    cases found
    exact ended (isLive_iff.mp live).1

/-! ## A revocation that is lost -/

theorem halfHour_pos : (0 : Int) < 1800 * 10 ^ 6 := by decide

theorem halfHour_le : (1800 : Int) * 10 ^ 6 ≤ 43200 * 10 ^ 6 := by decide

/-- The default timeouts, and the digest of one token. -/
def sampleManager : SessionManager where
  settings := ⟨1800 * 10 ^ 6, 43200 * 10 ^ 6, halfHour_pos, halfHour_le⟩
  tokenHash := fun token => knownDigest [("first-token".toList,
    "55b4b48f529c3d2daa027cbffa6cfb6a03690424550f22109e39917406c8243b".toList)] token.encode
  clientHash := fun client => knownDigest [] client.encode

theorem morning_valid : 1 ≤ 2026 ∧ 2026 ≤ 9999 ∧ 1 ≤ 5 ∧ 5 ≤ 12 ∧ 1 ≤ 15 ∧
    15 ≤ daysInMonth 2026 5 := by decide

theorem morning_inDay : 9 * 3600 * 10 ^ 6 < dayMicroseconds := by decide

/-- Nine o'clock on a day in May. -/
def morning : UtcInstant := ⟨⟨2026, 5, 15, morning_valid⟩, 9 * 3600 * 10 ^ 6, morning_inDay⟩

def firstCookie : Cookie := ⟨Uuid.ofInt 1, "first-token".toList⟩

/-- A refresh reads the row, the session is revoked, and the refresh writes its row back. -/
def lostRevocation : List SessionOp :=
  [.issue (Uuid.ofInt 1) (Uuid.ofInt 2) "first-token".toList none none morning,
    .refreshRead firstCookie none none morning morning,
    .revokeRead firstCookie morning,
    .write 1,
    .write 0]

theorem run_lostRevocation :
    sampleManager.tokenHash firstCookie.rawToken ∈ (run sampleManager lostRevocation).revoked ∧
      (validate sampleManager (run sampleManager lostRevocation).store firstCookie
        morning).isSome = true := by decide

/-- A session whose revocation was completed is valid again. -/
theorem revocation_is_lost : ¬ ∀ (manager : SessionManager) (ops : List SessionOp) (cookie : Cookie)
    (instant : UtcInstant),
      manager.tokenHash cookie.rawToken ∈ (run manager ops).revoked →
        validate manager (run manager ops).store cookie instant = none := by
  intro claimed
  obtain ⟨logged, valid⟩ := run_lostRevocation
  rw [claimed sampleManager lostRevocation firstCookie morning logged] at valid
  cases valid

end Sessions

end CovenantRadar
