import CovenantRadar.Misc.Windows
import CovenantRadar.Security.RateLimit

/-!
# The limiter as a sliding log

What the store remembers of one key, against a log of all instants recorded for the key that nothing
ever leaves. The two agree unless the key is evicted while instants of its window are in it.
-/

namespace CovenantRadar

namespace RateLimit

variable {maxKeys : Nat}

/-! ## The log of one key -/

/-- The instants of a log in the window that a request ends. -/
def current (rule : RateLimitRule) (log : List UtcInstant) (instant : UtcInstant) :
    List UtcInstant :=
  log.filter fun earlier => decide (instant.ticks - rule.window < earlier.ticks)

/-- The log after a request at an instant. -/
def slide (rule : RateLimitRule) (log : List UtcInstant) (instant : UtcInstant) :
    List UtcInstant :=
  if rule.limit ≤ (current rule log instant).length then log else log ++ [instant]

/-- The key under which a request is counted; `none` for one that raises before it is counted. -/
def countedUnder (settings : RateLimitSettings) (request : Request) : Option Text :=
  if request.key = [] then none
  else
    match ruleFor settings request.category with
    | .error _ => none
    | .ok rule =>
        if (request.instant.plus (-rule.window)).isSome then
          some (storeKey request.category request.key)
        else none

/-- The log of a key after requests. -/
def slidingLog (settings : RateLimitSettings) (rule : RateLimitRule) (name : Text)
    (requests : List Request) : List UtcInstant :=
  ((requests.filter fun request => decide (countedUnder settings request = some name)).map
    Request.instant).foldl (slide rule) []

/-- Wherever two requests of a key follow each other within the window, fewer other keys than the
    store holds are counted between them. -/
def Undisturbed (settings : RateLimitSettings) (maxKeys : Nat) (rule : RateLimitRule) (name : Text)
    (requests : List Request) : Prop :=
  ∀ before first between second after,
    requests = before ++ first :: (between ++ second :: after) →
    countedUnder settings first = some name → countedUnder settings second = some name →
    name ∉ between.filterMap (countedUnder settings) →
    second.instant.ticks < first.instant.ticks + rule.window →
    (between.filterMap (countedUnder settings)).dedup.length < maxKeys

/-- The requests come at nondecreasing instants. -/
def InOrder (requests : List Request) : Prop :=
  (requests.map fun request => request.instant.ticks).Pairwise (· ≤ ·)

/-! ## One request -/

/-- The rule names have no colon, so a store key tells its category and key. -/
theorem storeKey_inj {settings : RateLimitSettings} {category other key key' : Text}
    {rule rule' : RateLimitRule} (found : ruleFor settings category = .ok rule)
    (found' : ruleFor settings other = .ok rule')
    (same : storeKey category key = storeKey other key') : category = other ∧ key = key' := by
  have known : ∀ {category : Text} {rule : RateLimitRule}, ruleFor settings category = .ok rule →
      ':' ∉ category := by
    intro category rule found
    unfold ruleFor at found
    split at found
    · next located =>
      have listed := mem_of_dictGet located
      simp only [List.mem_cons, Prod.mk.injEq, List.not_mem_nil, or_false] at listed
      rcases listed with ⟨rfl, _⟩ | ⟨rfl, _⟩ | ⟨rfl, _⟩
      all_goals decide
    · cases found
  exact append_separator_inj (known found) (known found') same

theorem recorded_eq (rule : RateLimitRule) (log : List UtcInstant) (instant : UtcInstant) :
    slide rule log instant = log ∧
        recorded rule (current rule log instant) instant = current rule log instant ∨
      slide rule log instant = log ++ [instant] ∧
        recorded rule (current rule log instant) instant = current rule log instant ++ [instant] := by
  unfold slide recorded
  split_ifs
  · exact .inl ⟨rfl, rfl⟩
  · exact .inr ⟨rfl, rfl⟩

/-- A request that is not counted leaves the store as it was, and is not let through. -/
theorem check_of_uncounted {settings : RateLimitSettings} {store : RateLimitStore maxKeys}
    {request : Request} (uncounted : countedUnder settings request = none) :
    (check settings store request.category request.key request.instant).2 = store ∧
      ∃ error, (check settings store request.category request.key request.instant).1 =
        .error error := by
  unfold countedUnder at uncounted
  unfold check
  split_ifs at uncounted ⊢ with unnamed
  · exact ⟨rfl, _, rfl⟩
  · cases found : ruleFor settings request.category with
    | error error => exact ⟨rfl, _, rfl⟩
    | ok rule =>
      rw [found] at uncounted
      simp only at uncounted
      split_ifs at uncounted with representable
      simp only [consume, Option.not_isSome_iff_eq_none.mp representable]
      exact ⟨trivial, _, rfl⟩

/-- A request that is counted uses its key. -/
theorem check_of_counted {settings : RateLimitSettings} {store : RateLimitStore maxKeys}
    {request : Request} {name : Text} (counted : countedUnder settings request = some name) :
    ∃ rule timestamps, ruleFor settings request.category = .ok rule ∧
      name = storeKey request.category request.key ∧
      timestamps = ((store.get name).getD []).dropWhile (fun timestamp =>
        decide (timestamp.ticks ≤ request.instant.ticks - rule.window)) ∧
      check settings store request.category request.key request.instant =
        (decision rule timestamps request.instant,
          store.use name (recorded rule timestamps request.instant)) := by
  unfold countedUnder at counted
  unfold check
  split_ifs at counted ⊢ with unnamed
  cases found : ruleFor settings request.category with
  | error error => simp [found] at counted
  | ok rule =>
    simp only [found] at counted
    split_ifs at counted with representable
    cases counted
    obtain ⟨cutoff, moved⟩ := Option.isSome_iff_exists.mp representable
    have ticks : cutoff.ticks = request.instant.ticks - rule.window :=
      UtcInstant.ticks_plus moved
    refine ⟨rule, _, rfl, rfl, rfl, ?_⟩
    simp only [consume, moved, expire, ticks]

/-- The store after requests. -/
theorem store_run_append (settings : RateLimitSettings) (positive : 0 < maxKeys)
    (requests : List Request) (request : Request) :
    (run settings positive (requests ++ [request])).store =
      (check settings (run settings positive requests).store request.category request.key
        request.instant).2 := by
  simp [run, step]

theorem answered_run_append (settings : RateLimitSettings) (positive : 0 < maxKeys)
    (requests : List Request) (request : Request) :
    (run settings positive (requests ++ [request])).answered =
      (run settings positive requests).answered ++
        [(request, answerTo settings positive requests request)] := by
  simp [run, step, answerTo]

theorem slidingLog_append (settings : RateLimitSettings) (rule : RateLimitRule) (name : Text)
    (requests : List Request) (request : Request) :
    slidingLog settings rule name (requests ++ [request]) =
      if countedUnder settings request = some name then
        slide rule (slidingLog settings rule name requests) request.instant
      else slidingLog settings rule name requests := by
  unfold slidingLog
  rw [List.filter_append, List.map_append, List.foldl_append]
  split_ifs with counted
  · simp [counted]
  · simp [counted]

/-! ## The store mirrors the log -/

/-- What the store holds of a key: nothing, for a key that never came; else, after the last request
    of the key, the instants of the log that are still in its window, unless the key was evicted. -/
def Mirrors (settings : RateLimitSettings) (rule : RateLimitRule) (name : Text)
    (store : RateLimitStore maxKeys) (log : List UtcInstant) (requests : List Request) : Prop :=
  (name ∉ requests.filterMap (countedUnder settings) ∧ name ∉ store.keys ∧ log = []) ∨
  ∃ before last between, requests = before ++ last :: between ∧
    countedUnder settings last = some name ∧
    name ∉ between.filterMap (countedUnder settings) ∧
    (∀ earlier ∈ log, earlier.ticks ≤ last.instant.ticks) ∧
    ((∃ old timestamps, log = old ++ timestamps ∧
        (∀ earlier ∈ old, earlier.ticks + rule.window ≤ last.instant.ticks) ∧
        store.UsedBefore name timestamps (between.filterMap (countedUnder settings))) ∨
      store.Evicted name (between.filterMap (countedUnder settings)))

/-- The instants of a log are in order. -/
def Sorted (log : List UtcInstant) : Prop :=
  log.Pairwise fun earlier later => earlier.ticks ≤ later.ticks

/-- On a log in order, what is left after the popping is what is in the window. -/
theorem dropWhile_eq_current {rule : RateLimitRule} {log : List UtcInstant} {instant : UtcInstant}
    (sorted : Sorted log) :
    (log.dropWhile fun earlier => decide (earlier.ticks ≤ instant.ticks - rule.window)) =
      current rule log instant := by
  rw [dropWhile_eq_filter_not]
  · unfold current
    apply List.filter_congr
    intro earlier _
    simp only [← decide_not, not_le]
  · refine sorted.imp ?_
    intro earlier later before expired
    have := of_decide_eq_true expired
    exact decide_eq_true (before.trans this)

theorem current_eq_nil {rule : RateLimitRule} {log : List UtcInstant} {instant : UtcInstant}
    (expired : ∀ earlier ∈ log, earlier.ticks + rule.window ≤ instant.ticks) :
    current rule log instant = [] := by
  apply List.filter_eq_nil_iff.mpr
  intro earlier listed
  have := expired earlier listed
  simp only [decide_eq_true_eq, not_lt]
  omega

theorem filterMap_append_counted {settings : RateLimitSettings} {requests : List Request}
    {request : Request} {name : Text} (counted : countedUnder settings request = some name) :
    (requests ++ [request]).filterMap (countedUnder settings) =
      requests.filterMap (countedUnder settings) ++ [name] := by
  rw [List.filterMap_append, List.filterMap_cons_some counted, List.filterMap_nil]

theorem filterMap_append_uncounted {settings : RateLimitSettings} {requests : List Request}
    {request : Request} (uncounted : countedUnder settings request = none) :
    (requests ++ [request]).filterMap (countedUnder settings) =
      requests.filterMap (countedUnder settings) := by
  rw [List.filterMap_append, List.filterMap_cons_none uncounted, List.filterMap_nil,
    List.append_nil]

/-- A request of another key, or one that is not counted. -/
theorem mirrors_other {settings : RateLimitSettings} {rule : RateLimitRule} {name : Text}
    {store : RateLimitStore maxKeys} {log : List UtcInstant} {requests : List Request}
    {request : Request} (mirrors : Mirrors settings rule name store log requests)
    (other : countedUnder settings request ≠ some name) :
    Mirrors settings rule name
      (check settings store request.category request.key request.instant).2 log
      (requests ++ [request]) := by
  cases counted : countedUnder settings request with
  | none =>
    rw [(check_of_uncounted counted).1]
    rcases mirrors with ⟨never, absent, empty⟩ | ⟨before, last, between, shape, own, clear, rest⟩
    · left
      rw [filterMap_append_uncounted counted]
      exact ⟨never, absent, empty⟩
    · right
      refine ⟨before, last, between ++ [request], by rw [shape]; simp, own, ?_, ?_⟩
      · rwa [filterMap_append_uncounted counted]
      · rwa [filterMap_append_uncounted counted]
  | some key =>
    have apart : key ≠ name := fun same => other (same ▸ counted)
    obtain ⟨_, _, _, _, _, checked⟩ := @check_of_counted _ settings store request key counted
    rw [checked]
    rcases mirrors with ⟨never, absent, empty⟩ |
      ⟨before, last, between, shape, own, clear, bounded, kept⟩
    · left
      refine ⟨?_, LruDict.notMem_use absent apart, empty⟩
      rw [filterMap_append_counted counted, List.mem_append, List.mem_singleton]
      exact fun listed => listed.elim never fun same => apart same.symm
    · right
      refine ⟨before, last, between ++ [request], by rw [shape]; simp, own, ?_, bounded, ?_⟩
      · rw [filterMap_append_counted counted, List.mem_append, List.mem_singleton]
        exact fun listed => listed.elim clear fun same => apart same.symm
      · rw [filterMap_append_counted counted]
        rcases kept with ⟨old, timestamps, parts, expired, used⟩ | evicted
        · rcases used.use apart _ with used | evicted
          · exact .inl ⟨old, timestamps, parts, expired, used⟩
          · exact .inr evicted
        · exact .inr (evicted.use apart _)

/-- At an undisturbed request of the key, the store holds what the log has in its window. -/
theorem get_eq_current {settings : RateLimitSettings} {rule : RateLimitRule} {name : Text}
    {store : RateLimitStore maxKeys} {log : List UtcInstant} {requests : List Request}
    {request : Request} (mirrors : Mirrors settings rule name store log requests)
    (sorted : Sorted log) (counted : countedUnder settings request = some name)
    (later : ∀ earlier ∈ requests, earlier.instant.ticks ≤ request.instant.ticks)
    (undisturbed : Undisturbed settings maxKeys rule name (requests ++ [request])) :
    (((store.get name).getD []).dropWhile fun timestamp =>
      decide (timestamp.ticks ≤ request.instant.ticks - rule.window)) =
      current rule log request.instant := by
  rcases mirrors with ⟨_, absent, rfl⟩ |
    ⟨before, last, between, shape, own, clear, bounded, kept⟩
  · rw [LruDict.get_eq_none_iff.mpr absent]
    rfl
  · have after : last.instant.ticks ≤ request.instant.ticks := later last (by rw [shape]; simp)
    rcases kept with ⟨old, timestamps, rfl, expired, used⟩ | evicted
    · have none : current rule old request.instant = [] :=
        current_eq_nil fun earlier listed => (expired earlier listed).trans after
      have parts : current rule (old ++ timestamps) request.instant =
          current rule timestamps request.instant := by
        unfold current at none ⊢
        rw [List.filter_append, none, List.nil_append]
      rw [used.get_eq, parts]
      exact dropWhile_eq_current (List.pairwise_append.mp sorted).2.1
    · rw [LruDict.get_eq_none_iff.mpr evicted.absent]
      refine (current_eq_nil ?_).symm
      intro earlier listed
      have beyond : last.instant.ticks + rule.window ≤ request.instant.ticks := by
        by_contra within
        have fewer := undisturbed before last between request [] (by rw [shape]; simp) own counted
          clear (not_le.mp within)
        have := evicted.crowded
        omega
      have := bounded earlier listed
      omega

/-- The key and the instants that a request of the key leaves. -/
theorem mirrors_own {settings : RateLimitSettings} {rule : RateLimitRule} {name : Text}
    {store : RateLimitStore maxKeys} {log : List UtcInstant} {requests : List Request}
    {request : Request} (counted : countedUnder settings request = some name)
    (later : ∀ earlier ∈ log, earlier.ticks ≤ request.instant.ticks) (sorted : Sorted log) :
    Mirrors settings rule name
      (store.use name (recorded rule (current rule log request.instant) request.instant))
      (slide rule log request.instant) (requests ++ [request]) := by
  right
  refine ⟨requests, request, [], rfl, counted, List.not_mem_nil, ?_, .inl ?_⟩
  · intro earlier listed
    rcases recorded_eq rule log request.instant with ⟨same, _⟩ | ⟨same, _⟩
    · exact later earlier (same ▸ listed)
    · rw [same, List.mem_append, List.mem_singleton] at listed
      exact listed.elim (later earlier) fun same => le_of_eq (congrArg _ same)
  · -- the log splits where its window starts
    have parts := List.takeWhile_append_dropWhile (l := log)
      (p := fun earlier => decide (earlier.ticks ≤ request.instant.ticks - rule.window))
    rw [dropWhile_eq_current sorted] at parts
    have expired : ∀ earlier ∈ log.takeWhile (fun earlier =>
        decide (earlier.ticks ≤ request.instant.ticks - rule.window)),
        earlier.ticks + rule.window ≤ request.instant.ticks := by
      intro earlier listed
      have early := List.mem_takeWhile_imp listed
      rw [decide_eq_true_eq] at early
      omega
    refine ⟨_, _, ?_, expired, LruDict.usedBefore_use _ _ _⟩
    rcases recorded_eq rule log request.instant with ⟨slid, left⟩ | ⟨slid, left⟩
    · rw [slid, left, parts]
    · rw [slid, left, ← List.append_assoc, parts]

/-! ## Runs -/

theorem slidingLog_sublist (settings : RateLimitSettings) (rule : RateLimitRule) (name : Text)
    (requests : List Request) :
    (slidingLog settings rule name requests).Sublist (requests.map Request.instant) := by
  induction requests using List.reverseRecOn with
  | nil => exact List.Sublist.refl _
  | append_singleton requests request ih =>
    have kept := ih.trans (List.sublist_append_left _ [request.instant])
    rw [slidingLog_append, List.map_append]
    split_ifs
    · rcases recorded_eq rule (slidingLog settings rule name requests) request.instant with
        ⟨same, _⟩ | ⟨same, _⟩
      · rw [same]
        exact kept
      · rw [same]
        exact ih.append (List.Sublist.refl _)
    · exact kept

theorem sorted_slidingLog {settings : RateLimitSettings} {rule : RateLimitRule} {name : Text}
    {requests : List Request} (ordered : InOrder requests) :
    Sorted (slidingLog settings rule name requests) := by
  have instants : (requests.map Request.instant).Pairwise fun earlier later =>
      earlier.ticks ≤ later.ticks := by
    unfold InOrder at ordered
    rw [List.pairwise_map] at ordered ⊢
    exact ordered
  exact instants.sublist (slidingLog_sublist settings rule name requests)

/-- A request in order comes at or after all before it, and after the log. -/
theorem later_of_inOrder {requests : List Request} {request : Request}
    (ordered : InOrder (requests ++ [request])) :
    InOrder requests ∧ (∀ earlier ∈ requests, earlier.instant.ticks ≤ request.instant.ticks) := by
  unfold InOrder at ordered
  rw [List.map_append, List.pairwise_append] at ordered
  refine ⟨ordered.1, fun earlier listed => ?_⟩
  exact ordered.2.2 _ (List.mem_map_of_mem listed) _ (List.mem_singleton_self _)

theorem log_le {settings : RateLimitSettings} {rule : RateLimitRule} {name : Text}
    {requests : List Request} {instant : UtcInstant}
    (later : ∀ earlier ∈ requests, earlier.instant.ticks ≤ instant.ticks) :
    ∀ earlier ∈ slidingLog settings rule name requests, earlier.ticks ≤ instant.ticks := by
  intro earlier listed
  obtain ⟨request, present, rfl⟩ :=
    List.mem_map.mp ((slidingLog_sublist settings rule name requests).subset listed)
  exact later request present

theorem Undisturbed.of_append {settings : RateLimitSettings} {rule : RateLimitRule} {name : Text}
    {requests more : List Request}
    (undisturbed : Undisturbed settings maxKeys rule name (requests ++ more)) :
    Undisturbed settings maxKeys rule name requests := by
  intro before first between second after shape
  exact undisturbed before first between second (after ++ more) (by rw [shape]; simp)

/-- An undisturbed request of the key is told what the log says, and leaves the store with what the
    log has in its window. -/
theorem check_eq_of_mirrors {settings : RateLimitSettings} {category key : Text}
    {rule : RateLimitRule} (found : ruleFor settings category = .ok rule)
    {store : RateLimitStore maxKeys} {requests : List Request} {request : Request}
    (mirrors : Mirrors settings rule (storeKey category key) store
      (slidingLog settings rule (storeKey category key) requests) requests)
    (ordered : InOrder (requests ++ [request]))
    (undisturbed : Undisturbed settings maxKeys rule (storeKey category key)
      (requests ++ [request]))
    (counted : countedUnder settings request = some (storeKey category key)) :
    let window := current rule (slidingLog settings rule (storeKey category key) requests)
      request.instant
    check settings store request.category request.key request.instant =
      (decision rule window request.instant,
        store.use (storeKey category key) (recorded rule window request.instant)) := by
  obtain ⟨inOrder, later⟩ := later_of_inOrder ordered
  obtain ⟨rule', timestamps, found', same, held, checked⟩ :=
    @check_of_counted _ settings store request _ counted
  obtain ⟨sameCategory, _⟩ := storeKey_inj found found' same
  rw [← sameCategory, found] at found'
  cases found'
  rw [get_eq_current mirrors (sorted_slidingLog inOrder) counted later undisturbed] at held
  rw [checked, held]

/-- The store mirrors the log after every undisturbed run. -/
theorem mirrors_run {settings : RateLimitSettings} {category key : Text} {rule : RateLimitRule}
    (found : ruleFor settings category = .ok rule) (positive : 0 < maxKeys)
    (requests : List Request) (ordered : InOrder requests)
    (undisturbed : Undisturbed settings maxKeys rule (storeKey category key) requests) :
    Mirrors settings rule (storeKey category key) (run settings positive requests).store
      (slidingLog settings rule (storeKey category key) requests) requests := by
  induction requests using List.reverseRecOn with
  | nil => exact .inl ⟨List.not_mem_nil, List.not_mem_nil, rfl⟩
  | append_singleton requests request ih =>
    obtain ⟨inOrder, later⟩ := later_of_inOrder ordered
    have mirrors := ih inOrder undisturbed.of_append
    rw [store_run_append, slidingLog_append]
    split_ifs with counted
    · rw [check_eq_of_mirrors found mirrors ordered undisturbed counted]
      exact mirrors_own counted (log_le later) (sorted_slidingLog inOrder)
    · exact mirrors_other mirrors counted

/-- The answer to an undisturbed request of a key, from the log. -/
theorem answerTo_eq {settings : RateLimitSettings} {category key : Text} {rule : RateLimitRule}
    (found : ruleFor settings category = .ok rule) (positive : 0 < maxKeys)
    {requests : List Request} {request : Request} (ordered : InOrder (requests ++ [request]))
    (undisturbed : Undisturbed settings maxKeys rule (storeKey category key)
      (requests ++ [request]))
    (counted : countedUnder settings request = some (storeKey category key)) :
    answerTo settings positive requests request = decision rule
      (current rule (slidingLog settings rule (storeKey category key) requests) request.instant)
      request.instant := by
  have mirrors := mirrors_run found positive requests (later_of_inOrder ordered).1
    undisturbed.of_append
  rw [answerTo, check_eq_of_mirrors found mirrors ordered undisturbed counted]

/-! ## The limit -/

/-- The log never holds more than the limit in a window. -/
theorem withinLimit_slidingLog (settings : RateLimitSettings) (rule : RateLimitRule) (name : Text)
    (requests : List Request) : WithinLimit rule.limit rule.window
      ((slidingLog settings rule name requests).map UtcInstant.ticks) := by
  induction requests using List.reverseRecOn with
  | nil => exact withinLimit_nil _ _
  | append_singleton requests request ih =>
    rw [slidingLog_append]
    split_ifs
    · unfold slide
      split_ifs with full
      · exact ih
      · rw [List.map_append]
        apply ih.append
        rw [List.filter_map, List.length_map]
        exact not_le.mp full
    · exact ih

/-- Whoever is let through finds room. -/
theorem room_of_isAllowed {rule : RateLimitRule} {timestamps : List UtcInstant}
    {instant : UtcInstant} (allowed : isAllowed (decision rule timestamps instant) = true) :
    timestamps.length < rule.limit := by
  unfold decision at allowed
  split_ifs at allowed with full
  · split at allowed
    · cases allowed
    · split at allowed
      · cases allowed
      · cases allowed
  · exact not_le.mp full

theorem allowedTicks_append (settings : RateLimitSettings) (positive : 0 < maxKeys)
    (category key : Text) (requests : List Request) (request : Request) :
    allowedTicks category key (run settings positive (requests ++ [request])) =
      allowedTicks category key (run settings positive requests) ++
        if (request.category = category ∧ request.key = key) ∧
          isAllowed (answerTo settings positive requests request) = true
        then [request.instant.ticks] else [] := by
  unfold allowedTicks
  rw [answered_run_append, List.filter_append, List.map_append]
  split_ifs with passes
  · rw [List.filter_cons_of_pos (by simp [passes])]
    rfl
  · rw [List.filter_cons_of_neg (by simpa using passes)]
    rfl

/-- A request that is answered with a decision is counted under its key. -/
theorem counted_of_answer {settings : RateLimitSettings} {positive : 0 < maxKeys}
    {requests : List Request} {request : Request} {answer : RateLimitDecision}
    (answered : answerTo settings positive requests request = .ok answer) :
    countedUnder settings request = some (storeKey request.category request.key) := by
  cases counted : countedUnder settings request with
  | none =>
    obtain ⟨_, error, raised⟩ :=
      @check_of_uncounted _ settings (run settings positive requests).store request counted
    rw [answerTo, raised] at answered
    cases answered
  | some name =>
    obtain ⟨_, _, _, same, _⟩ :=
      @check_of_counted _ settings (run settings positive requests).store request name counted
    rw [same]

/-- Every request let through is in the log. -/
theorem allowedTicks_sublist {settings : RateLimitSettings} {category key : Text}
    {rule : RateLimitRule} (found : ruleFor settings category = .ok rule) (positive : 0 < maxKeys)
    (requests : List Request) (ordered : InOrder requests)
    (undisturbed : Undisturbed settings maxKeys rule (storeKey category key) requests) :
    (allowedTicks category key (run settings positive requests)).Sublist
      ((slidingLog settings rule (storeKey category key) requests).map UtcInstant.ticks) := by
  induction requests using List.reverseRecOn with
  | nil => exact List.Sublist.refl _
  | append_singleton requests request ih =>
    have kept := ih (later_of_inOrder ordered).1 undisturbed.of_append
    rw [allowedTicks_append, slidingLog_append]
    by_cases passes : (request.category = category ∧ request.key = key) ∧
        isAllowed (answerTo settings positive requests request) = true
    · obtain ⟨⟨rfl, rfl⟩, allowed⟩ := passes
      have counted : countedUnder settings request =
          some (storeKey request.category request.key) := by
        cases answered : answerTo settings positive requests request with
        | error error =>
          rw [answered] at allowed
          cases allowed
        | ok answer => exact counted_of_answer answered
      rw [answerTo_eq found positive ordered undisturbed counted] at allowed
      have room := room_of_isAllowed allowed
      rw [if_pos counted, answerTo_eq found positive ordered undisturbed counted,
        if_pos ⟨⟨rfl, rfl⟩, allowed⟩, slide, if_neg (not_le.mpr room), List.map_append]
      exact kept.append (List.Sublist.refl _)
    · rw [if_neg passes, List.append_nil]
      split_ifs
      · rcases recorded_eq rule (slidingLog settings rule (storeKey category key) requests)
          request.instant with ⟨same, _⟩ | ⟨same, _⟩
        · rw [same]
          exact kept
        · rw [same, List.map_append]
          exact kept.trans (List.sublist_append_left _ _)
      · exact kept

/-! ## The reset of a refused request -/

/-- The request was refused. -/
def IsRefused : Except PyError RateLimitDecision → Prop
  | .ok decision => decision.allowed = false
  | .error _ => False

/-- A refusal names the end of the window of the oldest instant. -/
theorem decision_refused {rule : RateLimitRule} {timestamps : List UtcInstant}
    {instant : UtcInstant} {answer : RateLimitDecision}
    (told : decision rule timestamps instant = .ok answer) (refused : answer.allowed = false) :
    rule.limit ≤ timestamps.length ∧ ∃ oldest rest, timestamps = oldest :: rest ∧
      oldest.plus rule.window = some answer.resetAt := by
  unfold decision at told
  split_ifs at told with full
  · split at told
    · cases told
    · next oldest rest =>
      split at told
      · cases told
      · next resetAt moved =>
        cases told
        exact ⟨full, oldest, rest, rfl, moved⟩
  · split at told
    · cases told
    · cases told
      cases refused

theorem decision_of_full {rule : RateLimitRule} {oldest : UtcInstant} {rest : List UtcInstant}
    {instant resetAt : UtcInstant} (full : rule.limit ≤ (oldest :: rest).length)
    (moved : oldest.plus rule.window = some resetAt) :
    ∃ answer, decision rule (oldest :: rest) instant = .ok answer ∧ answer.allowed = false ∧
      answer.resetAt = resetAt := by
  unfold decision
  rw [if_pos full]
  simp only [moved]
  exact ⟨_, rfl, rfl, rfl⟩

theorem decision_of_room {rule : RateLimitRule} {timestamps : List UtcInstant}
    {instant : UtcInstant} (room : timestamps.length < rule.limit) :
    (∀ answer, decision rule timestamps instant = .ok answer → answer.allowed = true) ∧
      ((instant.plus rule.window).isSome → ∃ answer, decision rule timestamps instant =
        .ok answer) := by
  unfold decision
  rw [if_neg (not_le.mpr room)]
  cases instant.plus rule.window with
  | none => exact ⟨nofun, nofun⟩
  | some resetAt =>
    refine ⟨fun answer told => ?_, fun _ => ⟨_, rfl⟩⟩
    cases told
    rfl

/-- The log stands still while every request of the key is refused. -/
theorem slidingLog_of_refused {settings : RateLimitSettings} {category key : Text}
    {rule : RateLimitRule} (found : ruleFor settings category = .ok rule) (positive : 0 < maxKeys)
    (before between : List Request) (ordered : InOrder (before ++ between))
    (undisturbed : Undisturbed settings maxKeys rule (storeKey category key) (before ++ between))
    (refused : ∀ front request rest, between = front ++ request :: rest →
      request.category = category → request.key = key →
      IsRefused (answerTo settings positive (before ++ front) request)) :
    slidingLog settings rule (storeKey category key) (before ++ between) =
      slidingLog settings rule (storeKey category key) before := by
  induction between using List.reverseRecOn with
  | nil => rw [List.append_nil]
  | append_singleton between request ih =>
    rw [← List.append_assoc] at ordered undisturbed ⊢
    have still := ih (later_of_inOrder ordered).1 undisturbed.of_append
      fun front request' rest shape =>
        refused front request' (rest ++ [request]) (by rw [shape]; simp)
    rw [slidingLog_append]
    split_ifs with counted
    · obtain ⟨rule', _, found', same, _⟩ := @check_of_counted _ settings
        (run settings positive (before ++ between)).store request _ counted
      obtain ⟨sameCategory, sameKey⟩ := storeKey_inj found found' same
      have told := refused between request [] rfl sameCategory.symm sameKey.symm
      rw [answerTo_eq found positive ordered undisturbed counted] at told
      unfold slide
      rw [if_pos]
      · exact still
      · by_contra fewer
        cases answered : decision rule (current rule (slidingLog settings rule
            (storeKey category key) (before ++ between)) request.instant) request.instant with
        | error error =>
          rw [answered] at told
          exact told
        | ok answer =>
          have allowed := (decision_of_room (not_le.mp fewer)).1 answer answered
          rw [answered] at told
          exact Bool.noConfusion (allowed.symm.trans told)
    · exact still

/-- The instant a refusal names: the key is refused before it, and let through from it on. -/
def ExactReset (rule : RateLimitRule) (answer : RateLimitDecision) (instant : UtcInstant)
    (later : Except PyError RateLimitDecision) : Prop :=
  (instant.ticks < answer.resetAt.ticks → ∃ decision, later = .ok decision ∧
    decision.allowed = false ∧ decision.resetAt = answer.resetAt) ∧
  (answer.resetAt.ticks ≤ instant.ticks →
    (∀ decision, later = .ok decision → decision.allowed = true) ∧
    ((instant.plus rule.window).isSome → ∃ decision, later = .ok decision))

/-- A refusal and a later look at the same log. -/
theorem exactReset_of_current {rule : RateLimitRule} {log : List UtcInstant}
    {instant later : UtcInstant} {answer : RateLimitDecision} (sorted : Sorted log)
    (within : WithinLimit rule.limit rule.window (log.map UtcInstant.ticks))
    (before : ∀ earlier ∈ log, earlier.ticks ≤ instant.ticks) (after : instant.ticks ≤ later.ticks)
    (told : decision rule (current rule log instant) instant = .ok answer)
    (refused : answer.allowed = false) :
    ExactReset rule answer later (decision rule (current rule log later) later) := by
  obtain ⟨full, oldest, rest, shape, moved⟩ := decision_refused told refused
  have reset : answer.resetAt.ticks = oldest.ticks + rule.window := UtcInstant.ticks_plus moved
  -- what is in the later window was in the earlier one
  have nested : current rule log later = current rule (oldest :: rest) later := by
    rw [← shape]
    unfold current
    rw [List.filter_filter]
    apply List.filter_congr
    intro earlier _
    apply Bool.eq_iff_iff.mpr
    simp only [Bool.and_eq_true, decide_eq_true_eq]
    omega
  have ordered : Sorted (oldest :: rest) := by
    rw [← shape]
    exact sorted.sublist List.filter_sublist
  constructor
  · intro early
    have whole : current rule (oldest :: rest) later = oldest :: rest := by
      apply List.filter_eq_self.mpr
      intro earlier listed
      have first : oldest.ticks ≤ earlier.ticks := by
        rcases List.mem_cons.mp listed with rfl | listed
        · exact le_refl _
        · exact (List.pairwise_cons.mp ordered).1 earlier listed
      exact decide_eq_true (by omega)
    rw [nested, whole]
    rw [shape] at full
    exact decision_of_full full moved
  · intro late
    apply decision_of_room
    have gone : current rule (oldest :: rest) later = current rule rest later :=
      List.filter_cons_of_neg (by simp only [decide_eq_true_eq]; omega)
    have counted : (oldest :: rest).length ≤ rule.limit := by
      rw [← shape]
      have bound := within instant.ticks
      unfold inWindow at bound
      rw [List.filter_map, List.length_map] at bound
      refine le_trans (le_of_eq (congrArg List.length ?_)) bound
      apply List.filter_congr
      intro earlier listed
      have := before earlier listed
      apply Bool.eq_iff_iff.mpr
      simp only [Function.comp, decide_eq_true_eq]
      omega
    have fewer : (current rule rest later).length ≤ rest.length := List.length_filter_le _ _
    rw [nested, gone]
    rw [List.length_cons] at counted
    omega

theorem InOrder.of_append {requests more : List Request} (ordered : InOrder (requests ++ more)) :
    InOrder requests := by
  unfold InOrder at ordered ⊢
  rw [List.map_append, List.pairwise_append] at ordered
  exact ordered.1

/-- A request of the same key after one that is counted is counted. -/
theorem counted_later {settings : RateLimitSettings} {category key : Text} {rule : RateLimitRule}
    (found : ruleFor settings category = .ok rule) {first second : Request}
    (counted : countedUnder settings first = some (storeKey category key))
    (sameCategory : second.category = category) (sameKey : second.key = key)
    (after : first.instant.ticks ≤ second.instant.ticks) :
    countedUnder settings second = some (storeKey category key) := by
  unfold countedUnder at counted ⊢
  split_ifs at counted with unnamed
  cases found' : ruleFor settings first.category with
  | error error => simp [found'] at counted
  | ok rule' =>
    simp only [found'] at counted
    split_ifs at counted with representable
    obtain ⟨rfl, rfl⟩ := storeKey_inj found' found (Option.some.inj counted)
    rw [found] at found'
    cases found'
    obtain ⟨cutoff, moved⟩ := Option.isSome_iff_exists.mp representable
    have early := cutoff.dayMicroseconds_le_ticks
    rw [UtcInstant.ticks_plus moved] at early
    have lasting := rule.lasting
    obtain ⟨moved', shifted⟩ := @UtcInstant.exists_plus_of_nonpos second.instant (-rule.window)
      (by omega) (by omega)
    rw [sameKey, if_neg unnamed, sameCategory, found]
    simp [shifted]

/-- In any requests at nondecreasing instants, as long as fewer other keys than the store holds come
    between two requests of a key within its window, the key is let through at most `limit` times in
    any window, and a refusal names the instant from which the key is let through again. -/
theorem limit_and_reset_of_undisturbed (settings : RateLimitSettings) (positive : 0 < maxKeys)
    (category key : Text) (rule : RateLimitRule) (found : ruleFor settings category = .ok rule)
    (requests : List Request) (ordered : InOrder requests)
    (undisturbed : Undisturbed settings maxKeys rule (storeKey category key) requests) :
    WithinLimit rule.limit rule.window
      (allowedTicks category key (run settings positive requests)) ∧
    ∀ before refused between later after answer,
      requests = before ++ refused :: (between ++ later :: after) →
      refused.category = category → refused.key = key →
      later.category = category → later.key = key →
      answerTo settings positive before refused = .ok answer → answer.allowed = false →
      (∀ front request rest, between = front ++ request :: rest →
        request.category = category → request.key = key →
        IsRefused (answerTo settings positive (before ++ refused :: front) request)) →
      ExactReset rule answer later.instant
        (answerTo settings positive (before ++ refused :: between) later) := by
  constructor
  · exact (withinLimit_slidingLog settings rule _ requests).sublist
      (allowedTicks_sublist found positive requests ordered undisturbed)
  · intro before refused between later after answer shape refusedCategory refusedKey laterCategory
      laterKey told denied others
    have toLater : requests = (((before ++ [refused]) ++ between) ++ [later]) ++ after := by
      rw [shape]
      simp
    rw [toLater] at ordered undisturbed
    have orderedLater := ordered.of_append
    have undisturbedLater := undisturbed.of_append
    have orderedBetween := orderedLater.of_append
    have undisturbedBetween := undisturbedLater.of_append
    have orderedRefused := orderedBetween.of_append
    have undisturbedRefused := undisturbedBetween.of_append
    have counted : countedUnder settings refused = some (storeKey category key) := by
      rw [← refusedCategory, ← refusedKey]
      exact counted_of_answer told
    have after' : refused.instant.ticks ≤ later.instant.ticks :=
      (later_of_inOrder orderedLater).2 refused (by simp)
    have countedLater := counted_later found counted laterCategory laterKey after'
    rw [answerTo_eq found positive orderedRefused undisturbedRefused counted] at told
    -- the refusals up to the later request leave the log as it was
    have still : slidingLog settings rule (storeKey category key)
        ((before ++ [refused]) ++ between) =
          slidingLog settings rule (storeKey category key) before := by
      rw [slidingLog_of_refused found positive _ between orderedBetween undisturbedBetween]
      · rw [slidingLog_append, if_pos counted, slide, if_pos (decision_refused told denied).1]
      · intro front request rest parts sameCategory sameKey
        rw [List.append_assoc]
        exact others front request rest parts sameCategory sameKey
    have look := answerTo_eq found positive orderedLater undisturbedLater countedLater
    rw [still, List.append_assoc, List.singleton_append] at look
    rw [look]
    apply exactReset_of_current
      (sorted_slidingLog (later_of_inOrder orderedRefused).1)
      (withinLimit_slidingLog settings rule _ before)
      (log_le (later_of_inOrder orderedRefused).2) after' told denied

/-! ## A store of one key -/

theorem minute_lasting : (0 : Int) < 60 * 10 ^ 6 := by decide

/-- One request a minute. -/
def oneAMinute : RateLimitSettings where
  api := ⟨1, 60 * 10 ^ 6, Nat.one_pos, minute_lasting⟩

theorem noonDay_valid : 1 ≤ 2026 ∧ 2026 ≤ 9999 ∧ 1 ≤ 6 ∧ 6 ≤ 12 ∧
    1 ≤ 1 ∧ 1 ≤ daysInMonth 2026 6 := by decide

theorem noon_inDay : 43200 * 10 ^ 6 < dayMicroseconds := by decide

/-- Noon of 1 June 2026. -/
def noon : UtcInstant := ⟨⟨2026, 6, 1, noonDay_valid⟩, 43200 * 10 ^ 6, noon_inDay⟩

/-- A request of a key at noon. -/
def atNoon (key : String) : Request := ⟨"api".toList, key.toList, noon⟩

/-- A key twice at the same instant. -/
theorem limit_and_reset_twice :
    WithinLimit 1 (60 * 10 ^ 6) (allowedTicks "api".toList "a".toList
      (run oneAMinute (by decide : 0 < 1) [atNoon "a", atNoon "a"])) := by
  refine (limit_and_reset_of_undisturbed oneAMinute (by decide) "api".toList "a".toList
    oneAMinute.api rfl [atNoon "a", atNoon "a"] (by simp [InOrder]) ?_).1
  intro before first between second after shape _ _ _ _
  have short := congrArg List.length shape
  simp only [List.length_append, List.length_cons, List.length_nil] at short
  have empty : between = [] := List.length_eq_zero_iff.mp (by omega)
  rw [empty]
  decide

/-- Another key in a full store makes room for itself and lets the first one through again. -/
theorem eviction_forgets_the_window : ¬ ∀ (maxKeys : Nat) (positive : 0 < maxKeys)
    (settings : RateLimitSettings) (category key : Text) (rule : RateLimitRule)
    (requests : List Request), ruleFor settings category = .ok rule → InOrder requests →
    WithinLimit rule.limit rule.window
      (allowedTicks category key (run settings positive requests)) := by
  intro claim
  have within := claim 1 (by decide) oneAMinute "api".toList "a".toList oneAMinute.api
    [atNoon "a", atNoon "b", atNoon "a"] rfl (by simp [InOrder, atNoon]) noon.ticks
  have twice : (inWindow oneAMinute.api.window noon.ticks (allowedTicks "api".toList "a".toList
      (run oneAMinute (by decide : 0 < 1) [atNoon "a", atNoon "b", atNoon "a"]))).length = 2 := by
    decide
  rw [twice] at within
  exact absurd within (by decide)

end RateLimit

end CovenantRadar
