import CovenantRadar.Views.Defaults
import CovenantRadar.Views.Narrowing

/-!
# What narrowing leaves of a view

The rebuilt document keeps the name and six of the seven filters. The seventh, the default flag and
the recipients are not part of what is rebuilt, so the views that have one of them lose it.
-/

namespace CovenantRadar

namespace Views

open Queue (Portfolio QueueFilters TrimmedText)

/-! ## What a view shows -/

/-- What the repository shows of a queue view. -/
@[ext] structure ShownView where
  name : Text
  filters : QueueFilters
  sharedUserIds : List Uuid
  sharedRoleCodes : List Text
  shareAll : Bool
  isDefault : Bool
  deriving DecidableEq

/-- What a document shows, where its row is shared or not. -/
def ViewDocument.shown (document : ViewDocument) (isShared : Bool) : Option ShownView :=
  if document.kind = .queueKind then
    match QueueFilters.fromValue document.filters.mapping.entries with
    | .ok filters => some ⟨document.name.text, filters, document.sharedUserIds.ids,
        document.sharedRoleCodes.codes, document.shareAll && isShared, document.isDefault⟩
    | .error _ => none
  else none

/-- A queue view as the repository shows it. -/
def shownView (row : SavedQueueView) : Option ShownView :=
  match decodeDocument row.filterJson with
  | .ok document => document.shown row.isShared
  | .error _ => none

/-- The view without its portfolio filter. -/
def ShownView.clearPortfolio (view : ShownView) : ShownView :=
  { view with filters := { view.filters with portfolio := none } }

/-! ## Both codecs read the same -/

theorem boundedText_of_cleanText {field : String} {maximum : Nat} {text : Text}
    {clean : CleanText maximum} (read : cleanText field maximum text = .ok clean) :
    Queue.boundedText field maximum (.str text) = .ok clean.toTrimmedText := by
  unfold cleanText at read
  split_ifs at read with within printable
  cases read
  exact dif_pos within

theorem cleanValue_ok {field : String} {maximum : Nat} {value : Option Json}
    {clean : CleanText maximum} (read : cleanValue field maximum value = .ok clean) :
    ∃ text, value = some (.str text) ∧ cleanText field maximum text = .ok clean := by
  unfold cleanValue at read
  split at read
  · exact ⟨_, rfl, read⟩
  · cases read

theorem getMapping_ok {mapping inner : JsonMapping} {key : Text}
    (found : mapping.getMapping key = some inner) : mapping.get key = some (.obj inner.entries) := by
  unfold JsonMapping.getMapping at found
  split at found
  · next heq =>
    cases found
    exact heq
  · cases found

theorem queueFilters_filterInput {decoded : JsonMapping} {value : Json}
    (found : decoded.get "filters".toList = some value) :
    queueFilters (filterInput decoded) = filtersOf value := by
  unfold filterInput
  cases value with
  | obj entries =>
    obtain ⟨inner, isMapping, rfl⟩ := getMapping_eq_some found
    rw [isMapping]
    rfl
  | _ =>
    have notMapping : decoded.getMapping "filters".toList = none := by
      unfold JsonMapping.getMapping
      split
      · next heq =>
        rw [found] at heq
        cases heq
      · rfl
    rw [notMapping]
    rfl

/-- Where the names, the filters and the keys are read, the view is. -/
theorem fromDict_ok {decoded : JsonMapping} {value : Json} {text : Text}
    {name : TrimmedText maxViewName} {filters : QueueFilters}
    (known : ∀ key ∈ decoded.entries.map Prod.fst, key ∈ savedViewKeys)
    (foundName : decoded.get "name".toList = some (.str text))
    (readName : Queue.boundedText "name" maxViewName (.str text) = .ok name)
    (foundFilters : decoded.get "filters".toList = some value)
    (readFilters : filtersOf value = .ok filters) :
    SavedView.fromDict decoded.entries = .ok ⟨name, filters⟩ := by
  have nothing : ((decoded.entries.map Prod.fst).filter fun key => !savedViewKeys.contains key) =
      [] := by
    rw [List.filter_eq_nil_iff]
    intro key listed
    simp [known key listed]
  have name' : lastOf decoded.entries "name" = some (.str text) :=
    (getLast?_filter_key decoded _).trans foundName
  have filters' : lastOf decoded.entries "filters" = some value :=
    (getLast?_filter_key decoded _).trans foundFilters
  unfold SavedView.fromDict
  simp only [nothing, List.insertionSort_nil, List.head?_nil, name', filters', readFilters, readName]
  rfl

theorem known_of_hasKeys {decoded : JsonMapping} {keys : List Text}
    (has : decoded.hasKeys keys = true) :
    (∀ key ∈ decoded.entries.map Prod.fst, key ∈ keys) ∧
      ∀ key ∈ keys, ∃ value, decoded.get key = some value := by
  rw [JsonMapping.hasKeys_eq, Bool.and_eq_true, List.all_eq_true, List.all_eq_true] at has
  refine ⟨fun key listed => List.contains_iff_mem.mp (has.1 key listed), fun key listed => ?_⟩
  obtain ⟨⟨key', value⟩, inside, rfl⟩ := List.mem_map.mp (List.contains_iff_mem.mp (has.2 key listed))
  exact ⟨value, JsonMapping.get_eq_some_iff.mpr inside⟩

theorem ofText_ok {text : Text} {decoded : JsonMapping}
    (read : JsonMapping.ofText text = .ok decoded) :
    Json.loads text = some (.obj decoded.entries) := by
  unfold JsonMapping.ofText at read
  split at read
  · next heq =>
    split_ifs at read
    cases read
    exact heq
  · cases read
  · cases read

/-- A queue view the repository reads is read by the other codec as well, with the same name and
    filters. -/
theorem fromDict_of_decode {decoded : JsonMapping} {document : ViewDocument} {isShared : Bool}
    {view : ShownView} (read : decodeMapping decoded = .ok document)
    (shown : document.shown isShared = some view) :
    ∃ name : CleanText maxViewName, name.text = view.name ∧
      SavedView.fromDict decoded.entries = .ok ⟨name.toTrimmedText, view.filters⟩ := by
  unfold ViewDocument.shown at shown
  split_ifs at shown with isQueue
  split at shown
  case h_2 => cases shown
  next filters readFilters =>
  cases shown
  refine ⟨document.name, rfl, ?_⟩
  unfold decodeMapping at read
  split_ifs at read with legacy current
  · obtain ⟨known, _⟩ := known_of_hasKeys legacy
    unfold decodeLegacy at read
    obtain ⟨name, readName, read⟩ := Except.bind_eq_ok_iff.mp read
    obtain ⟨text, foundName, clean⟩ := cleanValue_ok (Except.mapError_eq_ok_iff.mp readName)
    split at read
    · cases read
    next inner foundFilters =>
    split at read
    · cases read
    next readInner =>
    cases read
    refine fromDict_ok (fun key listed => ?_) foundName (boundedText_of_cleanText clean)
      (getMapping_ok foundFilters) readFilters
    have table : ∀ key ∈ legacyKeys, key ∈ savedViewKeys := by decide
    exact table key (known key listed)
  · rw [Bool.and_eq_true] at current
    obtain ⟨known, present⟩ := known_of_hasKeys current.1
    obtain ⟨value, foundFilters⟩ := present "filters".toList (by decide)
    have read := Except.mapError_eq_ok_iff.mp read
    unfold decodeCurrent at read
    obtain ⟨name, readName, read⟩ := Except.bind_eq_ok_iff.mp read
    obtain ⟨kind, _, read⟩ := Except.bind_eq_ok_iff.mp read
    obtain ⟨accepted, normalised, read⟩ := Except.bind_eq_ok_iff.mp read
    obtain ⟨users, _, read⟩ := Except.bind_eq_ok_iff.mp read
    obtain ⟨roles, _, read⟩ := Except.bind_eq_ok_iff.mp read
    obtain ⟨shareAll, _, read⟩ := Except.bind_eq_ok_iff.mp read
    obtain ⟨isDefault, _, read⟩ := Except.bind_eq_ok_iff.mp read
    cases read
    obtain ⟨text, foundName, clean⟩ := cleanValue_ok readName
    have isQueue : kind = .queueKind := isQueue
    subst isQueue
    have same : filtersOf value = .ok filters := by
      have normalised : normaliseQueue (filterInput decoded) = .ok accepted := normalised
      unfold normaliseQueue at normalised
      rw [queueFilters_filterInput foundFilters] at normalised
      split at normalised
      · next read' heq =>
        cases normalised
        rw [heq]
        have again := Queue.fromValue_toDict read'
        exact congrArg Except.ok (Except.ok.inj (again.symm.trans readFilters))
      · cases normalised
    refine fromDict_ok (fun key listed => ?_) foundName (boundedText_of_cleanText clean)
      foundFilters same
    have table : ∀ key ∈ documentKeys, key ∈ savedViewKeys := by decide
    exact table key (known key listed)

theorem fromJson_of_shown {row : SavedQueueView} {view : ShownView}
    (shown : shownView row = some view) :
    ∃ name : CleanText maxViewName, name.text = view.name ∧
      SavedView.fromJson row.filterJson = .ok ⟨name.toTrimmedText, view.filters⟩ := by
  unfold shownView at shown
  split at shown
  case h_2 => cases shown
  next document decoded =>
  unfold decodeDocument at decoded
  split_ifs at decoded
  obtain ⟨mapping, read, decoded⟩ := Except.bind_eq_ok_iff.mp decoded
  obtain ⟨name, same, read'⟩ := fromDict_of_decode decoded shown
  refine ⟨name, same, ?_⟩
  unfold SavedView.fromJson
  rw [ofText_ok (Except.mapError_eq_ok_iff.mp read)]
  exact read'

/-! ## The rebuilt document -/

theorem readsBack_savedView (view : SavedView) : Json.ReadsBack (.obj view.entries) :=
  ⟨trivial, readsBack_toDict view.filters, trivial⟩

theorem distinctKeys_savedView (view : SavedView) :
    Json.distinctKeys (.obj view.entries) = true := by
  have keys : view.entries.map Prod.fst = legacyKeys := rfl
  rw [Json.distinctKeys, Bool.and_eq_true, decide_eq_true_eq, Json.distinctKeysEntries_iff, keys]
  refine ⟨by decide, fun entry listed => ?_⟩
  simp only [SavedView.entries, List.mem_cons, List.not_mem_nil, or_false] at listed
  rcases listed with rfl | rfl
  · rfl
  · exact distinctKeys_toDict view.filters

/-- A saved view as a mapping. -/
def SavedView.mapping (view : SavedView) : JsonMapping :=
  ⟨view.entries, readsBack_savedView view, distinctKeys_savedView view⟩

/-! ## A saved view and its document -/

theorem get_mapping_sortKeys (view : SavedView) :
    view.mapping.sortKeys.get "name".toList = some (.str view.name.text) ∧
      view.mapping.sortKeys.get "filters".toList =
        some (.obj (dictOf view.filters).sortKeys.entries) :=
  ⟨JsonMapping.get_sortKeys view.mapping "name".toList,
    JsonMapping.get_sortKeys view.mapping "filters".toList⟩

theorem fromJson_toJson (view : SavedView) : SavedView.fromJson view.toJson = .ok view := by
  obtain ⟨foundName, foundFilters⟩ := get_mapping_sortKeys view
  have known : ∀ key ∈ view.mapping.sortKeys.entries.map Prod.fst, key ∈ savedViewKeys := by
    intro key listed
    have listed' : key ∈ legacyKeys := view.mapping.perm_keys_sortKeys.mem_iff.mp listed
    have table : ∀ key ∈ legacyKeys, key ∈ savedViewKeys := by decide
    exact table key listed'
  have filters : filtersOf (.obj (dictOf view.filters).sortKeys.entries) = .ok view.filters := by
    show QueueFilters.fromValue (dictOf view.filters).sortKeys.entries = .ok view.filters
    rw [fromValue_sortKeys]
    exact Queue.fromValue_toDict view.filters
  have read : Json.loads view.toJson = some (.obj view.mapping.sortKeys.entries) :=
    Json.loads_dumps (Json.readsBack_sortKeys view.mapping.readsBack)
  unfold SavedView.fromJson
  rw [read]
  exact fromDict_ok known foundName (Queue.boundedText_str "name" view.name) foundFilters filters

/-- A saved view is read back from its document, and so is what is read from any document the codec
    accepts. -/
theorem savedView_roundTrip :
    (∀ view : SavedView, SavedView.fromJson view.toJson = .ok view) ∧
      ∀ text view, SavedView.fromJson text = .ok view →
        SavedView.fromJson view.toJson = SavedView.fromJson text := by
  refine ⟨fromJson_toJson, fun text view accepted => ?_⟩
  rw [accepted]
  exact fromJson_toJson view

theorem length_escapeChar_le (c : Char) : (Json.escapeChar c).length ≤ 6 := by
  unfold Json.escapeChar
  split_ifs <;> simp

theorem length_quote_le (text : Text) : (Json.quote text).length ≤ 6 * text.length + 2 := by
  have escaped : (text.flatMap Json.escapeChar).length ≤ 6 * text.length := by
    induction text with
    | nil => rfl
    | cons c text ih =>
      have one := length_escapeChar_le c
      rw [List.flatMap_cons, List.length_append, List.length_cons]
      omega
  unfold Json.quote
  rw [List.length_cons, List.length_append]
  simp only [List.length_singleton]
  omega

theorem length_textOrNull_le {text : Option Text} (short : ∀ t ∈ text, t.length ≤ 200) :
    (Json.render (QueueFilters.textOrNull text)).length ≤ 1202 := by
  cases text with
  | none => decide
  | some t =>
    have quoted := length_quote_le t
    have bound := short t rfl
    show (Json.quote t).length ≤ 1202
    omega

theorem length_filter_le {α : Type} {value : Option α} {write : α → Text}
    (short : ∀ a, (write a).length ≤ 200) : ∀ t ∈ value.map write, t.length ≤ 200 := by
  intro t written
  obtain ⟨a, _, rfl⟩ := Option.mem_map.mp written
  exact short a

theorem length_band_le (band : Triage.Band) : band.text.length ≤ 200 := by
  cases band <;> decide

theorem length_sma_le (band : Sma.SmaBand) : band.value.length ≤ 200 := by
  cases band <;> decide

theorem length_case_le (filter : Queue.CaseFilter) : filter.value.length ≤ 200 := by
  cases filter with
  | state known => cases known <;> decide
  | none => decide

theorem length_family_le (family : Taxonomy.SignalFamily) : family.value.length ≤ 200 := by
  cases family <;> decide

theorem length_portfolio_le (portfolio : Queue.PortfolioValue) : portfolio.str.length ≤ 200 := by
  cases portfolio with
  | uuid id =>
    have exact := Queue.length_str id
    show id.str.length ≤ 200
    omega
  | text written _ => exact written.bounded

theorem sortKeys_textOrNull (text : Option Text) :
    (QueueFilters.textOrNull text).sortKeys = QueueFilters.textOrNull text := by
  cases text <;> rfl

/-- A saved view is far below the size the repository takes. -/
theorem size_toJson_le (view : SavedView) : view.toJson.encode.size ≤ maxViewFilterBytes := by
  have sorted : (Json.obj view.entries).sortKeys = .obj
      [("filters".toList, .obj [
        ("assignee".toList, QueueFilters.textOrNull (view.filters.assignee.map Uuid.str)),
        ("band".toList, QueueFilters.textOrNull (view.filters.band.map Triage.Band.text)),
        ("case_state".toList,
          QueueFilters.textOrNull (view.filters.caseState.map Queue.CaseFilter.value)),
        ("industry".toList, QueueFilters.textOrNull (view.filters.industry.map TrimmedText.text)),
        ("portfolio".toList,
          QueueFilters.textOrNull (view.filters.portfolio.map Queue.PortfolioValue.str)),
        ("signal_family".toList,
          QueueFilters.textOrNull (view.filters.signalFamily.map Taxonomy.SignalFamily.value)),
        ("sma_band".toList, QueueFilters.textOrNull (view.filters.smaBand.map Sma.SmaBand.value))]),
      ("name".toList, .str view.name.text)] := by
    simp only [SavedView.entries, QueueFilters.toDict, Json.sortKeys, Json.sortKeysEntries,
      sortKeys_textOrNull]
    rfl
  have assignee := @length_textOrNull_le (view.filters.assignee.map Uuid.str)
    (length_filter_le fun id => (Queue.length_str id).le.trans (by decide))
  have band := @length_textOrNull_le (view.filters.band.map Triage.Band.text)
    (length_filter_le length_band_le)
  have caseState := @length_textOrNull_le (view.filters.caseState.map Queue.CaseFilter.value)
    (length_filter_le length_case_le)
  have industry := @length_textOrNull_le (view.filters.industry.map TrimmedText.text)
    (length_filter_le fun text => text.bounded)
  have portfolio := @length_textOrNull_le (view.filters.portfolio.map Queue.PortfolioValue.str)
    (length_filter_le length_portfolio_le)
  have family := @length_textOrNull_le
    (view.filters.signalFamily.map Taxonomy.SignalFamily.value) (length_filter_le length_family_le)
  have sma := @length_textOrNull_le (view.filters.smaBand.map Sma.SmaBand.value)
    (length_filter_le length_sma_le)
  have name := length_quote_le view.name.text
  have short : view.name.text.length ≤ 100 := view.name.bounded
  have key (k : String) (bound : k.toList.length ≤ 20) : (Json.quote k.toList).length ≤ 122 := by
    have quoted := length_quote_le k.toList
    omega
  have k1 := key "filters" (by decide)
  have k2 := key "assignee" (by decide)
  have k3 := key "band" (by decide)
  have k4 := key "case_state" (by decide)
  have k5 := key "industry" (by decide)
  have k6 := key "portfolio" (by decide)
  have k7 := key "signal_family" (by decide)
  have k8 := key "sma_band" (by decide)
  have k9 := key "name" (by decide)
  refine (Text.size_encode_le _).trans ?_
  unfold SavedView.toJson Json.dumps maxViewFilterBytes
  rw [sorted]
  simp only [Json.render, Json.renderEntries, List.length_cons, List.length_append, List.length_nil]
  omega

/-- The rebuilt document is one of the older ones. -/
theorem decodeDocument_toJson {view : SavedView} {name : CleanText maxViewName}
    (named : name.toTrimmedText = view.name) (isShared : Bool) :
    ∃ document, decodeDocument view.toJson = .ok document ∧
      document.shown isShared = some ⟨name.text, view.filters, [], [], isShared, false⟩ := by
  obtain ⟨foundName, foundFilters⟩ := get_mapping_sortKeys view
  rw [← named] at foundName
  have keys : view.mapping.sortKeys.hasKeys legacyKeys = true := by
    rw [JsonMapping.hasKeys_sortKeys, JsonMapping.hasKeys_eq]
    have keys : view.mapping.entries.map Prod.fst = legacyKeys := rfl
    rw [keys]
    decide
  obtain ⟨inner, isMapping, sameEntries⟩ := getMapping_eq_some foundFilters
  have read : QueueFilters.fromValue inner.entries = .ok view.filters := by
    rw [sameEntries, fromValue_sortKeys]
    exact Queue.fromValue_toDict view.filters
  refine ⟨⟨name, .queueKind, ⟨inner, .queue _ read⟩, .none, .none, true, false⟩, ?_, ?_⟩
  · have decoded : JsonMapping.ofText view.toJson = .ok view.mapping.sortKeys :=
      JsonMapping.ofText_dumps view.mapping
    have next : decodeMapping view.mapping.sortKeys = decodeLegacy view.mapping.sortKeys := if_pos keys
    unfold decodeDocument
    rw [if_neg (Nat.not_lt.mpr (size_toJson_le view)), decoded]
    show decodeMapping view.mapping.sortKeys = _
    rw [next]
    unfold decodeLegacy
    rw [foundName, isMapping]
    simp only [cleanValue, cleanText_text]
    refine Except.bind_eq_ok_iff.mpr ⟨name, rfl, ?_⟩
    split
    · next heq =>
      rw [read] at heq
      cases heq
    · rfl
  · unfold ViewDocument.shown
    rw [if_pos rfl]
    simp only [read]
    rfl

/-- What narrowing does to a view the repository shows. -/
theorem narrowRow_shown {portfolios : List Portfolio} {scopes : PortfolioScope} {now : UtcInstant}
    {row : SavedQueueView} {view : ShownView} (shown : shownView row = some view) :
    (outOfScope portfolios scopes view.filters = false ∧ narrowRow portfolios scopes now row = row) ∨
      (outOfScope portfolios scopes view.filters = true ∧
        ∃ json, narrowRow portfolios scopes now row =
            { row with filterJson := json, updatedAt := now, version := row.version + 1 } ∧
          shownView (narrowRow portfolios scopes now row) =
            some ⟨view.name, rebuilt view.filters, [], [], row.isShared, false⟩) := by
  obtain ⟨name, named, read⟩ := fromJson_of_shown shown
  have narrowed : narrowRow portfolios scopes now row =
      if outOfScope portfolios scopes view.filters then
        { row with
          filterJson := SavedView.toJson ⟨name.toTrimmedText, rebuilt view.filters⟩
          updatedAt := now
          version := row.version + 1 }
      else row := by
    unfold narrowRow
    rw [read]
  cases outside : outOfScope portfolios scopes view.filters with
  | false =>
    refine Or.inl ⟨rfl, ?_⟩
    rw [narrowed, outside]
    rfl
  | true =>
    rw [outside, if_pos rfl] at narrowed
    refine Or.inr ⟨rfl, _, narrowed, ?_⟩
    obtain ⟨document, decoded, shown'⟩ := @decodeDocument_toJson
      ⟨name.toTrimmedText, rebuilt view.filters⟩ name rfl row.isShared
    rw [narrowed]
    unfold shownView
    rw [decoded, ← named]
    exact shown'

/-! ## The frame -/

/-- Whether a view's portfolio filter lies outside a scope. -/
def filtersOutside (portfolios : List Portfolio) (scopes : PortfolioScope)
    (row : SavedQueueView) : Prop :=
  ∃ view, shownView row = some view ∧ outOfScope portfolios scopes view.filters = true

/-- What narrowing should do to a view: drop the portfolio filter from an owned view whose filter
    lies outside the scope, and leave every other view alone. -/
def NarrowedRow (portfolios : List Portfolio) (scopes : PortfolioScope) (userId : Uuid)
    (row row' : SavedQueueView) : Prop :=
  (row.ownerId = userId ∧ filtersOutside portfolios scopes row →
      (row'.id = row.id ∧ row'.ownerId = row.ownerId ∧ row'.name = row.name ∧
        row'.isShared = row.isShared ∧ row'.description = row.description ∧
        row'.createdAt = row.createdAt) ∧
      shownView row' = (shownView row).map ShownView.clearPortfolio) ∧
    (¬ (row.ownerId = userId ∧ filtersOutside portfolios scopes row) → row' = row)

/-- Exactly the owned views outside the scope lose their portfolio filter, nothing else changes in
    any view, and no owned view filters on a portfolio outside the scope any more. -/
def NarrowedExactly (portfolios : List Portfolio) (scopes : PortfolioScope) (userId : Uuid)
    (views views' : KeyedTable SavedQueueView.id) : Prop :=
  List.Forall₂ (NarrowedRow portfolios scopes userId) views.rows views'.rows ∧
    ∀ row ∈ views'.rows, row.ownerId = userId → ¬ filtersOutside portfolios scopes row

/-- A view that has nothing the rebuilt document leaves out. -/
structure ShownView.Rebuildable (view : ShownView) (isShared : Bool) : Prop where
  family : view.filters.signalFamily = none
  notDefault : view.isDefault = false
  users : view.sharedUserIds = []
  roles : view.sharedRoleCodes = []
  shareAll : view.shareAll = isShared

theorem rebuildable_iff {view : ShownView} {isShared : Bool} :
    view.Rebuildable isShared ↔
      (⟨view.name, rebuilt view.filters, [], [], isShared, false⟩ : ShownView) =
        view.clearPortfolio := by
  obtain ⟨name, ⟨band, portfolio, industry, assignee, sma, caseState, family⟩, users, roles,
    shareAll, isDefault⟩ := view
  simp only [rebuilt, ShownView.clearPortfolio, ShownView.mk.injEq, QueueFilters.mk.injEq, true_and]
  constructor
  · rintro ⟨rfl, rfl, rfl, rfl, rfl⟩
    simp
  · rintro ⟨rfl, rfl, rfl, rfl, rfl⟩
    exact ⟨rfl, rfl, rfl, rfl, rfl⟩

theorem not_outside_rebuilt {portfolios : List Portfolio} {scopes : PortfolioScope}
    (filters : QueueFilters) : outOfScope portfolios scopes (rebuilt filters) = false := rfl

/-- Narrowing does to one view what it should exactly when the view can be rebuilt. -/
theorem narrowedRow_iff {portfolios : List Portfolio} {scopes : PortfolioScope} {userId : Uuid}
    {now : UtcInstant} {row : SavedQueueView}
    (queueView : row.ownerId = userId → ∃ view, shownView row = some view) :
    NarrowedRow portfolios scopes userId row (narrowOwned portfolios scopes userId now row) ↔
      (row.ownerId = userId → ∀ view, shownView row = some view →
        outOfScope portfolios scopes view.filters = true → view.Rebuildable row.isShared) := by
  by_cases owned : row.ownerId = userId
  · obtain ⟨view, shown⟩ := queueView owned
    have narrowed : narrowOwned portfolios scopes userId now row = narrowRow portfolios scopes now row :=
      if_pos owned
    rw [narrowed]
    rcases @narrowRow_shown portfolios scopes now _ _ shown with ⟨inside, same⟩ | ⟨outside, json, same, shown'⟩
    · rw [same]
      have notOutside : ¬ filtersOutside portfolios scopes row := by
        rintro ⟨view', shown', outside⟩
        cases shown.symm.trans shown'
        rw [inside] at outside
        cases outside
      refine ⟨fun _ _ view' shown' outside => ?_, fun _ => ⟨fun both => ?_, fun _ => rfl⟩⟩
      · exact absurd ⟨view', shown', outside⟩ notOutside
      · exact absurd both.2 notOutside
    · have isOutside : row.ownerId = userId ∧ filtersOutside portfolios scopes row :=
        ⟨owned, view, shown, outside⟩
      constructor
      · rintro ⟨cleared, _⟩ _ view' shown'' _
        cases shown.symm.trans shown''
        rw [rebuildable_iff]
        have clears := (cleared isOutside).2
        rw [shown', shown, Option.map_some] at clears
        exact Option.some.inj clears
      · intro rebuildable
        refine ⟨fun _ => ⟨?_, ?_⟩, fun notBoth => absurd isOutside notBoth⟩
        · rw [same]
          exact ⟨rfl, rfl, rfl, rfl, rfl, rfl⟩
        · rw [shown', shown, Option.map_some]
          exact congrArg some (rebuildable_iff.mp (rebuildable owned view shown outside))
  · have narrowed : narrowOwned portfolios scopes userId now row = row := if_neg owned
    rw [narrowed]
    exact ⟨fun _ mine => absurd mine owned, fun _ => ⟨fun both => absurd both.1 owned, fun _ => rfl⟩⟩

theorem ownerId_narrowOwned (portfolios : List Portfolio) (scopes : PortfolioScope) (userId : Uuid)
    (now : UtcInstant) (row : SavedQueueView) :
    (narrowOwned portfolios scopes userId now row).ownerId = row.ownerId := by
  unfold narrowOwned narrowRow
  split_ifs
  · split
    · rfl
    · split_ifs <;> rfl
  · rfl

/-- Narrowing the queue views of a user clears exactly the portfolio filters outside the scope, and
    changes nothing else, exactly when each of the views that have such a filter can be rebuilt. -/
theorem narrowed_exactly_iff {portfolios : List Portfolio} {scopes : PortfolioScope} {userId : Uuid}
    {now : UtcInstant} {views : KeyedTable SavedQueueView.id}
    (queueViews : ∀ row ∈ views.rows, row.ownerId = userId → ∃ view, shownView row = some view) :
    NarrowedExactly portfolios scopes userId views
        (narrowSavedViews portfolios scopes userId now views) ↔
      ∀ row ∈ views.rows, row.ownerId = userId → ∀ view, shownView row = some view →
        outOfScope portfolios scopes view.filters = true → view.Rebuildable row.isShared := by
  have rows : (narrowSavedViews portfolios scopes userId now views).rows =
      views.rows.map (narrowOwned portfolios scopes userId now) := rfl
  have inside : ∀ row ∈ (narrowSavedViews portfolios scopes userId now views).rows,
      row.ownerId = userId → ¬ filtersOutside portfolios scopes row := by
    intro row' listed owned
    rw [rows] at listed
    obtain ⟨row, inViews, rfl⟩ := List.mem_map.mp listed
    rw [ownerId_narrowOwned] at owned
    obtain ⟨view, shown⟩ := queueViews row inViews owned
    have narrowed : narrowOwned portfolios scopes userId now row = narrowRow portfolios scopes now row :=
      if_pos owned
    rw [narrowed]
    rintro ⟨view', shown', outside'⟩
    rcases @narrowRow_shown portfolios scopes now _ _ shown with ⟨inside, same⟩ | ⟨_, json, _, rebuilt'⟩
    · rw [same, shown] at shown'
      cases shown'
      rw [inside] at outside'
      cases outside'
    · rw [rebuilt'] at shown'
      cases shown'
      rw [not_outside_rebuilt] at outside'
      cases outside'
  unfold NarrowedExactly
  rw [rows, List.forall₂_map_right_iff, List.forall₂_same, ← rows]
  constructor
  · rintro ⟨narrowed, _⟩ row listed
    exact (narrowedRow_iff (queueViews row listed)).mp (narrowed row listed)
  · intro rebuildable
    exact ⟨fun row listed => (narrowedRow_iff (queueViews row listed)).mpr (rebuildable row listed),
      inside⟩

/-! ## A view with a signal family -/

/-- The table after a user has saved one queue view on a portfolio. -/
def savedOn (family : Option Taxonomy.SignalFamily) : KeyedTable SavedQueueView.id :=
  (run twoUsers [.create { plainDefault 11 1 with
    isDefault := false
    filters := .filters { QueueFilters.none with
      portfolio := some (.uuid (Uuid.ofInt 9))
      signalFamily := family } }]).views

/-- A table in which an owned view loses more than its portfolio filter is not narrowed exactly. -/
theorem not_narrowedExactly_of_any {views : KeyedTable SavedQueueView.id}
    (lost : (views.rows.any fun row => decide (row.ownerId = Uuid.ofInt 1) &&
      (shownView row).any (fun view => outOfScope [] [] view.filters) &&
      decide (shownView (narrowOwned [] [] (Uuid.ofInt 1) firstOfJune row) ≠
        (shownView row).map ShownView.clearPortfolio)) = true) :
    ¬ NarrowedExactly [] [] (Uuid.ofInt 1) views
      (narrowSavedViews [] [] (Uuid.ofInt 1) firstOfJune views) := by
  rintro ⟨exactly, _⟩
  obtain ⟨row, listed, lost⟩ := List.any_eq_true.mp lost
  simp only [Bool.and_eq_true, decide_eq_true_eq, Option.any_eq_true] at lost
  obtain ⟨⟨owned, view, shown, outside⟩, differs⟩ := lost
  have rows : (narrowSavedViews [] [] (Uuid.ofInt 1) firstOfJune views).rows =
      views.rows.map (narrowOwned [] [] (Uuid.ofInt 1) firstOfJune) := rfl
  rw [rows, List.forall₂_map_right_iff, List.forall₂_same] at exactly
  exact differs ((exactly row listed).1 ⟨owned, view, shown, outside⟩).2

theorem shown_of_all {views : KeyedTable SavedQueueView.id} {userId : Uuid}
    (shown : (views.rows.all fun row => (shownView row).isSome) = true) :
    ∀ row ∈ views.rows, row.ownerId = userId → ∃ view, shownView row = some view := by
  intro row listed _
  exact Option.isSome_iff_exists.mp (List.all_eq_true.mp shown row listed)

theorem rebuildable_of_all {views : KeyedTable SavedQueueView.id} {userId : Uuid}
    (rebuildable : (views.rows.all fun row => (shownView row).all fun view =>
      decide ((⟨view.name, rebuilt view.filters, [], [], row.isShared, false⟩ : ShownView) =
        view.clearPortfolio)) = true) :
    ∀ row ∈ views.rows, row.ownerId = userId → ∀ view, shownView row = some view →
      outOfScope [] [] view.filters = true → view.Rebuildable row.isShared := by
  intro row listed _ view shown _
  have all := List.all_eq_true.mp rebuildable row listed
  rw [shown, Option.all_some, decide_eq_true_eq] at all
  exact rebuildable_iff.mpr all

theorem savedOn_family :
    ((savedOn (some .payment)).rows.all fun row => (shownView row).isSome) = true ∧
      ((savedOn (some .payment)).rows.any fun row => decide (row.ownerId = Uuid.ofInt 1) &&
        (shownView row).any (fun view => outOfScope [] [] view.filters) &&
        decide (shownView (narrowOwned [] [] (Uuid.ofInt 1) firstOfJune row) ≠
          (shownView row).map ShownView.clearPortfolio)) = true := by
  decide +kernel

/-- Narrowing a view on a portfolio and a signal family loses the family. -/
theorem narrowing_loses_family :
    ¬ ∀ (portfolios : List Portfolio) (scopes : PortfolioScope) (userId : Uuid) (now : UtcInstant)
        (views : KeyedTable SavedQueueView.id),
      (∀ row ∈ views.rows, row.ownerId = userId → ∃ view, shownView row = some view) →
        NarrowedExactly portfolios scopes userId views
          (narrowSavedViews portfolios scopes userId now views) := by
  intro claimed
  exact not_narrowedExactly_of_any savedOn_family.2
    (claimed [] [] (Uuid.ofInt 1) firstOfJune _ (shown_of_all savedOn_family.1))

theorem savedOn_portfolio :
    ((savedOn none).rows.all fun row => (shownView row).isSome) = true ∧
      ((savedOn none).rows.all fun row => (shownView row).all fun view =>
        decide ((⟨view.name, rebuilt view.filters, [], [], row.isShared, false⟩ : ShownView) =
          view.clearPortfolio)) = true := by
  decide +kernel

/-- A private view on a portfolio alone loses that filter and nothing else. -/
theorem narrowed_exactly_savedOn :
    NarrowedExactly [] [] (Uuid.ofInt 1) (savedOn none)
      (narrowSavedViews [] [] (Uuid.ofInt 1) firstOfJune (savedOn none)) :=
  (narrowed_exactly_iff (shown_of_all savedOn_portfolio.1)).mpr
    (rebuildable_of_all savedOn_portfolio.2)

end Views

end CovenantRadar
