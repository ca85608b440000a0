import Registrar.Proofs.Answer.Failures
import Registrar.Proofs.Answer.Visibility
import Registrar.Proofs.Query.WellFormed
import Registrar.Proofs.Service.Sharing
import Registrar.Service.Engine

/-
  This file proves what an engine answers to a document, after
  whatever has been done to its catalog.

  A document can be wrong, name no registered data set, or not
  suit the kind of the data set; a rule can meet what is not a
  number; and there can be too many rows.  The first of these
  decides, and otherwise all rows are the answer.

  Key definitions include:
    * `Query.Suits`
    * `Engine.Outcome`
    * `Engine.AnswersQuery`
    * `Engine.AnswersDocument`

  Main statements:
    * `Engine.outcome_of_answer`
    * `Engine.Outcome.answersQuery`
    * `Engine.answersDocument_of_reflects`
    * `Engine.answerJson_eq_of_get?_eq`
    * `Registry.run_answersDocument`
-/

------------------------------------------------------------
-- Answers From One Data Set
------------------------------------------------------------

namespace Registrar

variable {retry : Decimal.Conversion}

namespace Query

/- All keys of a query are fields of a kind. -/
def Suits
    (query : Query)
    (kind : Kind) : Prop :=
  ∀ key ∈ query.keys, key.field.kind = kind

/- A query does not suit a kind because of one of its keys. -/
theorem exists_wrongKind_of_checkKind
    {query : Query}
    {kind : Kind}
    {failure : Failure}
    (h : query.checkKind kind = .error failure) :
    ∃ key ∈ query.keys, key.field.kind ≠ kind ∧
      failure = .wrongKind key kind := by
  unfold checkKind at h
  split at h
  · next key hFound =>
      exact ⟨key, List.mem_of_find?_eq_some hFound,
        by simpa using List.find?_some hFound,
        (Except.error.inj h).symm⟩
  · cases h

/- The rows of a query are its answer, in some order. -/
theorem exists_answer_of_unordered
    (collate : TextOrder)
    {query : Query}
    {records : List Record}
    {found : List Row}
    (h : query.unordered retry records = .ok found) :
    ∃ rows, query.answerBy collate retry records = .ok rows ∧
      rows.Perm found :=
  ⟨_, answerBy_eq_ok_iff.mpr ⟨found, h, rfl⟩,
    arrangeBy_perm _ query found⟩

end Query

namespace Engine

variable
  {collate : TextOrder} {dataSet : DataSet}
  {settings : Settings} {query : Query}
  {outcome : Except Failure (List Row)}

/-
  How it ends when a query is put to a data set: the kind does
  not suit, the records fail the query, there are too many rows,
  or the rows are the answer.
-/
inductive Outcome
    (collate : TextOrder)
    (retry : Decimal.Conversion)
    (dataSet : DataSet)
    (settings : Settings)
    (query : Query) : Except Failure (List Row) → Prop
| wrongKind
    {key : Key}
    (hMem : key ∈ query.keys)
    (hOther : key.field.kind ≠ dataSet.kind) :
    Outcome collate retry dataSet settings query
      (.error (.wrongKind key dataSet.kind))
| notNumeric
    {aggregate : Aggregate}
    {key : Key}
    {found : NotNumeric}
    (hSuits : query.Suits dataSet.kind)
    (hAnswer : query.answerBy collate retry dataSet.records =
      .error (.notNumeric aggregate key found)) :
    Outcome collate retry dataSet settings query
      (.error (.notNumeric aggregate key found))
| tooLarge
    {rows : List Row}
    (hSuits : query.Suits dataSet.kind)
    (hAnswer :
      query.answerBy collate retry dataSet.records = .ok rows)
    (hMore : settings.maxRows < rows.length) :
    Outcome collate retry dataSet settings query
      (.error (.resultTooLarge rows.length settings.maxRows))
| rows
    {rows : List Row}
    (hSuits : query.Suits dataSet.kind)
    (hAnswer :
      query.answerBy collate retry dataSet.records = .ok rows)
    (hFew : rows.length ≤ settings.maxRows) :
    Outcome collate retry dataSet settings query (.ok rows)

/- It always ends in one of these ways. -/
theorem outcome_of_answer
    (collate : TextOrder)
    (retry : Decimal.Conversion)
    (dataSet : DataSet)
    (settings : Settings)
    (query : Query) :
    Outcome collate retry dataSet settings query
      (dataSet.answerBy collate retry query >>=
        settings.limitRows) := by
  unfold DataSet.answerBy
  cases hKind : query.checkKind dataSet.kind with
  | error failure =>
      rcases Query.exists_wrongKind_of_checkKind hKind with
        ⟨key, hMem, hOther, rfl⟩
      exact .wrongKind hMem hOther
  | ok _ =>
      have hSuits : query.Suits dataSet.kind :=
        Query.checkKind_eq_ok_iff.mp hKind
      rw [ok_bind]
      cases hAnswer :
          query.answerBy collate retry dataSet.records with
      | error failure =>
          rcases Query.exists_notNumeric_of_answerBy hAnswer with
            ⟨_, -, _, -, _, rfl⟩
          exact .notNumeric hSuits hAnswer
      | ok rows =>
          rw [ok_bind]
          unfold Settings.limitRows
          split
          · next hMore => exact .tooLarge hSuits hAnswer hMore
          · next hNot =>
              exact .rows hSuits hAnswer (Nat.not_lt.mp hNot)

/-
  What is answered to a query on a data set.  Whether the query
  suits the kind depends neither on the records nor on how many
  rows are allowed.
-/
structure AnswersQuery
    (collate : TextOrder)
    (retry : Decimal.Conversion)
    (dataSet : DataSet)
    (settings : Settings)
    (query : Query)
    (outcome : Except Failure (List Row)) : Prop where
  wrongKind_iff :
    (∃ key kind, outcome = .error (.wrongKind key kind)) ↔
      ∃ key ∈ query.keys, key.field.kind ≠ dataSet.kind
  wrongKind_names : ∀ key kind,
    outcome = .error (.wrongKind key kind) →
      key ∈ query.keys ∧ kind = dataSet.kind ∧
        key.field.kind ≠ kind
  fails : query.Suits dataSet.kind → ∀ failure,
    query.answerBy collate retry dataSet.records = .error failure →
      outcome = .error failure ∧
        ∃ aggregate key found,
          failure = .notNumeric aggregate key found
  tooLarge_iff : query.Suits dataSet.kind → ∀ found,
    query.unordered retry dataSet.records = .ok found →
      (outcome =
          .error (.resultTooLarge found.length settings.maxRows) ↔
        settings.maxRows < found.length)
  succeeds : query.Suits dataSet.kind → ∀ found,
    query.unordered retry dataSet.records = .ok found →
      found.length ≤ settings.maxRows →
        ∃ rows,
          query.answerBy collate retry dataSet.records = .ok rows ∧
          rows.Perm found ∧ outcome = .ok rows

/- A key of another kind ends a query before its records. -/
private theorem Outcome.exists_wrongKind_iff
    (h : Outcome collate retry dataSet settings query outcome) :
    (∃ key kind, outcome = .error (.wrongKind key kind)) ↔
      ∃ key ∈ query.keys, key.field.kind ≠ dataSet.kind := by
  have hSuits : query.Suits dataSet.kind →
      ¬ ∃ key ∈ query.keys, key.field.kind ≠ dataSet.kind := by
    rintro hAll ⟨key, hMem, hOther⟩
    exact hOther (hAll key hMem)
  cases h with
  | @wrongKind key hMem hOther =>
      exact iff_of_true ⟨key, _, rfl⟩ ⟨key, hMem, hOther⟩
  | notNumeric hAll _ => exact iff_of_false (by simp) (hSuits hAll)
  | tooLarge hAll _ _ => exact iff_of_false (by simp) (hSuits hAll)
  | rows hAll _ _ => exact iff_of_false (by simp) (hSuits hAll)

/- Rows that have been found end a query by their number. -/
private theorem Outcome.eq_limitRows
    {rows : List Row}
    (h : Outcome collate retry dataSet settings query outcome)
    (hSuits : query.Suits dataSet.kind)
    (hRows :
      query.answerBy collate retry dataSet.records = .ok rows) :
    outcome = settings.limitRows rows := by
  unfold Settings.limitRows
  cases h with
  | wrongKind hMem hOther => exact absurd (hSuits _ hMem) hOther
  | notNumeric _ hAnswer =>
      rw [hRows] at hAnswer
      cases hAnswer
  | tooLarge _ hAnswer hMore =>
      obtain rfl := Except.ok.inj (hAnswer.symm.trans hRows)
      rw [if_pos hMore]
  | rows _ hAnswer hFew =>
      obtain rfl := Except.ok.inj (hAnswer.symm.trans hRows)
      rw [if_neg (Nat.not_lt.mpr hFew)]

/- Whichever way it ends, the query is answered so. -/
theorem Outcome.answersQuery
    (h : Outcome collate retry dataSet settings query outcome) :
    AnswersQuery collate retry dataSet settings query outcome := by
  refine ⟨h.exists_wrongKind_iff, ?_, ?_, ?_, ?_⟩
  · rintro key kind rfl
    cases h with
    | wrongKind hMem hOther => exact ⟨hMem, rfl, hOther⟩
  · intro hAll failure hFails
    cases h with
    | wrongKind hMem hOther => exact absurd (hAll _ hMem) hOther
    | notNumeric _ hAnswer =>
        obtain rfl := Except.error.inj (hAnswer.symm.trans hFails)
        exact ⟨rfl, _, _, _, rfl⟩
    | tooLarge _ hAnswer _ =>
        rw [hFails] at hAnswer
        cases hAnswer
    | rows _ hAnswer _ =>
        rw [hFails] at hAnswer
        cases hAnswer
  · intro hAll found hFound
    rcases Query.exists_answer_of_unordered collate hFound with
      ⟨rows, hRows, hPerm⟩
    rw [h.eq_limitRows hAll hRows, ← hPerm.length_eq]
    unfold Settings.limitRows
    split
    · next hMore => exact iff_of_true rfl hMore
    · next hNot => exact iff_of_false (by simp) hNot
  · intro hAll found hFound hFew
    rcases Query.exists_answer_of_unordered collate hFound with
      ⟨rows, hRows, hPerm⟩
    refine ⟨rows, hRows, hPerm, ?_⟩
    rw [← hPerm.length_eq] at hFew
    rw [h.eq_limitRows hAll hRows]
    exact if_neg (Nat.not_lt.mpr hFew)

------------------------------------------------------------
-- Answers From A Catalog
------------------------------------------------------------

/-
  What is answered to a document by an engine to whose catalog
  these changes have been made.  A wrong document is refused
  whatever has been added, and then an id that is free.
-/
structure AnswersDocument
    (collate : TextOrder)
    (retry : Decimal.Conversion)
    (changes : List Catalog.Change)
    (settings : Settings)
    (document : Json)
    (outcome : Except Failure (List Row)) : Prop where
  malformed : ∀ failure, Query.ofJson document = .error failure →
    outcome = .error failure
  notFound_iff : ∀ query, Query.ofJson document = .ok query →
    ∀ id, outcome = .error (.dataSetNotFound id) ↔
      id = query.dataSet ∧
        Catalog.lastOf query.dataSet changes = none
  answersQuery : ∀ query dataSet,
    Query.ofJson document = .ok query →
      Catalog.lastOf query.dataSet changes = some dataSet →
        AnswersQuery collate retry dataSet settings query outcome

variable {catalog : Catalog} {document : Json}

/- A query is run on the data set that stands under its id. -/
theorem run_eq
    (collate : TextOrder)
    (retry : Decimal.Conversion)
    (settings : Settings)
    (query : Query) :
    run collate retry ⟨catalog, settings⟩ query =
      match catalog.get? query.dataSet with
      | none => .error (.dataSetNotFound query.dataSet)
      | some dataSet =>
          dataSet.answerBy collate retry query >>=
            settings.limitRows := by
  unfold run Catalog.require
  dsimp only
  cases catalog.get? query.dataSet <;> rfl

/- A document that states a query is answered as the query. -/
private theorem answerJson_eq_run
    {engine : Engine}
    (h : Query.ofJson document = .ok query) :
    engine.answerJson collate retry document =
      engine.run collate retry query := by
  unfold answerJson
  rw [h, ok_bind]

/- A registered data set is not missed any more. -/
private theorem Outcome.ne_dataSetNotFound
    {id : String}
    (h : Outcome collate retry dataSet settings query outcome) :
    outcome ≠ .error (.dataSetNotFound id) := by
  cases h <;> simp

/- An engine answers by what has been done to its catalog. -/
theorem answersDocument_of_reflects
    (collate : TextOrder)
    (retry : Decimal.Conversion)
    {changes : List Catalog.Change}
    (h : catalog.Reflects changes)
    (settings : Settings)
    (document : Json) :
    AnswersDocument collate retry changes settings document
      (answerJson collate retry ⟨catalog, settings⟩ document) := by
  refine ⟨?_, ?_, ?_⟩
  · intro failure hFails
    unfold answerJson
    rw [hFails, error_bind]
  · intro query hQuery id
    rw [answerJson_eq_run hQuery, run_eq, h.get?_eq]
    cases Catalog.lastOf query.dataSet changes with
    | none => simp [eq_comm]
    | some dataSet =>
        have hOutcome :=
          outcome_of_answer collate retry dataSet settings query
        simp [hOutcome.ne_dataSetNotFound]
  · intro query dataSet hQuery hDataSet
    rw [answerJson_eq_run hQuery, run_eq, h.get?_eq, hDataSet]
    exact (outcome_of_answer collate retry dataSet settings
      query).answersQuery

/- Rows that were few enough are so if more are allowed. -/
theorem answerJson_eq_ok_of_le
    {settings larger : Settings}
    {rows : List Row}
    (hLe : settings.maxRows ≤ larger.maxRows)
    (h : answerJson collate retry ⟨catalog, settings⟩ document =
      .ok rows) :
    answerJson collate retry ⟨catalog, larger⟩ document =
      .ok rows := by
  unfold answerJson at h ⊢
  rcases bind_eq_ok_iff.mp h with ⟨query, hQuery, hRun⟩
  rw [hQuery, ok_bind]
  rw [run_eq] at hRun ⊢
  cases hFound : catalog.get? query.dataSet with
  | none =>
      rw [hFound] at hRun
      cases hRun
  | some dataSet =>
      rw [hFound] at hRun
      rcases bind_eq_ok_iff.mp hRun with ⟨all, hAll, hLimit⟩
      unfold Settings.limitRows at hLimit
      split at hLimit
      · cases hLimit
      · next hNot =>
          cases hLimit
          dsimp only
          rw [hAll, ok_bind]
          exact if_neg (by omega)

/- Only what stands under the id of the query is looked at. -/
theorem answerJson_eq_of_get?_eq
    {other : Catalog}
    (h : ∀ query, Query.ofJson document = .ok query →
      other.get? query.dataSet = catalog.get? query.dataSet)
    (settings : Settings) :
    answerJson collate retry ⟨other, settings⟩ document =
      answerJson collate retry ⟨catalog, settings⟩ document := by
  cases hQuery : Query.ofJson document with
  | error failure =>
      unfold answerJson
      rw [hQuery, error_bind, error_bind]
  | ok query =>
      rw [answerJson_eq_run hQuery, answerJson_eq_run hQuery,
        run_eq, run_eq, h query hQuery]

end Engine

------------------------------------------------------------
-- Answers After Any Run
------------------------------------------------------------

namespace Registry

/-
  After any run an engine with one of the catalogs answers each
  document, however texts are ordered, by the changes that have
  been made to the catalog: the first stage that fails decides,
  and rows are answered all or not at all.  Rows that are
  answered stay the same if more are allowed.  And whatever is
  done afterwards, the answer stays the same as long as no change
  succeeds under the id that the document names.
-/
theorem run_answersDocument
    (collate : TextOrder)
    (retry : Decimal.Conversion)
    {actions : List Action}
    {registry : Registry}
    {log : List Exchange}
    {place : Nat}
    {catalog : Catalog}
    (hRun : start.run actions = (registry, log))
    (hCatalog : registry.catalogs[place]? = some catalog)
    (document : Json) :
    (∀ settings,
      Engine.AnswersDocument collate retry (changesAt place log)
        settings document
        (Engine.answerJson collate retry ⟨catalog, settings⟩
          document)) ∧
    (∀ (settings larger : Settings) rows,
      settings.maxRows ≤ larger.maxRows →
        Engine.answerJson collate retry ⟨catalog, settings⟩
            document = .ok rows →
          Engine.answerJson collate retry ⟨catalog, larger⟩
            document = .ok rows) ∧
    ∀ later last exchanges,
      registry.run later = (last, exchanges) →
        (∀ query, Query.ofJson document = .ok query →
          ∀ change ∈ changesAt place exchanges,
            change.id ≠ query.dataSet) →
          ∃ next, last.catalogs[place]? = some next ∧
            ∀ settings,
              Engine.answerJson collate retry ⟨next, settings⟩
                  document =
                Engine.answerJson collate retry ⟨catalog, settings⟩
                  document := by
  have hTells := tells_run actions
  rw [hRun] at hTells
  have hReflects := hTells.reflects place catalog hCatalog
  refine ⟨?_, ?_, ?_⟩
  · intro settings
    exact Engine.answersDocument_of_reflects collate retry hReflects
      settings document
  · intro settings larger rows hLe h
    exact Engine.answerJson_eq_ok_of_le hLe h
  · intro later last exchanges hLater hOthers
    have hLast := hTells.run later
    rcases exists_catalog_of_run hCatalog later with
      ⟨next, hNext⟩
    rw [hLater] at hLast hNext
    refine ⟨next, hNext, ?_⟩
    -- Both catalogs have the last data set under the id.
    apply Engine.answerJson_eq_of_get?_eq
    intro query hQuery
    rw [(hLast.reflects place next hNext).get?_eq,
      hReflects.get?_eq, changesAt_append,
      Catalog.lastOf_append_of_forall_ne (hOthers query hQuery)]

/-
  Two rows are one too many at first.  Rooms that come and go
  under another id, and sections that cannot be added again,
  leave the answer as it is.
-/
theorem run_answersDocument_sections :
    let retry : Decimal.Conversion := Decimal.noRetry
    let collate := Collation.compareTexts
    let query : Query :=
      ⟨⟨.always, ⟨[.stored ⟨"ubc", .avg⟩], none⟩, none⟩, "ubc"⟩
    let records : List Record :=
      [⟨[("avg", .number Binary64.zero)]⟩, ⟨[]⟩,
        ⟨[("avg", .number Binary64.zero.negate)]⟩]
    let actions : List Action :=
      [.create, .call 0 (.add "ubc" .sections records)]
    let later : List Action :=
      [.call 0 (.add "rooms" .rooms []),
        .call 0 (.remove "rooms"),
        .call 0 (.add "ubc" .rooms [])]
    let registry := (start.run actions).1
    ∃ catalog rows next,
      registry.catalogs[0]? = some catalog ∧ rows.length = 2 ∧
      Engine.answerJson collate retry ⟨catalog, ⟨1⟩⟩ query.toJson =
        .error (.resultTooLarge 2 1) ∧
      Engine.answerJson collate retry ⟨catalog, ⟨5000⟩⟩
        query.toJson = .ok rows ∧
      (registry.run later).1.catalogs[0]? = some next ∧
      Engine.answerJson collate retry ⟨next, ⟨5000⟩⟩ query.toJson =
        .ok rows := by
  intro retry collate query records actions later registry
  have hStated : query.IsStated :=
    Query.isStated_of_toJson (by decide +revert)
      (by decide +kernel)
  have hQuery : Query.ofJson query.toJson = .ok query :=
    hStated.isWellFormed.ofJson_toJson
  have hRun :
      start.run actions = (registry, (start.run actions).2) :=
    rfl
  obtain ⟨catalog, hCatalog⟩ :
      ∃ catalog, registry.catalogs[0]? = some catalog := ⟨_, rfl⟩
  rcases run_answersDocument collate retry hRun hCatalog
      query.toJson with
    ⟨hAnswers, hLarger, hLater⟩
  have hDataSet :
      Catalog.lastOf "ubc" (changesAt 0 (start.run actions).2) =
        some ⟨"ubc", .sections, records⟩ := by
    decide +kernel
  have hSuits : query.Suits .sections := by
    unfold Query.Suits
    decide +kernel
  obtain ⟨found, hFound, hLength⟩ :
      ∃ found, query.unordered retry records = .ok found ∧
        found.length = 2 :=
    ⟨_, rfl, rfl⟩
  have hFew := (hAnswers ⟨1⟩).answersQuery query _ hQuery hDataSet
  have hMany := (hAnswers ⟨2⟩).answersQuery query _ hQuery hDataSet
  rcases hMany.succeeds hSuits found hFound
      (Nat.le_of_eq hLength) with
    ⟨rows, -, hPerm, hRows⟩
  have hTooLarge := (hFew.tooLarge_iff hSuits found hFound).mpr
    (by rw [hLength]; decide)
  rw [hLength] at hTooLarge
  have hStays := hLarger ⟨2⟩ ⟨5000⟩ rows (by decide) hRows
  have hOthers : ∀ other, Query.ofJson query.toJson = .ok other →
      ∀ change ∈ changesAt 0 (registry.run later).2,
        change.id ≠ other.dataSet := by
    intro other hOther
    obtain rfl := Except.ok.inj (hQuery.symm.trans hOther)
    decide +kernel
  rcases hLater later _ _ rfl hOthers with ⟨next, hNext, hSame⟩
  exact ⟨catalog, rows, next, hCatalog,
    hPerm.length_eq.trans hLength, hTooLarge, hStays, hNext,
    (hSame ⟨5000⟩).trans hStays⟩

end Registry

end Registrar
