import CatalogGateway.Proofs.Store.Sessions

/-!
# Simulation of stores

An outcome refines another when its result, if it has one, is also the result of the other,
up to a relation.  Stores of one kind simulate stores of another when every call that
succeeds on the simulated store succeeds alike on the simulating one and leaves them related.
What is composed of calls is then simulated too, call by call.
-/

namespace CatalogGateway

namespace Outcome

variable {ε ε' α β γ δ : Type}

/-- If the first succeeds, so does the second, and the results are related. -/
def Refines (relation : α → β → Prop) (first : Except ε α) (second : Except ε β) : Prop :=
  ∀ value, first = .ok value → ∃ other, second = .ok other ∧ relation value other

namespace Refines

variable {relation : α → β → Prop} {result : γ → δ → Prop} {first : Except ε α}
  {second : Except ε β}

theorem ok {value : α} {other : β} (related : relation value other) :
    Refines relation (.ok value : Except ε α) (.ok other) := by
  intro _ same
  cases same
  exact ⟨other, rfl, related⟩

theorem error {fault : ε} : Refines relation (.error fault) second := by
  intro _ same
  cases same

theorem refl (outcome : Except ε α) : Refines Eq outcome outcome :=
  fun value same => ⟨value, same, rfl⟩

theorem bind {nextFirst : α → Except ε γ} {nextSecond : β → Except ε δ}
    (refines : Refines relation first second)
    (next : ∀ value other, relation value other →
      Refines result (nextFirst value) (nextSecond other)) :
    Refines result (first >>= nextFirst) (second >>= nextSecond) := by
  intro value succeeds
  obtain ⟨middle, started, ended⟩ := bind_eq_ok_iff.mp succeeds
  obtain ⟨other, otherStarted, related⟩ := refines middle started
  obtain ⟨final, otherEnded, results⟩ := next middle other related value ended
  exact ⟨final, bind_eq_ok_iff.mpr ⟨other, otherStarted, otherEnded⟩, results⟩

theorem bind_eq {start otherStart : Except ε α} {nextFirst : α → Except ε γ}
    {nextSecond : α → Except ε δ} (starts : Refines Eq start otherStart)
    (next : ∀ value, Refines result (nextFirst value) (nextSecond value)) :
    Refines result (start >>= nextFirst) (otherStart >>= nextSecond) := by
  refine starts.bind fun value _ same => ?_
  cases same
  exact next value

theorem after {start : Except ε α} {nextFirst : α → Except ε γ} {nextSecond : α → Except ε δ}
    (next : ∀ value, Refines result (nextFirst value) (nextSecond value)) :
    Refines result (start >>= nextFirst) (start >>= nextSecond) :=
  (refl start).bind_eq next

theorem map {left : α → γ} {right : β → δ} (refines : Refines relation first second)
    (results : ∀ value other, relation value other → result (left value) (right other)) :
    Refines result (first.map left) (second.map right) := by
  intro value succeeds
  obtain ⟨middle, started, rfl⟩ := map_eq_ok_iff.mp succeeds
  obtain ⟨other, otherStarted, related⟩ := refines middle started
  exact ⟨right other, map_eq_ok_iff.mpr ⟨other, otherStarted, rfl⟩, results middle other related⟩

theorem mapError {change : ε → ε'} (refines : Refines relation first second) :
    Refines relation (first.mapError change) (second.mapError change) := by
  intro value succeeds
  obtain ⟨other, otherSucceeds, related⟩ := refines value (mapError_eq_ok_iff.mp succeeds)
  exact ⟨other, mapError_eq_ok_iff.mpr otherSucceeds, related⟩

end Refines

end Outcome

namespace MetadataStore

variable {σ τ : Type}

/-- If the first mutation succeeds, the second succeeds with the same result, and the stores
that they leave are related. -/
def Repeats {ε α : Type} (relation : σ → τ → Prop) (first : Except ε α × σ)
    (second : Except ε α × τ) : Prop :=
  ∀ value, first.1 = .ok value → second.1 = .ok value ∧ relation first.2 second.2

/-- Every call that succeeds on a store succeeds alike on each store that it is related to,
and leaves them related. -/
def Simulation [MetadataStore σ] [MetadataStore τ] (relation : σ → τ → Prop) : Prop :=
  ∀ (store : σ) (other : τ), relation store other → ∀ call : StoreCall,
    Repeats relation (call.run store) (call.run other)

namespace Repeats

variable {ε ε' α β : Type} {relation : σ → τ → Prop} {first : Except ε α × σ}
  {second : Except ε α × τ}

theorem error {fault : ε} {store : σ} :
    Repeats relation ((.error fault, store) : Except ε α × σ) second := by
  intro _ same
  cases same

theorem ok {value : α} {store : σ} {other : τ} (related : relation store other) :
    Repeats relation ((.ok value, store) : Except ε α × σ) (.ok value, other) :=
  fun _ same => ⟨same, related⟩

theorem map {change : α → β} (repeats : Repeats relation first second) :
    Repeats relation (first.1.map change, first.2) (second.1.map change, second.2) := by
  intro value succeeds
  obtain ⟨middle, started, rfl⟩ := Outcome.map_eq_ok_iff.mp succeeds
  obtain ⟨otherStarted, related⟩ := repeats middle started
  exact ⟨Outcome.map_eq_ok_iff.mpr ⟨middle, otherStarted, rfl⟩, related⟩

theorem mapError {change : ε → ε'} (repeats : Repeats relation first second) :
    Repeats relation (first.1.mapError change, first.2) (second.1.mapError change, second.2) := by
  intro value succeeds
  obtain ⟨otherSucceeds, related⟩ := repeats value (Outcome.mapError_eq_ok_iff.mp succeeds)
  exact ⟨Outcome.mapError_eq_ok_iff.mpr otherSucceeds, related⟩

theorem result (repeats : Repeats relation first second) :
    Outcome.Refines (fun value other => value = other ∧ relation first.2 second.2)
      first.1 second.1 := fun value succeeds =>
  ⟨value, (repeats value succeeds).1, rfl, (repeats value succeeds).2⟩

theorem refines (repeats : Repeats relation first second) :
    Outcome.Refines (fun left right => left.1 = right.1 ∧ relation left.2 right.2)
      (first.1.map fun value => (value, first.2))
      (second.1.map fun value => (value, second.2)) := by
  refine repeats.result.map ?_
  rintro value _ ⟨rfl, related⟩
  exact ⟨rfl, related⟩

end Repeats

namespace Simulation

variable [MetadataStore σ] [MetadataStore τ] {relation : σ → τ → Prop} {store : σ} {other : τ}

/-- A question with a result has the same result on a related store. -/
theorem answer {α : Type} {encode : α → StoreReply} {outcome otherOutcome : Except StoreFault α}
    (simulation : Simulation relation) (related : relation store other) (call : StoreCall)
    (injective : ∀ {first second}, encode first = encode second → first = second)
    (runs : call.run store = StoreCall.answer store encode outcome)
    (otherRuns : call.run other = StoreCall.answer other encode otherOutcome) :
    Outcome.Refines Eq outcome otherOutcome := by
  intro value succeeds
  have repeats := simulation store other related call
  rw [runs, otherRuns] at repeats
  obtain ⟨answers, _⟩ := repeats (encode value)
    (Outcome.map_eq_ok_iff.mpr ⟨value, succeeds, rfl⟩)
  obtain ⟨result, otherSucceeds, same⟩ := Outcome.map_eq_ok_iff.mp answers
  exact ⟨result, otherSucceeds, (injective same).symm⟩

/-- A mutation without a result that succeeds also does so on a related store. -/
theorem acknowledge {outcome : Except StoreFault Unit × σ}
    {otherOutcome : Except StoreFault Unit × τ} (simulation : Simulation relation)
    (related : relation store other) (call : StoreCall)
    (runs : call.run store = StoreCall.acknowledge outcome)
    (otherRuns : call.run other = StoreCall.acknowledge otherOutcome) :
    Repeats relation outcome otherOutcome := by
  intro value succeeds
  have repeats := simulation store other related call
  rw [runs, otherRuns] at repeats
  obtain ⟨answers, results⟩ := repeats .done
    (Outcome.map_eq_ok_iff.mpr ⟨value, succeeds, rfl⟩)
  obtain ⟨_, otherSucceeds, _⟩ := Outcome.map_eq_ok_iff.mp answers
  exact ⟨otherSucceeds, results⟩

theorem createTable (simulation : Simulation relation) (related : relation store other)
    (schema : String) (table : EngineTable) :
    Repeats relation (MetadataStore.createTable store schema table)
      (MetadataStore.createTable other schema table) := by
  intro handle succeeds
  obtain ⟨answers, results⟩ := simulation store other related (.createTable schema table)
    (.created handle) (Outcome.map_eq_ok_iff.mpr ⟨handle, succeeds, rfl⟩)
  obtain ⟨created, otherSucceeds, same⟩ := Outcome.map_eq_ok_iff.mp answers
  cases same
  exact ⟨otherSucceeds, results⟩

theorem schemaNames (simulation : Simulation relation) (related : relation store other) :
    MetadataStore.schemaNames store = MetadataStore.schemaNames other := by
  obtain ⟨answers, _⟩ := simulation store other related .schemaNames _ rfl
  exact (StoreReply.schemas.inj (Except.ok.inj answers)).symm

theorem hasSchema (simulation : Simulation relation) (related : relation store other)
    (schema : String) :
    MetadataStore.hasSchema store schema = MetadataStore.hasSchema other schema := by
  obtain ⟨answers, _⟩ := simulation store other related (.hasSchema schema) _ rfl
  exact (StoreReply.flag.inj (Except.ok.inj answers)).symm

theorem tableHandle? (simulation : Simulation relation) (related : relation store other)
    (name : SchemaTable) :
    MetadataStore.tableHandle? store name = MetadataStore.tableHandle? other name := by
  obtain ⟨answers, _⟩ := simulation store other related (.tableHandle name) _ rfl
  exact (StoreReply.found.inj (Except.ok.inj answers)).symm

theorem refl : Simulation (Eq : σ → σ → Prop) := by
  rintro store _ rfl call reply succeeds
  exact ⟨succeeds, rfl⟩

/-- A simulation keeps what no call takes away from the simulated stores. -/
theorem and {keeps : σ → Prop} (simulation : Simulation relation)
    (stays : ∀ (store : σ) (call : StoreCall), keeps store → keeps (call.run store).2) :
    Simulation fun store other => relation store other ∧ keeps store := by
  rintro store other ⟨related, kept⟩ call reply succeeds
  obtain ⟨answers, results⟩ := simulation store other related call reply succeeds
  exact ⟨answers, results, stays store call kept⟩

end Simulation

end MetadataStore

namespace Connector

variable {connector : Connector} {disk : Disk}

/-- The commit of a store puts it in place, or it is in place already. -/
def Takes (connector : Connector) (disk : Disk) (store : Store) : Prop :=
  (connector.commit disk store).1.committed (connector.commit disk store).2 = store

theorem takes_committed (connector : Connector) (disk : Disk) :
    connector.Takes disk (connector.committed disk) := by
  cases committed : connector.committed disk with
  | memory store => exact committed_commit_memory committed
  | relational store => exact committed_commit_relational committed
  | «sealed» kept =>
      rw [Takes, commit_sealed]
      exact committed

/-- Calls leave stores of the kind that the connector takes. -/
theorem takes_run {store : Store} (call : StoreCall) (takes : connector.Takes disk store) :
    connector.Takes disk (call.run store).2 := by
  obtain ⟨name, backend, shutdowns⟩ := connector
  cases store with
  | memory store =>
      rw [StoreCall.run_memory]
      cases backend with
      | memory present => rfl
      | embedded present => cases takes
      | kept access =>
          simp only [Takes, commit, committed] at takes
          split at takes <;> cases takes
  | relational store =>
      rw [StoreCall.run_relational]
      cases backend with
      | memory present => cases takes
      | embedded present => rfl
      | kept access =>
          simp only [Takes, commit, committed, Disk.load_save, if_true] at takes ⊢
          split at takes
          · cases takes
          · rw [if_neg ‹_›]
  | «sealed» kept =>
      rw [StoreCall.run_sealed]
      exact takes

/-- Of two commits the second decides. -/
theorem commit_commit {first second : Store} (takesFirst : connector.Takes disk first)
    (takesSecond : connector.Takes disk second) :
    (connector.commit disk first).1.commit (connector.commit disk first).2 second =
      connector.commit disk second := by
  obtain ⟨name, backend, shutdowns⟩ := connector
  cases first with
  | «sealed» kept => rw [commit_sealed]
  | memory store =>
      cases backend with
      | memory present => cases second <;> first | rfl | cases takesSecond
      | embedded present => rfl
      | kept access => rfl
  | relational store =>
      cases backend with
      | memory present => rfl
      | embedded present => cases second <;> first | rfl | cases takesSecond
      | kept access =>
          simp only [Takes, commit, committed, Disk.load_save, if_true] at takesFirst
          split at takesFirst
          · cases takesFirst
          · rename_i writable
            cases second with
            | relational next => simp only [commit, Disk.save_save]
            | memory next | «sealed» next =>
                simp only [Takes, commit, committed, if_neg writable] at takesSecond
                cases takesSecond

end Connector

namespace Store

/-- A store of any kind is simulated by what it shows. -/
theorem simulation_shows : MetadataStore.Simulation Shows := by
  intro store picture shows call reply succeeds
  cases store with
  | memory store =>
      obtain ⟨rfl, sound⟩ := shows
      rw [StoreCall.run_memory] at succeeds ⊢
      exact ⟨succeeds, rfl, sound.run call⟩
  | relational store =>
      rw [StoreCall.run_relational] at succeeds ⊢
      obtain ⟨after, answers, shown⟩ := Metastore.Shows.run_ok shows (Prod.ext succeeds rfl)
      rw [answers]
      exact ⟨rfl, shown⟩
  | «sealed» kept =>
      rw [StoreCall.run_sealed] at succeeds ⊢
      obtain ⟨after, answers, shown⟩ :=
        Metastore.Shows.run_ok shows (StoreCall.run_sealed_ok succeeds)
      rw [answers]
      exact ⟨rfl, shown⟩

end Store

end CatalogGateway
