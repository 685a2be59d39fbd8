import CatalogGateway.Proofs.Dictionary.Lookup
import CatalogGateway.Proofs.Store.Outcome
import CatalogGateway.Provider.Basic

/-!
# Stored parts of a layout

What a provider cannot store is left out or refused, as the policy says.  Of a list that is
stored entry by entry, the entries that can be stored are left, and under the strict policy all
entries are such.  A list is stored under a key, and it is read back from there.
-/

namespace CatalogGateway

namespace Provider

variable {provider : Provider} {policy : LayoutPolicy} {table feature reason : String}

theorem leaveOut_eq_ok_iff {outcome : Unit} :
    provider.leaveOut policy table feature reason = .ok outcome ↔ policy = .bestEffort := by
  cases policy <;> simp [leaveOut]

/-- Leaving out something and going on. -/
theorem leaveOut_bind_eq_ok_iff {α : Type} {next : Except CatalogFault α} {result : α} :
    (provider.leaveOut policy table feature reason >>= fun _ => next) = .ok result ↔
      policy = .bestEffort ∧ next = .ok result := by
  rw [Outcome.bind_eq_ok_iff]
  simp only [leaveOut_eq_ok_iff, exists_and_left, exists_const]

/-- How a list is stored whose entries are stored one by one or left out. -/
theorem stored_eq_ok_iff {α : Type} (store : List α → Except CatalogFault (List String))
    (written? : α → Option String) (start : store [] = .ok [])
    (keeps : ∀ entry rest text result, written? entry = some text →
      (store (entry :: rest) = .ok result ↔
        ∃ others, store rest = .ok others ∧ text :: others = result))
    (leaves : ∀ entry rest result, written? entry = none →
      (store (entry :: rest) = .ok result ↔ policy = .bestEffort ∧ store rest = .ok result))
    {entries : List α} {result : List String} :
    store entries = .ok result ↔
      (policy = .required → ∀ entry ∈ entries, (written? entry).isSome = true) ∧
        entries.filterMap written? = result := by
  induction entries generalizing result with
  | nil => simp [start]
  | cons entry rest ih =>
      cases written : written? entry with
      | some text =>
          rw [keeps entry rest text result written, List.filterMap_cons_some written]
          simp [ih, written]
      | none =>
          rw [leaves entry rest result written, ih, List.filterMap_cons_none written]
          cases policy <;> simp [written]

/-- Entries that are read back as they were are the ones that were stored. -/
theorem mapM_filterMap_eq_ok {α : Type} (written? : α → Option String)
    (read : String → Except CatalogFault α) {entries : List α}
    (readBack : ∀ entry ∈ entries, ∀ text, written? entry = some text → read text = .ok entry) :
    (entries.filterMap written?).mapM read =
      .ok (entries.filter fun entry => (written? entry).isSome) := by
  induction entries with
  | nil => rfl
  | cons entry rest ih =>
      have others := ih fun other member => readBack other (List.mem_cons_of_mem _ member)
      cases written : written? entry with
      | none =>
          rw [List.filterMap_cons_none written, others,
            List.filter_cons_of_neg (by simp [written])]
      | some text =>
          rw [List.filterMap_cons_some written, List.mapM_cons,
            readBack entry List.mem_cons_self text written, others,
            List.filter_cons_of_pos (by simp [written])]
          rfl

theorem mapM_map_eq_ok {α : Type} {write : α → String} {read : String → Except CatalogFault α}
    {entries : List α} (readBack : ∀ entry ∈ entries, read (write entry) = .ok entry) :
    (entries.map write).mapM read = .ok entries := by
  have each : entries.mapM (read ∘ write) = .ok (entries.map id) :=
    Outcome.mapM_eq_ok_map id readBack
  rw [List.mapM_map, each, List.map_id]

theorem filterMap_filter_isSome {α : Type} (written? : α → Option String) (entries : List α) :
    (entries.filter fun entry => (written? entry).isSome).filterMap written? =
      entries.filterMap written? := by
  rw [List.filterMap_filter]
  refine List.filterMap_congr fun entry _ => ?_
  cases written? entry <;> rfl

section Arrays

variable {key other : String} {items : List String}

/-- The value that a list is stored as, if it leaves a trace. -/
def arrayValue? (items : List String) : Option PropertyValue :=
  if items.isEmpty then none else some (.array items)

theorem lookup_storedArray :
    (storedArray key items).lookup other = if other = key then arrayValue? items else none := by
  rw [storedArray, arrayValue?]
  split <;> simp [Dictionary.lookup_cons]

theorem keys_storedArray_sublist (key : String) (items : List String) :
    ((storedArray key items).map Prod.fst).Sublist [key] := by
  rw [storedArray]
  split <;> simp

theorem readArray_of_get? {properties : EngineProperties}
    (found : properties.get? key = arrayValue? items) :
    readArray properties key = .ok items := by
  rw [readArray, found, arrayValue?]
  cases items <;> rfl

end Arrays

end Provider

end CatalogGateway
