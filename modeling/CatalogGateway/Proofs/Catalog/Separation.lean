import CatalogGateway.Proofs.Catalog.LayoutColumns
import CatalogGateway.Proofs.Provider.RoundTrip

/-!
# Properties and layouts side by side

The properties of a table and its layout are stored in one dictionary, the layout under the keys
that the converter reserves.  Nothing that callers give for a property comes to stand under such a
key, and what is read of the properties does not depend on what stands there.  The layout depends
on nothing else.
-/

namespace CatalogGateway

open Alteration

namespace PropertyConverter

variable {converter : PropertyConverter} {first second : EngineProperties}

/-- The stored properties without those under reserved keys. -/
def unreserved (converter : PropertyConverter) (stored : EngineProperties) : EngineProperties :=
  stored.filter fun key _ => !converter.isReserved key

theorem toGeneric_unreserved (converter : PropertyConverter) (stored : EngineProperties) :
    converter.toGeneric (converter.unreserved stored) = converter.toGeneric stored := by
  have shown : (converter.unreserved stored).entries.filterMap
      (fun entry => converter.shown? entry.1 entry.2) =
        stored.entries.filterMap fun entry => converter.shown? entry.1 entry.2 := by
    rw [unreserved, Dictionary.filter, List.filterMap_filter]
    refine List.filterMap_congr fun entry _ => ?_
    cases reserved : converter.isReserved entry.1 <;> simp [shown?, reserved]
  exact congrArg Dictionary.ofList shown

/-- Callers see the same properties of what is the same under all keys that are not reserved. -/
theorem toGeneric_eq_of_unreserved
    (same : ∀ key, converter.isReserved key = false → first.get? key = second.get? key) :
    converter.toGeneric first = converter.toGeneric second := by
  have unreservedSame : converter.unreserved first = converter.unreserved second := by
    apply Dictionary.ext_get?
    intro key
    rw [unreserved, unreserved, Dictionary.get?_filter, Dictionary.get?_filter]
    cases reserved : converter.isReserved key with
    | true => simp
    | false => rw [same key reserved]
  rw [← toGeneric_unreserved converter first, unreservedSame, toGeneric_unreserved]

end PropertyConverter

namespace Alteration

variable {provider : Provider} {table : MemoryTable} {shown : TableDefinition}

/-- A table that can be read after a step on its properties could be read before, with the same
layout. -/
theorem exists_parse_of_applyTo {change : TableChange} {step : Step}
    (planned : Planned provider change step) (ofProperty : change.propertyKey?.isSome = true)
    (parsed : provider.parseTable (step.applyTo table).metadata = .ok shown) :
    ∃ before, provider.parseTable table.metadata = .ok before ∧ shown.layout = before.layout := by
  have readBefore
      (layout : ∀ key ∈ provider.layoutKeys,
        table.properties.get? key = (step.applyTo table).properties.get? key) :
      ∃ before, provider.parseTable { step.applyTo table with
          properties := table.properties }.metadata = .ok before ∧ shown.layout = before.layout :=
    ⟨_, parseTable_properties parsed layout rfl, rfl⟩
  cases planned with
  | setProperty accepted _ =>
      exact readBefore fun key member =>
        (Dictionary.get?_insert_of_ne _ _ (ne_of_layoutKey accepted member)).symm
  | removeProperty accepted =>
      refine readBefore fun key member => ?_
      rw [Step.applyTo, Dictionary.get?_erase, if_neg (ne_of_layoutKey accepted member)]
  | _ => cases ofProperty

theorem exists_parse_of_foldl_applyTo {changes : List TableChange} {steps : List Step}
    (planned : List.Forall₂ (Planned provider) changes steps)
    (ofProperties : ∀ change ∈ changes, change.propertyKey?.isSome = true)
    (parsed : provider.parseTable (steps.foldl Step.applyTo table).metadata = .ok shown) :
    ∃ before, provider.parseTable table.metadata = .ok before ∧ shown.layout = before.layout := by
  induction planned generalizing table with
  | nil => exact ⟨shown, parsed, rfl⟩
  | cons first _ ih =>
      obtain ⟨next, nextParsed, nextLayout⟩ :=
        ih (fun change member => ofProperties change (List.mem_cons_of_mem _ member)) parsed
      obtain ⟨before, beforeParsed, beforeLayout⟩ :=
        exists_parse_of_applyTo first (ofProperties _ List.mem_cons_self) nextParsed
      exact ⟨before, beforeParsed, nextLayout.trans beforeLayout⟩

end Alteration

/-- An alteration of properties alone is one of a table that a load reads, with the same layout. -/
theorem Bridge.exists_loadTable_of_alterTable {bridge : Bridge} {name : QualifiedName}
    {changes : List TableChange} {reply : TableDefinition} {store after : Store}
    {picture : MemoryStore} (shows : store.Shows picture)
    (ofProperties : ∀ change ∈ changes, change.propertyKey?.isSome = true)
    (altered : bridge.alterTable (.ok store) name changes = .ok (reply, after)) :
    ∃ before, bridge.loadTable (.ok store) name = .ok before ∧ reply.layout = before.layout := by
  obtain ⟨parts, id, table, named, holds, tableNamed⟩ := exists_holds shows altered
  obtain ⟨steps, planned, ran, legible, parsed⟩ :=
    (alterTable_eq_ok_iff_of_holds parts named holds tableNamed).mp altered
  obtain ⟨before, parsedBefore, sameLayout⟩ :=
    exists_parse_of_foldl_applyTo (planned_of_plan planned) ofProperties parsed
  have legibleBefore (texts : store.keepsTexts = true) : table.Legible :=
    holds.legible_of_run texts ran (legible texts)
  exact ⟨before, (loadTable_eq_ok_iff_of_holds named holds tableNamed).mpr
    ⟨legibleBefore, parsedBefore⟩, sameLayout⟩

namespace Provider

variable {provider : Provider} {properties : Properties} {stored : EngineProperties}

/-- A layout that is stored beside properties takes none of their places. -/
theorem get?_insertMany_encodeLayout {policy : LayoutPolicy} {table : TableDefinition}
    {layout : EngineProperties} {key : String} {value : PropertyValue}
    (converted : provider.tableConverter.toEngine properties = .ok stored)
    (encoded : provider.encodeLayout policy table = .ok layout)
    (found : stored.get? key = some value) :
    (stored.insertMany layout.entries).get? key = some value := by
  obtain ⟨_, _, rfl⟩ := encodeLayout_eq_ok_iff.mp encoded
  have apart : key ∉ (provider.storedLayout table.layout).entries.map Prod.fst := by
    intro member
    obtain ⟨entry, inLayout, rfl⟩ := List.mem_map.mp member
    have absent := PropertyConverter.unreserved_of_toEngine (sound_tableConverter provider)
      converted (isReserved_of_mem_storedLayout inLayout)
    rw [absent] at found
    cases found
  rw [Dictionary.get?_insertMany_of_notMem apart, found]

/-- Properties and layouts do not interfere.  What is stored of given properties has no reserved
key, and every layout that is stored beside it leaves it as it is.  What callers see of stored
properties does not depend on the reserved keys, and the layout that is read, or the failure to
read one, does not depend on the others.  On every reachable store, an alteration of properties
alone that succeeds leaves the layout of the table as it was. -/
theorem properties_apart (provider : Provider) :
    (∀ properties stored, provider.tableConverter.toEngine properties = .ok stored →
      (∀ key, provider.tableConverter.isReserved key = true → stored.get? key = none) ∧
      ∀ policy table layout, provider.encodeLayout policy table = .ok layout →
        ∀ key value, stored.get? key = some value →
          (stored.insertMany layout.entries).get? key = some value) ∧
    (∀ first second : EngineProperties,
      (∀ key, provider.tableConverter.isReserved key = false →
        first.get? key = second.get? key) →
      provider.tableConverter.toGeneric first = provider.tableConverter.toGeneric second) ∧
    (∀ first second : EngineProperties,
      (∀ key, provider.tableConverter.isReserved key = true →
        first.get? key = second.get? key) →
      provider.decodeLayout first = provider.decodeLayout second) ∧
    ∀ (binding : Binding) disk name changes reply next nextDisk,
      binding.bridge.adapter = provider → (binding.connector.committed disk).Reachable →
      (∀ change ∈ changes, change.propertyKey?.isSome = true) →
      binding.serve disk (.alterTable name changes) = (.ok (.table reply), next, nextDisk) →
      ∃ before, binding.serve disk (.loadTable name) = (.ok (.table before), binding, disk) ∧
        reply.layout = before.layout := by
  refine ⟨fun properties stored converted => ⟨fun key reserved => ?_, ?_⟩, ?_, ?_, ?_⟩
  · exact PropertyConverter.unreserved_of_toEngine (sound_tableConverter provider) converted
      reserved
  · exact fun _ _ _ encoded _ _ => get?_insertMany_encodeLayout converted encoded
  · exact fun _ _ => PropertyConverter.toGeneric_eq_of_unreserved
  · exact fun _ _ same => decodeLayout_congr fun key member => same key (isReserved_iff.mpr member)
  · intro binding disk name changes reply next nextDisk _ reachable ofProperties served
    obtain ⟨picture, shows⟩ := reachable.exists_shows
    obtain ⟨isOpen, _, _, altered, ⟨rfl⟩, _⟩ := Binding.serve_alterTable_eq_ok_iff.mp served
    obtain ⟨before, loaded, sameLayout⟩ :=
      Bridge.exists_loadTable_of_alterTable shows ofProperties altered
    exact ⟨before, Binding.serve_loadTable_eq_ok_iff.mpr ⟨isOpen, loaded⟩, sameLayout⟩

/-- The owner of the arranged table is given, read and changed beside its layout. -/
theorem properties_apart_arrangedTable :
    (∃ stored layout, hive.tableConverter.toEngine (.ofList [("owner", "etl")]) = .ok stored ∧
      hive.encodeLayout .required Binding.arrangedTable = .ok layout ∧
      stored.get? "sorted_by" = none ∧
      (stored.insertMany layout.entries).get? "owner" = some (.string "etl")) ∧
    hive.tableConverter.toGeneric (Binding.arrangedEngineTable.properties.erase "sorted_by") =
      hive.tableConverter.toGeneric Binding.arrangedEngineTable.properties ∧
    hive.decodeLayout (Binding.arrangedEngineTable.properties.insert "owner" (.string "etl")) =
      hive.decodeLayout Binding.arrangedEngineTable.properties ∧
    ∃ reply next before,
      Binding.withArrangedTable.serve {} (.alterTable (.ofTable "m" "c" "s" "t")
          [.setProperty "owner" "etl", .removeProperty "format"]) =
        (.ok (.table reply), next, {}) ∧
      Binding.withArrangedTable.serve {} (.loadTable (.ofTable "m" "c" "s" "t")) =
        (.ok (.table before), Binding.withArrangedTable, {}) ∧
      reply.layout = before.layout := by
  obtain ⟨stores, shows, reads, alters⟩ := properties_apart hive
  obtain ⟨stored, converted, owned⟩ : ∃ stored,
      hive.tableConverter.toEngine (.ofList [("owner", "etl")]) = .ok stored ∧
        stored.get? "owner" = some (.string "etl") := ⟨_, rfl, rfl⟩
  obtain ⟨layout, encoded⟩ : ∃ layout,
      hive.encodeLayout .required Binding.arrangedTable = .ok layout := ⟨_, rfl⟩
  obtain ⟨reply, next, served⟩ : ∃ reply next,
      Binding.withArrangedTable.serve {} (.alterTable (.ofTable "m" "c" "s" "t")
          [.setProperty "owner" "etl", .removeProperty "format"]) =
        (.ok (.table reply), next, {}) := ⟨_, _, rfl⟩
  obtain ⟨unreserved, kept⟩ := stores _ stored converted
  refine ⟨⟨stored, layout, converted, encoded, unreserved _ (by decide),
    kept _ _ layout encoded _ _ owned⟩, shows _ _ fun key free => ?_, reads _ _ fun key taken => ?_,
    reply, next, ?_⟩
  · have different : key ≠ "sorted_by" := by
      rintro rfl
      exact absurd free (by decide)
    rw [Dictionary.get?_erase, if_neg different]
  · have different : key ≠ "owner" := by
      rintro rfl
      exact absurd taken (by decide)
    rw [Dictionary.get?_insert_of_ne _ _ different]
  · obtain ⟨before, loaded, sameLayout⟩ := alters Binding.withArrangedTable {} _ _ reply next {} rfl
      Binding.reachable_withArrangedTable (by decide) served
    exact ⟨before, served, loaded, sameLayout⟩

end Provider

end CatalogGateway
