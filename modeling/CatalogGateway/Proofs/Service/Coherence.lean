import CatalogGateway.Proofs.Dictionary.Lookup
import CatalogGateway.Service
import Mathlib.Data.List.Induction

/-!
# Coherence of services in memory

What a service in memory knows, stores and refuses after any calls is told by the calls alone: a
metalake is known since it was added, a catalog is stored since it was put or created, and a
question fails since it was made to, each until a later call undoes it.  Catalogs are stored under
their full names, which catalogs in two metalakes may share when names contain dots; the listings
and the look-ups agree all the same.
-/

namespace CatalogGateway

/-- A call that may change a service. -/
inductive ServiceCall where
  | addMetalake (metalake : String)
  | putCatalog (catalog : CatalogDefinition)
  | removeCatalog (metalake catalog : String)
  | removeMetalake (metalake : String)
  | failListing (metalake : String)
  | failLoading (metalake catalog : String)
  | recover
  | createCatalog (catalog : CatalogDefinition)
  | dropCatalog (name : QualifiedName)

namespace MemoryService

/-- The service after one call. -/
def perform (service : MemoryService) : ServiceCall → MemoryService
  | .addMetalake metalake => service.addMetalake metalake
  | .putCatalog catalog => service.putCatalog catalog
  | .removeCatalog metalake catalog => (service.removeCatalog metalake catalog).2
  | .removeMetalake metalake => service.removeMetalake metalake
  | .failListing metalake => service.failListing metalake
  | .failLoading metalake catalog => service.failLoading metalake catalog
  | .recover => service.recover
  | .createCatalog catalog => (service.createCatalog catalog).2
  | .dropCatalog name => (service.dropCatalog name).2

/-- A new service after some calls. -/
def after (calls : List ServiceCall) : MemoryService :=
  calls.foldl perform {}

/-- Every catalog is stored under its full name. -/
def Keyed (service : MemoryService) : Prop :=
  ∀ key catalog, service.catalogs.get? key = some catalog → catalog.fullName = key

/-- A catalog is found under its full name. -/
def Holds (service : MemoryService) (catalog : CatalogDefinition) : Prop :=
  service.catalogs.get? catalog.fullName = some catalog

end MemoryService

namespace ServiceCall

/-- The call makes a metalake known. -/
def Adds (metalake : String) : ServiceCall → Prop
  | addMetalake added => added = metalake
  | putCatalog catalog => catalog.metalake = metalake
  | _ => False

/-- The call removes a metalake. -/
def Removes (metalake : String) : ServiceCall → Prop
  | removeMetalake removed => removed = metalake
  | _ => False

/-- The call, made to a service, stores a catalog. -/
def Stores (catalog : CatalogDefinition) (service : MemoryService) : ServiceCall → Prop
  | putCatalog given => given = catalog
  | createCatalog given => given = catalog ∧ (service.createCatalog given).1 = .ok catalog
  | _ => False

/-- The call takes a stored catalog away, or puts another one in its place. -/
def Displaces (catalog : CatalogDefinition) : ServiceCall → Prop
  | putCatalog given => given.fullName = catalog.fullName
  | removeCatalog metalake name => MemoryService.keyOf metalake name = catalog.fullName
  | dropCatalog name => name.display = catalog.fullName
  | removeMetalake metalake => metalake = catalog.metalake
  | _ => False

/-- The call lets the listing of a metalake fail. -/
def BreaksListing (metalake : String) : ServiceCall → Prop
  | failListing broken => broken = metalake
  | _ => False

/-- The call lets a catalog fail to load, by the text that its name has. -/
def BreaksLoading (name : QualifiedName) : ServiceCall → Prop
  | failLoading metalake catalog => MemoryService.keyOf metalake catalog = name.display
  | _ => False

/-- The call lets nothing fail any more. -/
def Mends : ServiceCall → Prop
  | recover => True
  | _ => False

end ServiceCall

open ServiceCall MemoryService

section Since

variable {starts : MemoryService → ServiceCall → Prop} {ends : ServiceCall → Prop}
  {calls : List ServiceCall} {call : ServiceCall}

/-- Some call started something in the service as it then was, and no later call ended it. -/
def Since (starts : MemoryService → ServiceCall → Prop) (ends : ServiceCall → Prop)
    (calls : List ServiceCall) : Prop :=
  ∃ before call later, calls = before ++ call :: later ∧ starts (after before) call ∧
    ∀ other ∈ later, ¬ ends other

theorem not_since_nil : ¬ Since starts ends [] := by
  rintro ⟨before, call, later, same, _⟩
  cases before <;> cases same

theorem since_concat_iff : Since starts ends (calls ++ [call]) ↔
    starts (after calls) call ∨ Since starts ends calls ∧ ¬ ends call := by
  constructor
  · rintro ⟨before, first, later, same, started, lasts⟩
    rcases List.eq_nil_or_concat later with rfl | ⟨others, last, rfl⟩
    · obtain ⟨rfl, only⟩ := List.append_inj' same rfl
      cases only
      exact .inl started
    · rw [List.concat_eq_append, ← List.cons_append, ← List.append_assoc] at same
      obtain ⟨rfl, only⟩ := List.append_inj' same rfl
      cases only
      refine .inr ⟨⟨before, first, others, rfl, started, fun other member => ?_⟩, ?_⟩
      · exact lasts other (by simp [member])
      · exact lasts call (by simp)
  · rintro (started | ⟨⟨before, first, later, rfl, started, lasts⟩, lasting⟩)
    · exact ⟨calls, call, [], rfl, started, nofun⟩
    · refine ⟨before, first, later ++ [call], by simp, started, fun other member => ?_⟩
      rcases List.mem_append.mp member with old | new
      · exact lasts other old
      · exact List.mem_singleton.mp new ▸ lasting

/-- What was started and not ended since was not ended and not started since. -/
theorem not_since_of_since {first second : ServiceCall → Prop}
    (apart : ∀ call, first call → ¬ second call)
    (started : Since (fun _ => first) second calls) : ¬ Since (fun _ => second) first calls := by
  induction calls using List.reverseRecOn with
  | nil => exact not_since_nil
  | append_singleton calls call ih =>
      rw [since_concat_iff] at started ⊢
      rintro (now | ⟨before, notFirst⟩)
      · rcases started with isFirst | ⟨_, notSecond⟩
        · exact apart call isFirst now
        · exact notSecond now
      · rcases started with isFirst | ⟨earlier, _⟩
        · exact notFirst isFirst
        · exact ih earlier before

end Since

namespace MemoryService

variable {service : MemoryService} {calls : List ServiceCall} {call : ServiceCall}
  {metalake : String} {catalog : CatalogDefinition}

theorem after_concat (calls : List ServiceCall) (call : ServiceCall) :
    after (calls ++ [call]) = (after calls).perform call := by
  rw [after, List.foldl_append]
  rfl

section Steps

theorem createCatalog_eq_ok_iff :
    (service.createCatalog catalog).1 = .ok catalog ↔
      service.metalakes.contains catalog.metalake = true ∧
        service.catalogs.contains catalog.fullName = false := by
  rw [createCatalog]
  cases service.metalakes.contains catalog.metalake with
  | false => simp
  | true => cases service.catalogs.contains catalog.fullName <;> simp

theorem createCatalog_snd_eq (service : MemoryService) (catalog : CatalogDefinition) :
    (service.createCatalog catalog).2 =
      if service.metalakes.contains catalog.metalake = true ∧
          service.catalogs.contains catalog.fullName = false then
        { service with catalogs := service.catalogs.insert catalog.fullName catalog }
      else service := by
  rw [createCatalog]
  cases service.metalakes.contains catalog.metalake with
  | false => simp
  | true => cases service.catalogs.contains catalog.fullName <;> simp

theorem keyed_insert (keyed : service.Keyed) (catalog : CatalogDefinition) {key : String}
    {other : CatalogDefinition}
    (found : (service.catalogs.insert catalog.fullName catalog).get? key = some other) :
    other.fullName = key := by
  rw [Dictionary.get?_insert] at found
  split at found
  · rename_i same
    cases found
    exact same.symm
  · exact keyed key other found

theorem keyed_filter (keyed : service.Keyed) {keep : String → CatalogDefinition → Bool}
    {key : String} {other : CatalogDefinition}
    (found : (service.catalogs.filter keep).get? key = some other) : other.fullName = key := by
  rw [Dictionary.get?_filter] at found
  exact keyed key other (Option.eq_some_of_filter_eq_some found)

theorem Keyed.perform (keyed : service.Keyed) (call : ServiceCall) :
    (service.perform call).Keyed := by
  intro key other found
  cases call with
  | addMetalake | failListing | failLoading | recover => exact keyed key other found
  | putCatalog catalog => exact keyed_insert keyed catalog found
  | removeCatalog | dropCatalog | removeMetalake => exact keyed_filter keyed found
  | createCatalog catalog =>
      rw [MemoryService.perform, createCatalog_snd_eq] at found
      split at found
      · exact keyed_insert keyed catalog found
      · exact keyed key other found

theorem stays_iff {holds : Prop} : holds ↔ False ∨ holds ∧ ¬ False := by
  simp

theorem holds_insert_iff {given : CatalogDefinition} :
    (service.catalogs.insert given.fullName given).get? catalog.fullName = some catalog ↔
      given = catalog ∨ service.Holds catalog ∧ ¬ given.fullName = catalog.fullName := by
  rw [Dictionary.get?_insert, Holds]
  by_cases same : catalog.fullName = given.fullName
  · simp [same]
  · have differs : given ≠ catalog := fun equal => same (congrArg _ equal.symm)
    simp [same, differs, Ne.symm same]

theorem holds_erase_iff {key : String} :
    (service.catalogs.erase key).get? catalog.fullName = some catalog ↔
      False ∨ service.Holds catalog ∧ ¬ key = catalog.fullName := by
  rw [Dictionary.get?_erase, Holds]
  by_cases same : catalog.fullName = key
  · simp [same]
  · simp [same, Ne.symm same]

theorem holds_removeMetalake_iff : (service.removeMetalake metalake).Holds catalog ↔
    False ∨ service.Holds catalog ∧ ¬ metalake = catalog.metalake := by
  rw [Holds, removeMetalake, Dictionary.get?_filter, Option.filter_eq_some_iff, decide_eq_true_iff,
    false_or]
  exact and_congr_right fun _ => ne_comm

theorem holds_createCatalog_iff {given : CatalogDefinition} :
    (service.createCatalog given).2.Holds catalog ↔
      (given = catalog ∧ (service.createCatalog given).1 = .ok catalog) ∨
        service.Holds catalog ∧ ¬ False := by
  rw [Holds, createCatalog_snd_eq, not_false_iff, and_true]
  split
  · rename_i accepted
    rw [holds_insert_iff]
    constructor
    · rintro (rfl | ⟨held, _⟩)
      · exact .inl ⟨rfl, createCatalog_eq_ok_iff.mpr accepted⟩
      · exact .inr held
    · rintro (⟨same, _⟩ | held)
      · exact .inl same
      · -- The new catalog was stored only because its full name was free.
        refine .inr ⟨held, fun same => ?_⟩
        rw [same, Dictionary.contains_of_get? held] at accepted
        cases accepted.2
  · rename_i refused
    constructor
    · exact .inr
    · rintro (⟨rfl, created⟩ | held)
      · exact absurd (createCatalog_eq_ok_iff.mp created) refused
      · exact held

/-- What becomes of a stored catalog in one call. -/
theorem holds_perform_iff : (service.perform call).Holds catalog ↔
    call.Stores catalog service ∨ service.Holds catalog ∧ ¬ call.Displaces catalog := by
  cases call with
  | putCatalog => exact holds_insert_iff
  | removeCatalog | dropCatalog => exact holds_erase_iff
  | removeMetalake => exact holds_removeMetalake_iff
  | createCatalog => exact holds_createCatalog_iff
  | addMetalake | failListing | failLoading | recover => exact stays_iff

/-- A creation changes nothing but the catalogs. -/
theorem createCatalog_rest (service : MemoryService) (catalog : CatalogDefinition) :
    (service.createCatalog catalog).2.metalakes = service.metalakes ∧
      (service.createCatalog catalog).2.failingMetalakes = service.failingMetalakes ∧
      (service.createCatalog catalog).2.failingCatalogs = service.failingCatalogs := by
  rw [createCatalog_snd_eq]
  split <;> exact ⟨rfl, rfl, rfl⟩

theorem contains_addMetalake_iff {added : String} :
    (service.addMetalake added).metalakes.contains metalake = true ↔
      added = metalake ∨ service.metalakes.contains metalake = true ∧ ¬ False := by
  simp [addMetalake, Dictionary.contains_insert, eq_comm (a := added)]

theorem contains_removeMetalake_iff {removed : String} :
    (service.removeMetalake removed).metalakes.contains metalake = true ↔
      False ∨ service.metalakes.contains metalake = true ∧ ¬ removed = metalake := by
  simp [removeMetalake, Dictionary.contains_erase, eq_comm (a := removed), and_comm]

/-- What becomes of a known metalake in one call. -/
theorem knows_perform_iff : (service.perform call).metalakes.contains metalake = true ↔
    call.Adds metalake ∨
      service.metalakes.contains metalake = true ∧ ¬ call.Removes metalake := by
  cases call with
  | addMetalake | putCatalog => exact contains_addMetalake_iff
  | removeMetalake => exact contains_removeMetalake_iff
  | createCatalog catalog =>
      rw [perform, (service.createCatalog_rest catalog).1]
      exact stays_iff
  | removeCatalog | dropCatalog | failListing | failLoading | recover => exact stays_iff

/-- What becomes of a listing that fails in one call. -/
theorem broken_perform_iff : metalake ∈ (service.perform call).failingMetalakes ↔
    call.BreaksListing metalake ∨ metalake ∈ service.failingMetalakes ∧ ¬ call.Mends := by
  cases call with
  | failListing broken => simp [perform, failListing, BreaksListing, Mends, eq_comm (a := broken)]
  | recover => simp [perform, recover, BreaksListing, Mends]
  | createCatalog catalog =>
      rw [perform, (service.createCatalog_rest catalog).2.1]
      exact stays_iff
  | addMetalake | putCatalog | removeCatalog | removeMetalake | dropCatalog | failLoading =>
      exact stays_iff

/-- What becomes of a catalog that fails to load in one call. -/
theorem unloadable_perform_iff {name : QualifiedName} :
    name.display ∈ (service.perform call).failingCatalogs ↔
      call.BreaksLoading name ∨ name.display ∈ service.failingCatalogs ∧ ¬ call.Mends := by
  cases call with
  | failLoading metalake catalog =>
      simp [perform, failLoading, BreaksLoading, Mends, eq_comm (a := keyOf metalake catalog)]
  | recover => simp [perform, recover, BreaksLoading, Mends]
  | createCatalog catalog =>
      rw [perform, (service.createCatalog_rest catalog).2.2]
      exact stays_iff
  | addMetalake | putCatalog | removeCatalog | removeMetalake | dropCatalog | failListing =>
      exact stays_iff

end Steps

theorem not_adds_of_removes (removes : call.Removes metalake) : ¬ call.Adds metalake := by
  cases call with
  | removeMetalake => exact id
  | _ => exact removes.elim

theorem displaces_of_removes (removes : call.Removes catalog.metalake) :
    call.Displaces catalog := by
  cases call with
  | removeMetalake => exact removes
  | _ => exact removes.elim

theorem adds_or_contains_of_stores (stores : call.Stores catalog service) :
    call.Adds catalog.metalake ∨
      service.metalakes.contains catalog.metalake = true ∧ ¬ call.Removes catalog.metalake := by
  cases call with
  | putCatalog given => exact .inl (congrArg _ stores)
  | createCatalog given =>
      obtain ⟨rfl, created⟩ := stores
      exact .inr ⟨(createCatalog_eq_ok_iff.mp created).1, id⟩
  | _ => exact stores.elim

section Runs

variable {starts : MemoryService → ServiceCall → Prop} {ends : ServiceCall → Prop}

/-- What one call starts and another one ends holds after some calls exactly since it was
started. -/
theorem holds_after_iff (holds : MemoryService → Prop) (fresh : ¬ holds {})
    (step : ∀ service call, holds (perform service call) ↔
      starts service call ∨ holds service ∧ ¬ ends call) (calls : List ServiceCall) :
    holds (after calls) ↔ Since starts ends calls := by
  induction calls using List.reverseRecOn with
  | nil => exact iff_of_false fresh not_since_nil
  | append_singleton calls call ih => rw [after_concat, step, since_concat_iff, ih]

/-- Every call keeps the invariant, so it holds after any of them. -/
theorem keyed_after (calls : List ServiceCall) : (after calls).Keyed := by
  induction calls using List.reverseRecOn with
  | nil => exact fun _ _ found => by cases found
  | append_singleton calls call ih =>
      rw [after_concat]
      exact ih.perform call

theorem knows_after_iff (calls : List ServiceCall) (metalake : String) :
    (after calls).metalakes.contains metalake = true ↔
      Since (fun _ => Adds metalake) (Removes metalake) calls :=
  holds_after_iff (fun service => service.metalakes.contains metalake = true) nofun
    (fun _ _ => knows_perform_iff) calls

theorem stores_after_iff (calls : List ServiceCall) (catalog : CatalogDefinition) :
    (after calls).Holds catalog ↔ Since (Stores catalog) (Displaces catalog) calls :=
  holds_after_iff (fun service => service.Holds catalog) nofun
    (fun _ _ => holds_perform_iff) calls

theorem broken_after_iff (calls : List ServiceCall) (metalake : String) :
    metalake ∈ (after calls).failingMetalakes ↔
      Since (fun _ => BreaksListing metalake) Mends calls :=
  holds_after_iff (fun service => metalake ∈ service.failingMetalakes) nofun
    (fun _ _ => broken_perform_iff) calls

theorem unloadable_after_iff (calls : List ServiceCall) (name : QualifiedName) :
    name.display ∈ (after calls).failingCatalogs ↔
      Since (fun _ => BreaksLoading name) Mends calls :=
  holds_after_iff (fun service => name.display ∈ service.failingCatalogs) nofun
    (fun _ _ => unloadable_perform_iff) calls

/-- A metalake is known as long as it has a catalog. -/
theorem contains_of_holds (held : (after calls).Holds catalog) :
    (after calls).metalakes.contains catalog.metalake = true := by
  induction calls using List.reverseRecOn with
  | nil => cases held
  | append_singleton calls call ih =>
      rw [after_concat, holds_perform_iff] at held
      rw [after_concat, knows_perform_iff]
      rcases held with stored | ⟨held, stays⟩
      · exact adds_or_contains_of_stores stored
      · exact .inr ⟨ih held, fun removes => stays (displaces_of_removes removes)⟩

end Runs

section Questions

theorem display_qualifiedName (catalog : CatalogDefinition) :
    catalog.qualifiedName.display = catalog.fullName :=
  rfl

theorem listCatalogs_eq_ok_iff {names : List QualifiedName} :
    service.listCatalogs metalake = .ok names ↔
      (metalake ∉ service.failingMetalakes ∧ service.metalakes.contains metalake = true) ∧
        (service.catalogs.values.filter fun catalog => catalog.metalake = metalake).map
          CatalogDefinition.qualifiedName = names := by
  rw [listCatalogs]
  split
  · rename_i broken
    simp [broken]
  · rename_i works
    split <;> simp_all

theorem Keyed.exists_holds_of_mem_values (keyed : service.Keyed)
    (member : catalog ∈ service.catalogs.values) : service.Holds catalog := by
  obtain ⟨key, found⟩ := Dictionary.mem_values_iff.mp member
  rw [Holds, keyed key catalog found]
  exact found

/-- A listing names the catalogs that are stored in a metalake. -/
theorem mem_of_listCatalogs_iff (keyed : service.Keyed) {names : List QualifiedName}
    (listing : service.listCatalogs metalake = .ok names) {name : QualifiedName} :
    name ∈ names ↔ ∃ catalog, service.Holds catalog ∧ catalog.metalake = metalake ∧
      catalog.qualifiedName = name := by
  obtain ⟨_, rfl⟩ := listCatalogs_eq_ok_iff.mp listing
  simp only [List.mem_map, List.mem_filter, decide_eq_true_eq, and_assoc]
  constructor
  · rintro ⟨catalog, member, listed⟩
    exact ⟨catalog, keyed.exists_holds_of_mem_values member, listed⟩
  · rintro ⟨catalog, held, listed⟩
    exact ⟨catalog, Dictionary.mem_values_iff.mpr ⟨_, held⟩, listed⟩

/-- A listing is in the order of the full names, so it names no catalog twice. -/
theorem ascending_of_listCatalogs (keyed : service.Keyed) {names : List QualifiedName}
    (listing : service.listCatalogs metalake = .ok names) :
    names.Pairwise fun first second => first.display < second.display := by
  obtain ⟨_, rfl⟩ := listCatalogs_eq_ok_iff.mp listing
  have stored : service.catalogs.values.Pairwise fun first second =>
      first.fullName < second.fullName := by
    rw [Dictionary.values, List.pairwise_map]
    refine service.catalogs.ordered.imp_of_mem fun {first second} inFirst inSecond below => ?_
    rw [keyed first.1 first.2 (Dictionary.get?_eq_some_iff.mpr inFirst),
      keyed second.1 second.2 (Dictionary.get?_eq_some_iff.mpr inSecond)]
    exact below
  exact (stored.filter _).map _ fun _ _ below => below

theorem loadCatalog_of_broken {name : QualifiedName}
    (broken : name.display ∈ service.failingCatalogs) :
    ∃ fault, service.loadCatalog name = .error fault ∧ fault.kind = .storage :=
  ⟨_, if_pos broken, rfl⟩

theorem loadCatalog_of_holds (held : service.Holds catalog)
    (works : catalog.fullName ∉ service.failingCatalogs) :
    service.loadCatalog catalog.qualifiedName = .ok catalog := by
  rw [loadCatalog, display_qualifiedName, if_neg works, held]

end Questions

/-- What is true of a service after some calls. -/
structure Coherent (calls : List ServiceCall) (service : MemoryService) : Prop where
  /-- A catalog is stored since it was put or created. -/
  holds : ∀ catalog, service.Holds catalog ↔ Since (Stores catalog) (Displaces catalog) calls
  /-- Every catalog is stored under its full name, in a metalake that is known. -/
  stored : ∀ key catalog, service.catalogs.get? key = some catalog →
    key = catalog.fullName ∧ service.metalakes.contains catalog.metalake = true
  /-- The metalakes that were added and not removed since can be listed, unless made to fail. -/
  lists : ∀ metalake, (∃ names, service.listCatalogs metalake = .ok names) ↔
    Since (fun _ => Adds metalake) (Removes metalake) calls ∧
      ¬ Since (fun _ => BreaksListing metalake) Mends calls
  /-- A listing has the stored catalogs of the metalake, each of them once. -/
  listed : ∀ metalake names, service.listCatalogs metalake = .ok names →
    names.Pairwise (fun first second => first.display < second.display) ∧
      ∀ name, name ∈ names ↔ ∃ catalog, service.Holds catalog ∧ catalog.metalake = metalake ∧
        catalog.qualifiedName = name
  /-- What is listed can be loaded, unless made to fail. -/
  loads : ∀ metalake names name, service.listCatalogs metalake = .ok names → name ∈ names →
    ¬ Since (fun _ => BreaksLoading name) Mends calls →
      ∃ catalog, service.loadCatalog name = .ok catalog ∧ catalog.metalake = metalake ∧
        catalog.qualifiedName = name
  withholds : ∀ name, Since (fun _ => BreaksLoading name) Mends calls →
    ∃ fault, service.loadCatalog name = .error fault ∧ fault.kind = .storage
  /-- A metalake that was removed and not added since has no catalogs. -/
  forgets : ∀ metalake, Since (fun _ => Removes metalake) (Adds metalake) calls →
    service.metalakes.contains metalake = false ∧
      ∀ key catalog, service.catalogs.get? key = some catalog → catalog.metalake ≠ metalake

/-- A service in memory is coherent after any calls. -/
theorem coherent_after (calls : List ServiceCall) : Coherent calls (after calls) where
  holds := stores_after_iff calls
  stored key catalog found := by
    obtain rfl := keyed_after calls key catalog found
    exact ⟨rfl, contains_of_holds found⟩
  lists metalake := by
    rw [← knows_after_iff, ← broken_after_iff]
    simp only [listCatalogs_eq_ok_iff, exists_and_left, exists_eq', and_true]
    exact and_comm
  listed metalake names listing :=
    ⟨ascending_of_listCatalogs (keyed_after calls) listing,
      fun _ => mem_of_listCatalogs_iff (keyed_after calls) listing⟩
  loads metalake names name listing member works := by
    obtain ⟨catalog, held, inside, rfl⟩ :=
      (mem_of_listCatalogs_iff (keyed_after calls) listing).mp member
    rw [← unloadable_after_iff, display_qualifiedName] at works
    exact ⟨catalog, loadCatalog_of_holds held works, inside, rfl⟩
  withholds name broken := loadCatalog_of_broken ((unloadable_after_iff calls name).mpr broken)
  forgets metalake removed := by
    have unknown : (after calls).metalakes.contains metalake = false := by
      rw [← Bool.not_eq_true, knows_after_iff]
      exact not_since_of_since (fun _ => not_adds_of_removes) removed
    refine ⟨unknown, fun key catalog found inside => ?_⟩
    obtain rfl := keyed_after calls key catalog found
    subst inside
    rw [contains_of_holds found] at unknown
    cases unknown

/-- Two catalogs share a full name, so the second takes the place of the first, whose metalake
stays. -/
example :
    let service := after [
      .putCatalog { metalake := "a.b", name := "c", provider := "memory" },
      .putCatalog { metalake := "a", name := "b.c", provider := "memory" }]
    service.listCatalogs "a" = .ok [.ofCatalog "a" "b.c"] ∧ service.listCatalogs "a.b" = .ok [] :=
  ⟨rfl, rfl⟩

end MemoryService

end CatalogGateway
