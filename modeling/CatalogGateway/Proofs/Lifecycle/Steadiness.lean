import CatalogGateway.Proofs.Lifecycle.Fates

/-!
# Steady factories

A factory is steady for a catalog if a construction comes out in the same way whatever is on the
disk: it always succeeds, or always fails for the same reason.  The outcomes of the constructions
of a pass are then known beforehand, whenever and in whatever order they are carried out.
-/

namespace CatalogGateway

/-- Whether a catalog is connected, and why not, does not depend on the disk. -/
def ConnectorFactory.Steady (factory : ConnectorFactory) (catalog : CatalogDefinition) : Prop :=
  ∀ disk other, (factory.connect disk catalog).1.map (fun _ => ()) =
    (factory.connect other catalog).1.map fun _ => ()

/-- The factory of a catalog is steady for it, if it has one. -/
def ProviderRegistry.Steady (providers : ProviderRegistry) (catalog : CatalogDefinition) : Prop :=
  ∀ factory, providers.get? catalog.provider = some factory → factory.Steady catalog

/-- A catalog in memory reads nothing from the disk. -/
theorem ProviderRegistry.steady_memory {catalog : CatalogDefinition}
    (inMemory : catalog.provider = Provider.memory.name) : defaults.Steady catalog := by
  intro factory found
  rw [inMemory] at found
  cases found
  exact fun _ _ => rfl

namespace Manager

open Attempt

variable {manager : Manager} {survey : Survey} {catalog : CatalogDefinition} {build : Build}
  {outcome : Except Fault Binding}

/-- How a construction comes out: which provider's rules store the objects of the catalog, or why
there is no connector. -/
def verdict (manager : Manager) (catalog : CatalogDefinition) : Except Fault Provider :=
  (manager.construct manager.disk catalog 0).1.map fun binding => binding.bridge.adapter

/-- The bridge that a construction comes to, if any. -/
def expected (manager : Manager) (build : Build) : Except Fault Bridge :=
  (manager.verdict build.catalog).map fun adapter => {
    catalog := build.catalog, generation := build.generation, adapter
    policy := manager.config.layoutPolicy }

/-- A construction that is steady comes out as expected on every disk. -/
theorem bridge_construct (steady : manager.providers.Steady build.catalog) (disk : Disk) :
    (manager.construct disk build.catalog build.generation).1.map Binding.bridge =
      manager.expected build := by
  rw [expected, verdict, construct, construct]
  split
  · rfl
  · simp only [ProviderRegistry.create]
    cases found : manager.providers.get? build.catalog.provider with
    | none => rfl
    | some factory =>
        have same := steady factory found disk manager.disk
        revert same
        dsimp only
        rcases factory.connect disk build.catalog with ⟨_ | _, _⟩ <;>
          rcases factory.connect manager.disk build.catalog with ⟨_ | _, _⟩ <;>
            intro same <;> cases same <;> rfl

/-- Each of several constructions is carried out on some disk. -/
theorem exists_construct_eq {builds : List Build} {disk : Disk}
    (constructed : (build, outcome) ∈ builds.zip (manager.constructAll disk builds).1) :
    ∃ other, outcome = (manager.construct other build.catalog build.generation).1 := by
  induction builds generalizing disk with
  | nil => cases constructed
  | cons first rest ih =>
      rw [constructAll, List.zip_cons_cons] at constructed
      rcases List.mem_cons.mp constructed with same | later
      · cases same
        exact ⟨disk, rfl⟩
      · exact ih later

/-- The pass comes with steady factories for all catalogs that it is given. -/
def SteadyFor (manager : Manager) (survey : Survey) : Prop :=
  ∀ catalog ∈ survey.catalogs, manager.providers.Steady catalog

namespace SteadyFor

theorem of_memory (usual : manager.providers = .defaults)
    (inMemory : ∀ catalog ∈ survey.catalogs, catalog.provider = Provider.memory.name) :
    manager.SteadyFor survey := by
  intro catalog given
  rw [usual]
  exact ProviderRegistry.steady_memory (inMemory catalog given)

theorem of_desired (steady : manager.SteadyFor survey) {key : String}
    (wanted : (manager.desired survey).get? key = some catalog) :
    manager.providers.Steady catalog := by
  rw [desired_eq_some_iff] at wanted
  exact steady catalog (CatalogNaming.of_first?_eq_some wanted).1

theorem bridge_attempt (steady : manager.SteadyFor survey)
    (attempted : (build, outcome) ∈ manager.attempts survey) :
    outcome.map Binding.bridge = manager.expected build := by
  obtain ⟨disk, rfl⟩ := exists_construct_eq attempted
  exact bridge_construct (steady.of_desired (warranted attempted).wanted) disk

end SteadyFor

end Manager

end CatalogGateway
