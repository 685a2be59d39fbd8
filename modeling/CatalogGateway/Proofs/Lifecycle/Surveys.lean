import CatalogGateway.Lifecycle.Pass
import CatalogGateway.Proofs.Store.Outcome

/-!
# Surveys of a metadata service

A survey notes every definition that the service gives of a catalog that it lists, every catalog
that it lists and cannot describe, and every metalake whose catalogs it cannot list although the
metalake may be there.
-/

namespace CatalogGateway

namespace MetadataService

/-- The metalakes that a survey visits. -/
def visited (service : MetadataService) (config : LifecycleConfig) : Except Fault (List String) :=
  if config.metalakes.isEmpty then service.listMetalakes else .ok config.metalakes

/-- A service lists a catalog when it is asked for those of a metalake. -/
def Lists (service : MetadataService) (metalake : String) (name : QualifiedName) : Prop :=
  ∃ names, service.listCatalogs metalake = .ok names ∧ name ∈ names

/-- A service fails to list the catalogs of a metalake, and does not say that it is not there. -/
def Withholds (service : MetadataService) (metalake : String) : Prop :=
  ∃ fault, service.listCatalogs metalake = .error fault ∧ fault.kind ≠ .notFound

end MetadataService

namespace Survey

variable {naming : CatalogNaming} {service : MetadataService} {metalakes : List String}

/-- The survey of some metalakes. -/
def ofMetalakes (naming : CatalogNaming) (service : MetadataService) (metalakes : List String) :
    Survey :=
  metalakes.foldl (addMetalake naming service) {}

theorem ask_eq (config : LifecycleConfig) (service : MetadataService) :
    ask config service = (service.visited config).map (ofMetalakes config.naming service) := by
  rw [ask, MetadataService.visited]
  split <;> rfl

section Views

variable {α β : Type}

/-- When each step of a survey adds to a part of it, the steps together add all that. -/
theorem foldl_appends (view : Survey → List β) {step : Survey → α → Survey} {added : α → List β}
    (appends : ∀ survey item, view (step survey item) = view survey ++ added item)
    (items : List α) (survey : Survey) :
    view (items.foldl step survey) = view survey ++ items.flatMap added := by
  induction items generalizing survey with
  | nil => simp
  | cons item rest ih => rw [List.foldl_cons, ih, appends, List.append_assoc, List.flatMap_cons]

/-- A part of a survey to which every catalog that is listed adds something. -/
theorem addMetalake_appends (view : Survey → List β) {added : QualifiedName → List β}
    (appends : ∀ survey name,
      view (addCatalog naming service survey name) = view survey ++ added name)
    (blind : ∀ (survey : Survey) metalakes,
      view { survey with retained := { survey.retained with metalakes } } = view survey)
    (survey : Survey) (metalake : String) :
    view (addMetalake naming service survey metalake) =
      view survey ++ ((service.listCatalogs metalake).toOption.getD []).flatMap added := by
  rw [addMetalake]
  cases service.listCatalogs metalake with
  | ok names => exact foldl_appends view appends names survey
  | error fault =>
      -- No catalog is noted, and of the part only the metalakes that are kept may change.
      have unchanged : view survey = view survey ++ [].flatMap added := by
        simp
      dsimp only
      split
      · exact unchanged
      · rw [blind]
        exact unchanged

theorem mem_view_ofMetalakes_iff (view : Survey → List β) {added : QualifiedName → List β}
    {item : β} (start : view {} = [])
    (appends : ∀ survey name,
      view (addCatalog naming service survey name) = view survey ++ added name)
    (blind : ∀ (survey : Survey) metalakes,
      view { survey with retained := { survey.retained with metalakes } } = view survey) :
    item ∈ view (ofMetalakes naming service metalakes) ↔
      ∃ metalake ∈ metalakes, ∃ name, service.Lists metalake name ∧ item ∈ added name := by
  rw [ofMetalakes, foldl_appends view (addMetalake_appends view appends blind), start,
    List.nil_append]
  simp only [List.mem_flatMap, MetadataService.Lists]
  refine exists_congr fun metalake => and_congr_right fun _ => exists_congr fun name => ?_
  cases service.listCatalogs metalake <;> simp [Except.toOption]

end Views

theorem mem_catalogs_ofMetalakes_iff {catalog : CatalogDefinition} :
    catalog ∈ (ofMetalakes naming service metalakes).catalogs ↔
      ∃ metalake ∈ metalakes, ∃ name, service.Lists metalake name ∧
        service.loadCatalog name = .ok catalog := by
  have appends (survey : Survey) (name : QualifiedName) :
      (addCatalog naming service survey name).catalogs =
        survey.catalogs ++ (service.loadCatalog name).toOption.toList := by
    rw [addCatalog]
    cases service.loadCatalog name <;> simp [Except.toOption]
  rw [mem_view_ofMetalakes_iff catalogs rfl appends fun _ _ => rfl]
  refine exists_congr fun metalake => and_congr_right fun _ => exists_congr fun name => ?_
  cases service.loadCatalog name <;> simp [Except.toOption, eq_comm]

/-- What there is to report of a catalog that is listed. -/
def failure (naming : CatalogNaming) (service : MetadataService) (name : QualifiedName) :
    List (String × Fault) :=
  match service.loadCatalog name with
  | .ok _ => []
  | .error fault => [(naming.key name.metalake name.last, fault)]

theorem mem_failure_iff {key : String} {fault : Fault} {name : QualifiedName} :
    (key, fault) ∈ failure naming service name ↔
      service.loadCatalog name = .error fault ∧ naming.key name.metalake name.last = key := by
  rw [failure]
  cases service.loadCatalog name <;> simp [eq_comm, and_comm]

theorem mem_failed_ofMetalakes_iff {key : String} {fault : Fault} :
    (key, fault) ∈ (ofMetalakes naming service metalakes).failed ↔
      ∃ metalake ∈ metalakes, ∃ name, service.Lists metalake name ∧
        service.loadCatalog name = .error fault ∧ naming.key name.metalake name.last = key := by
  have appends (survey : Survey) (name : QualifiedName) :
      (addCatalog naming service survey name).failed =
        survey.failed ++ failure naming service name := by
    rw [addCatalog, failure]
    cases service.loadCatalog name <;> simp
  rw [mem_view_ofMetalakes_iff failed rfl appends fun _ _ => rfl]
  simp only [mem_failure_iff]

/-- The keys that are kept are those of catalogs that are listed and not described. -/
theorem mem_retainedKeys_ofMetalakes_iff {key : String} :
    key ∈ (ofMetalakes naming service metalakes).retained.keys ↔
      ∃ metalake ∈ metalakes, ∃ name, service.Lists metalake name ∧
        ∃ fault, service.loadCatalog name = .error fault ∧
          naming.key name.metalake name.last = key := by
  have appends (survey : Survey) (name : QualifiedName) :
      (addCatalog naming service survey name).retained.keys =
        survey.retained.keys ++ (failure naming service name).map Prod.fst := by
    rw [addCatalog, failure]
    cases service.loadCatalog name <;> simp
  rw [mem_view_ofMetalakes_iff (fun survey => survey.retained.keys) rfl appends fun _ _ => rfl]
  simp [mem_failure_iff]

/-- The metalakes that are kept are those that the service withholds. -/
theorem mem_retainedMetalakes_ofMetalakes_iff {metalake : String} :
    metalake ∈ (ofMetalakes naming service metalakes).retained.metalakes ↔
      metalake ∈ metalakes ∧ service.Withholds metalake := by
  classical
  have unchanged (names : List QualifiedName) (survey : Survey) :
      (names.foldl (addCatalog naming service) survey).retained.metalakes =
        survey.retained.metalakes := by
    induction names generalizing survey with
    | nil => rfl
    | cons name rest ih =>
        rw [List.foldl_cons, ih, addCatalog]
        cases service.loadCatalog name <;> rfl
  have appends (survey : Survey) (metalake : String) :
      (addMetalake naming service survey metalake).retained.metalakes =
        survey.retained.metalakes ++ if service.Withholds metalake then [metalake] else [] := by
    rw [addMetalake, MetadataService.Withholds]
    cases service.listCatalogs metalake with
    | ok names => simp [unchanged]
    | error fault => by_cases missing : fault.kind = .notFound <;> simp [missing]
  rw [ofMetalakes, foldl_appends (fun survey => survey.retained.metalakes) appends]
  simp [List.mem_ite_nil_right, and_comm]

end Survey

end CatalogGateway
