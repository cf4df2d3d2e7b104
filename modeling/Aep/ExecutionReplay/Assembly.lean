import Aep.ExecutionReplay.References

namespace Aep.ExecutionReplay

open Result
open WorkflowScheduler (ResourceRef)

/-- A collection as the loader leaves it: every version once, and closed under its references. -/
structure Loaded (collection : ResourceCollection) : Prop where
  distinct : (collection.resources.map Resource.ref).Nodup
  closed : ∀ resource ∈ collection.resources, ∀ ref ∈ resource.references, ∃ other ∈ collection.resources, other.ref = ref
  workspace : collection.workspace ∈ collection.resources

section Index

variable {resources : List Resource}

theorem indexed_eq (distinct : (resources.map Resource.ref).Nodup) :
    indexed resources = resources.map fun resource => (resource.ref, resource) := by
  have keys : (Dict.keys (([] : Dict ResourceRef Resource) ++
      resources.map fun resource => (resource.ref, resource))).Nodup := by
    simpa [Dict.keys, Function.comp_def] using distinct
  have assigned := Dict.foldl_set_eq (resources.map fun resource => (resource.ref, resource)) [] keys
  rw [List.foldl_map] at assigned
  exact assigned

theorem keys_indexed (distinct : (resources.map Resource.ref).Nodup) : (indexed resources).keys = resources.map Resource.ref := by
  rw [indexed_eq distinct]
  simp [Dict.keys, Function.comp_def]

theorem get?_indexed (distinct : (resources.map Resource.ref).Nodup) {ref : ResourceRef} {resource : Resource} :
    (indexed resources).get? ref = some resource ↔ resource ∈ resources ∧ resource.ref = ref := by
  constructor
  · intro found
    have member := Dict.get?_eq_some_mem found
    rw [indexed_eq distinct, List.mem_map] at member
    obtain ⟨listed, inside, same⟩ := member
    cases same
    exact ⟨inside, rfl⟩
  · rintro ⟨inside, rfl⟩
    apply Dict.get?_of_mem
    · rw [keys_indexed distinct]
      exact distinct
    · rw [indexed_eq distinct]
      exact List.mem_map_of_mem inside

end Index

section Needed

variable (historical available : ResourceCollection)

def lookup (ref : ResourceRef) : Option Resource := (historical.get ref).or (available.get ref)

/-- A resource that the replay needs: a historical one, an override, or what one of them refers to. -/
inductive Needed (overrides : List ResourceRef) : Resource → Prop where
  | historical {resource : Resource} : resource ∈ historical.resources → Needed overrides resource
  | override {ref : ResourceRef} {resource : Resource} : ref ∈ overrides → lookup historical available ref = some resource →
      Needed overrides resource
  | dependency {resource other : Resource} {ref : ResourceRef} : Needed overrides resource → ref ∈ resource.references →
      lookup historical available ref = some other → Needed overrides other

/-- The resources that have been put together: needed ones, all historical ones, and what they refer to. -/
structure Assembled (overrides : List ResourceRef) (resources : Dict ResourceRef Resource) : Prop where
  distinct : resources.keys.Nodup
  entries : ∀ ref resource, resources.get? ref = some resource →
    lookup historical available ref = some resource ∧ Needed historical available overrides resource
  kept : ∀ resource ∈ historical.resources, resources.get? resource.ref = some resource
  closed : ∀ ref resource, resources.get? ref = some resource → ∀ other ∈ resource.references, other ∈ resources.keys

end Needed

section Assembly

variable {historical available : ResourceCollection} {overrides : List ResourceRef} {resources after : Dict ResourceRef Resource}

theorem lookup_ref (loaded : Loaded historical) (availableLoaded : Loaded available) {ref : ResourceRef} {resource : Resource}
    (found : lookup historical available ref = some resource) :
    resource.ref = ref ∧ (resource ∈ historical.resources ∨ resource ∈ available.resources) := by
  rcases Option.or_eq_some_iff.mp found with old | ⟨_, new⟩
  · obtain ⟨member, same⟩ := (get?_indexed loaded.distinct).mp old
    exact ⟨same, .inl member⟩
  · obtain ⟨member, same⟩ := (get?_indexed availableLoaded.distinct).mp new
    exact ⟨same, .inr member⟩

theorem lookup_historical (loaded : Loaded historical) {resource : Resource} (member : resource ∈ historical.resources) :
    lookup historical available resource.ref = some resource := by
  have found : historical.get resource.ref = some resource := (get?_indexed loaded.distinct).mpr ⟨member, rfl⟩
  rw [lookup, found]
  rfl

theorem assembled_historical (loaded : Loaded historical) :
    Assembled historical available overrides (indexed historical.resources) where
  distinct := by
    rw [keys_indexed loaded.distinct]
    exact loaded.distinct
  entries ref resource found := by
    obtain ⟨member, rfl⟩ := (get?_indexed loaded.distinct).mp found
    exact ⟨lookup_historical loaded member, .historical member⟩
  kept resource member := (get?_indexed loaded.distinct).mpr ⟨member, rfl⟩
  closed ref resource found other referenced := by
    obtain ⟨member, rfl⟩ := (get?_indexed loaded.distinct).mp found
    obtain ⟨target, present, rfl⟩ := loaded.closed resource member other referenced
    rw [keys_indexed loaded.distinct]
    exact List.mem_map_of_mem present

theorem lookup_of_absent (loaded : Loaded historical) (assembled : Assembled historical available overrides resources)
    {ref : ResourceRef} (absent : ref ∉ resources.keys) {resource : Resource} (found : available.get ref = some resource) :
    lookup historical available ref = some resource := by
  have unknown : historical.get ref = none := by
    cases old : historical.get ref with
    | none => rfl
    | some other =>
      obtain ⟨member, rfl⟩ := (get?_indexed loaded.distinct).mp old
      exact absurd (Worklist.mem_keys_iff.mpr ⟨other, assembled.kept other member⟩) absent
  rw [lookup, unknown, found]
  rfl

theorem candidate_ok (loaded : Loaded historical) (assembled : Assembled historical available overrides resources)
    {override : ResourceRef} (given : override ∈ overrides) {candidate : Resource}
    (chosen : (resources.get? override).or (available.get override) = some candidate) :
    lookup historical available override = some candidate ∧ Needed historical available overrides candidate := by
  have found : lookup historical available override = some candidate := by
    rcases Option.or_eq_some_iff.mp chosen with old | ⟨none, new⟩
    · exact (assembled.entries override candidate old).1
    · exact lookup_of_absent loaded assembled (Dict.get?_eq_none.mp none) new
  exact ⟨found, .override given found⟩

theorem addOverride_ok (loaded : Loaded historical) (assembled : Assembled historical available overrides resources)
    {override : ResourceRef} (given : override ∈ overrides) (added : addOverride available resources override = .ok after) :
    Assembled historical available overrides after ∧ override ∈ after.keys ∧ ∀ ref ∈ resources.keys, ref ∈ after.keys := by
  unfold addOverride at added
  split at added
  · cases added
  · rename_i candidate chosen
    obtain ⟨found, needed⟩ := candidate_ok loaded assembled given chosen
    have grown (ref : ResourceRef) (resource : Resource) (old : resources.get? ref = some resource) :
        (resources.set override candidate).get? ref = some resource := by
      rw [Dict.get?_set]
      split
      · rename_i same
        subst same
        rw [old, Option.some_or] at chosen
        exact chosen.symm
      · exact old
    have keys (ref : ResourceRef) (old : ref ∈ resources.keys) : ref ∈ (resources.set override candidate).keys := by
      obtain ⟨resource, its⟩ := Worklist.mem_keys_iff.mp old
      exact Worklist.mem_keys_iff.mpr ⟨resource, grown ref resource its⟩
    have entries (ref : ResourceRef) (resource : Resource) (its : (resources.set override candidate).get? ref = some resource) :
        lookup historical available ref = some resource ∧ Needed historical available overrides resource := by
      rw [Dict.get?_set] at its
      split at its
      · rename_i same
        cases its
        rw [← same]
        exact ⟨found, needed⟩
      · exact assembled.entries ref resource its
    have inv : Worklist.Inv Resource.references
        (fun ref resource => lookup historical available ref = some resource ∧ Needed historical available overrides resource)
        (resources.set override candidate) [candidate] ⟨resources.set override candidate, [candidate]⟩ := by
      refine ⟨Dict.nodup_keys_set assembled.distinct _ _, entries, fun _ _ same => same, ?_, fun ref resource its => ?_⟩
      · intro value waiting
        rw [List.mem_singleton.mp waiting]
        exact ⟨override, Dict.get?_set_self _ _ _⟩
      · rw [Dict.get?_set] at its
        split at its
        · cases its
          exact .inl List.mem_cons_self
        · exact .inr fun other referenced => keys other (assembled.closed ref resource its other referenced)
    have inherited : Worklist.Inherited available.get Resource.references
        (fun ref resource => lookup historical available ref = some resource ∧ Needed historical available overrides resource)
        (resources.set override candidate) := by
      intro ref resource other resolved holds referenced absent looked
      have unknown : other ∉ resources.keys := fun old => absent (keys other old)
      have its := lookup_of_absent loaded assembled unknown looked
      exact ⟨its, .dependency holds.2 referenced its⟩
    have drained : Worklist.drain available.get Resource.references missingDependency (available.resources.length + 1)
        ⟨resources.set override candidate, [candidate]⟩ = some (.ok after) := by
      cases drain : Worklist.drain available.get Resource.references missingDependency (available.resources.length + 1)
          ⟨resources.set override candidate, [candidate]⟩ with
      | none =>
        rw [drain] at added
        cases added
      | some result =>
        rw [drain] at added
        exact congrArg some added
    have done := inv.drain inherited drained
    have settled (ref : ResourceRef) (resource : Resource) (old : resources.get? ref = some resource) :
        after.get? ref = some resource := done.kept ref resource (grown ref resource old)
    refine ⟨⟨done.distinct, done.entries, fun resource member => settled _ _ (assembled.kept resource member), ?_⟩, ?_, ?_⟩
    · intro ref resource its
      rcases done.closed ref resource its with waiting | closed
      · cases waiting
      · exact closed
    · exact Worklist.mem_keys_iff.mpr ⟨candidate, done.kept override candidate (Dict.get?_set_self _ _ _)⟩
    · intro ref old
      obtain ⟨resource, its⟩ := Worklist.mem_keys_iff.mp old
      exact Worklist.mem_keys_iff.mpr ⟨resource, settled ref resource its⟩

theorem addOverride_drained (availableLoaded : Loaded available) (resources : Dict ResourceRef Resource) (candidate : Resource) :
    (Worklist.drain available.get Resource.references missingDependency (available.resources.length + 1)
      ⟨resources, [candidate]⟩).isSome = true := by
  have inside (ref : ResourceRef) (resource : Resource) (found : available.get ref = some resource) :
      ref ∈ available.resources.map Resource.ref := by
    obtain ⟨member, rfl⟩ := (get?_indexed availableLoaded.distinct).mp found
    exact List.mem_map_of_mem member
  apply Worklist.drain_isSome inside
  unfold Worklist.measure
  have fewer := List.length_filter_le (fun ref => decide (ref ∉ resources.keys)) (available.resources.map Resource.ref)
  rw [List.length_map] at fewer
  simpa using fewer

theorem addOverrides_ok (loaded : Loaded historical) {rest : List ResourceRef} (inside : ∀ ref ∈ rest, ref ∈ overrides)
    {resources after : Dict ResourceRef Resource} (assembled : Assembled historical available overrides resources)
    (added : rest.foldlM (addOverride available) resources = .ok after) :
    Assembled historical available overrides after ∧ (∀ ref ∈ rest, ref ∈ after.keys) ∧
      ∀ ref ∈ resources.keys, ref ∈ after.keys := by
  induction rest generalizing resources with
  | nil =>
    cases added
    exact ⟨assembled, by simp, fun _ => id⟩
  | cons override others ih =>
    simp only [List.foldlM_cons, bind_eq_ok] at added
    obtain ⟨middle, first, later⟩ := added
    obtain ⟨stepped, present, kept⟩ := addOverride_ok loaded assembled (inside override List.mem_cons_self) first
    obtain ⟨done, all, more⟩ := ih (fun ref member => inside ref (List.mem_cons_of_mem _ member)) stepped later
    exact ⟨done, List.forall_mem_cons.mpr ⟨more _ present, all⟩, fun ref old => more ref (kept ref old)⟩

theorem assembled_iff (loaded : Loaded historical) (availableLoaded : Loaded available)
    (added : overrides.foldlM (addOverride available) (indexed historical.resources) = .ok after) {ref : ResourceRef}
    {resource : Resource} :
    after.get? ref = some resource ↔ resource.ref = ref ∧ Needed historical available overrides resource := by
  obtain ⟨assembled, all, -⟩ := addOverrides_ok loaded (fun _ member => member) (assembled_historical loaded) added
  have known {ref : ResourceRef} (present : ref ∈ after.keys) {resource : Resource}
      (found : lookup historical available ref = some resource) : after.get? ref = some resource := by
    obtain ⟨other, its⟩ := Worklist.mem_keys_iff.mp present
    rw [its, ← (assembled.entries ref other its).1, found]
  constructor
  · intro found
    obtain ⟨looked, needed⟩ := assembled.entries ref resource found
    exact ⟨(lookup_ref loaded availableLoaded looked).1, needed⟩
  · rintro ⟨rfl, needed⟩
    induction needed with
    | historical member => exact assembled.kept _ member
    | override given looked =>
      rw [(lookup_ref loaded availableLoaded looked).1]
      exact known (all _ given) looked
    | dependency _ referenced looked ih =>
      rw [(lookup_ref loaded availableLoaded looked).1]
      exact known (assembled.closed _ _ ih _ referenced) looked

end Assembly

end Aep.ExecutionReplay
