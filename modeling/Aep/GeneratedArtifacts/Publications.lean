import Aep.GeneratedArtifacts.ArtifactStore
import Aep.Library.RelyGuarantee
import Aep.RuntimeStore.Steps

namespace Aep.GeneratedArtifacts

open RuntimeStore StateAction Machine.Discipline

/-- One call of the store, and what it returns. -/
inductive ArtifactCall where
  | publish (metadata : Json) (content : ArtifactContent)
  | get (artifactId : String)
  | getContent (artifactId : String)

inductive Outcome where
  | published (metadata : Record)
  | found (metadata : Option Record)
  | content (content : Bytes)
  deriving DecidableEq

def ArtifactCall.run (platform : Platform) : ArtifactCall → Prog Outcome
  | .publish metadata content => Outcome.published <$> GeneratedArtifacts.publish platform metadata content
  | .get artifactId => Outcome.found <$> GeneratedArtifacts.get artifactId
  | .getContent artifactId => Outcome.content <$> GeneratedArtifacts.getContent artifactId

structure World where
  records : Store
  contents : ContentStore

namespace World

variable (platform : Platform)

def write (world : World) : (change : Write) → Except PyError change.Result × World
  | .claim key value =>
    let ran := RuntimeStore.claim key (.obj value) world.records
    (ran.1, { world with records := ran.2 })
  | .put content expectedAddress =>
    let ran := world.contents.put platform content (some expectedAddress)
    (ran.1, { world with contents := ran.2 })
  | .create value key =>
    let ran := RuntimeStore.create (.obj value) key world.records
    (ran.1, { world with records := ran.2 })

/-- How a call is carried out in one step. One that writes may also fail, before it wrote or after. -/
inductive Exec (world : World) : (call : Call) → call.Answer → World → Prop where
  | get (objectId : String) : Exec world (.get objectId) (world.records.get objectId) world
  | read (address : String) : Exec world (.read address) (world.contents.get platform address) world
  | write (change : Write) : Exec world (.write change) (world.write platform change).1 (world.write platform change).2
  | failed (change : Write) (error : PyError) : Exec world (.write change) (.error error) world
  | lost (change : Write) (error : PyError) : Exec world (.write change) (.error error) (world.write platform change).2

/-- What all else does to the stores: it leaves the record and the key of the artifact alone. -/
inductive Foreign (known : Bytes → Prop) (artifactId : String) (world : World) : World → Prop where
  | records {records : Store} (record : records.get artifactId = world.records.get artifactId)
      (key : records.deterministicKeys.get? (artifactKey artifactId) =
        world.records.deterministicKeys.get? (artifactKey artifactId)) :
      Foreign known artifactId world { world with records }
  | put {content : Bytes} (expectedAddress : Option String) (mine : known content) :
      Foreign known artifactId world { world with contents := (world.contents.put platform content expectedAddress).2 }

def visible (artifactId : String) (world : World) : Option Record := ofArtifact (world.records.get artifactId)

def contentOf (artifactId : String) (world : World) : Except PyError Bytes := do
  let address ← addressOf artifactId (world.visible artifactId)
  let content ← world.contents.get platform address
  foundContent artifactId address content

end World

def machine (platform : Platform) (known : Bytes → Prop) (artifactId : String) : Machine Calls World :=
  ⟨fun _ world call answer after => world.Exec platform call answer after, World.Foreign platform known artifactId⟩

/-- The digests are ones of SHA-256, no two of the known contents have the same, and the schema fixes the kind. -/
structure Assumed (platform : Platform) (known : Bytes → Prop) : Prop where
  hex : Hexadecimal platform
  free : CollisionFree platform known
  kind : ∀ value, platform.violation "generatedartifact.schema.json" value = none →
    value.field "kind" = .str "GeneratedArtifact"

section Prepared

variable {platform : Platform} {known : Bytes → Prop} {metadata : Json} {content : ArtifactContent} {value : Record}
  {encoded : Bytes}

theorem addressed_address (encoded : Bytes) (metadata : Record) :
    (addressed platform encoded metadata).field "contentAddress" = .str (contentAddress platform encoded) := by
  refine Dict.field_of_get? ?_
  simp only [addressed]
  split <;> simp [Dict.get?_setDefault]

theorem prepare_address (prepared : prepare platform metadata content = .ok (value, encoded)) :
    value.field "contentAddress" = .str (contentAddress platform encoded) := by
  simp only [prepare, Result.bind_eq_ok, Result.pure_eq_ok] at prepared
  obtain ⟨given, -, other, -, _, -, _, -, _, -, result⟩ := prepared
  cases result
  exact addressed_address _ _

theorem prepare_kind (assumed : Assumed platform known) (prepared : prepare platform metadata content = .ok (value, encoded)) :
    value.field "kind" = .str "GeneratedArtifact" := by
  simp only [prepare, Result.bind_eq_ok, Result.pure_eq_ok] at prepared
  obtain ⟨given, -, other, -, _, -, _, -, _, valid, result⟩ := prepared
  cases result
  refine assumed.kind _ ?_
  unfold validateMetadata WorkflowScheduler.validated at valid
  split at valid
  · rename_i none
    exact none
  · cases valid

end Prepared

section Invariant

variable (platform : Platform) (known : Bytes → Prop) (artifactId : String) (calls : Nat → ArtifactCall)

def Given (value : Record) (encoded : Bytes) : Prop :=
  ∃ i metadata content, calls i = .publish metadata content ∧ prepare platform metadata content = .ok (value, encoded)

/-- The record of the artifact is what a call was given, and so is the stored content. -/
structure Published (world : World) (record : Record) : Prop where
  there : world.records.get artifactId = some record
  content : ∃ encoded, Given platform calls record encoded ∧ world.contents.Stores platform encoded

structure Inv (world : World) : Prop where
  sound : world.contents.Sound platform known
  keyed : ∀ other, world.records.deterministicKeys.get? (artifactKey artifactId) = some other → other = artifactId
  published : ∀ record, world.records.get artifactId = some record → Published platform artifactId calls world record

structure Rely (before after : World) : Prop where
  record : ∀ record, before.records.get artifactId = some record → after.records.get artifactId = some record
  contents : ∀ content, before.contents.Stores platform content → after.contents.Stores platform content

/-- A content is put only if it is known, and a record is created only when its content is stored. -/
def Permitted (world : World) : Call → Prop
  | .write (.put content _) => known content
  | .write (.create value key) => ∃ encoded own, Given platform calls value encoded ∧ value.field "id" = .str own ∧
      key = artifactKey own ∧ world.contents.Stores platform encoded
  | _ => True

variable {platform known artifactId calls} {world before after : World}

theorem Rely.refl (world : World) : Rely platform artifactId world world := ⟨fun _ found => found, fun _ stored => stored⟩

theorem Rely.trans (first : Rely platform artifactId before world) (second : Rely platform artifactId world after) :
    Rely platform artifactId before after :=
  ⟨fun record found => second.record record (first.record record found),
    fun content stored => second.contents content (first.contents content stored)⟩

theorem Published.rely {record : Record} (published : Published platform artifactId calls before record)
    (rely : Rely platform artifactId before after) : Published platform artifactId calls after record := by
  obtain ⟨encoded, given, stored⟩ := published.content
  exact ⟨rely.record record published.there, encoded, given, rely.contents encoded stored⟩

theorem Inv.kept (inv : Inv platform known artifactId calls before)
    (record : after.records.get artifactId = before.records.get artifactId)
    (key : after.records.deterministicKeys.get? (artifactKey artifactId) =
      before.records.deterministicKeys.get? (artifactKey artifactId))
    (sound : after.contents.Sound platform known)
    (contents : ∀ content, before.contents.Stores platform content → after.contents.Stores platform content) :
    Inv platform known artifactId calls after ∧ Rely platform artifactId before after := by
  have rely : Rely platform artifactId before after := ⟨fun _ found => record.trans found, contents⟩
  exact ⟨⟨sound, fun other keyed => inv.keyed other (key ▸ keyed),
    fun value found => (inv.published value (record ▸ found)).rely rely⟩, rely⟩

theorem Inv.put (assumed : Assumed platform known) (inv : Inv platform known artifactId calls world) {content : Bytes}
    (mine : known content) (expectedAddress : Option String) :
    let next : World := { world with contents := (world.contents.put platform content expectedAddress).2 }
    Inv platform known artifactId calls next ∧ Rely platform artifactId world next := by
  intro next
  rcases ContentStore.put_cases assumed.hex content expectedAddress world.contents with
    ⟨error, ran⟩ | ⟨contents, ran, holding⟩
  · have same : next.contents = world.contents := congrArg Prod.snd ran
    exact inv.kept rfl rfl (same ▸ inv.sound) fun _ stored => same ▸ stored
  · have same : next.contents = contents := congrArg Prod.snd ran
    exact inv.kept rfl rfl (same ▸ holding.sound known mine inv.sound)
      fun _ stored => same ▸ holding.keeps assumed.hex assumed.free inv.sound mine stored

theorem artifactKey_inj {own other : String} : artifactKey own = artifactKey other ↔ own = other :=
  String.append_right_inj _

theorem objectId_of_id {value : Record} {own : String} (id : value.field "id" = .str own) : objectId value = own := by
  simp [objectId, id]

theorem Inv.create (inv : Inv platform known artifactId calls world) {value : Record} {encoded : Bytes} {own : String}
    (given : Given platform calls value encoded) (id : value.field "id" = .str own)
    (stored : world.contents.Stores platform encoded) :
    let next : World := { world with records := (RuntimeStore.create (.obj value) (artifactKey own) world.records).2 }
    Inv platform known artifactId calls next ∧ Rely platform artifactId world next := by
  intro next
  rcases create_step value (artifactKey own) world.records with ⟨same, -⟩ | ⟨-, added, -, -⟩
  · exact inv.kept (congrArg (·.get artifactId) same) (congrArg (fun store : Store => store.deterministicKeys.get? _) same)
      inv.sound
      fun _ stored => stored
  · have named := objectId_of_id id
    by_cases mine : own = artifactId
    · subst mine
      have nothing : world.records.get own = none := named ▸ added.fresh
      have there : next.records.get own = some value := by
        rw [added.get, if_pos named]
      refine ⟨⟨inv.sound, fun other keyed => ?_, fun record found => ?_⟩, fun record found => ?_, fun _ stored => stored⟩
      · rw [added.keys, if_pos rfl, named] at keyed
        exact (Option.some.inj keyed).symm
      · obtain rfl := Option.some.inj (there.symm.trans found)
        exact ⟨there, encoded, given, stored⟩
      · rw [nothing] at found
        cases found
    · refine inv.kept ?_ ?_ inv.sound fun _ stored => stored
      · rw [added.get, if_neg (named ▸ mine)]
      · rw [added.keys, if_neg (fun same => mine (artifactKey_inj.mp same))]

theorem Inv.write (assumed : Assumed platform known) (inv : Inv platform known artifactId calls world) {change : Write}
    (permitted : Permitted platform known calls world (.write change)) :
    Inv platform known artifactId calls (world.write platform change).2 ∧
      Rely platform artifactId world (world.write platform change).2 := by
  cases change with
  | claim key value =>
    have same := claim_same key (.obj value) world.records
    exact inv.kept (same.get artifactId) (congrArg (Dict.get? · _) same.keys) inv.sound fun _ stored => stored
  | put content expectedAddress => exact inv.put assumed permitted _
  | create value key =>
    obtain ⟨encoded, own, given, id, rfl, stored⟩ := permitted
    exact inv.create given id stored

theorem inv_exec (assumed : Assumed platform known) (inv : Inv platform known artifactId calls world) {call : Call}
    {answer : call.Answer} (permitted : Permitted platform known calls world call)
    (executed : world.Exec platform call answer after) :
    Inv platform known artifactId calls after ∧ Rely platform artifactId world after := by
  cases executed with
  | get | read | failed => exact ⟨inv, .refl _⟩
  | write | lost => exact inv.write assumed permitted

theorem inv_foreign (assumed : Assumed platform known) (inv : Inv platform known artifactId calls world)
    (moved : world.Foreign platform known artifactId after) :
    Inv platform known artifactId calls after ∧ Rely platform artifactId world after := by
  cases moved with
  | records record key => exact inv.kept record key inv.sound fun _ stored => stored
  | put expectedAddress mine => exact inv.put assumed mine expectedAddress

end Invariant

def discipline {platform : Platform} {known : Bytes → Prop} (assumed : Assumed platform known) (artifactId : String)
    (calls : Nat → ArtifactCall) : (machine platform known artifactId).Discipline where
  invariant := Inv platform known artifactId calls
  permitted _ := Permitted platform known calls
  rely _ := Rely platform artifactId
  rely_refl _ := .refl
  rely_trans := .trans
  invariant_exec inv permitted executed := (inv_exec assumed inv permitted executed).1
  invariant_foreign inv moved := (inv_foreign assumed inv moved).1
  rely_exec _ inv permitted executed := (inv_exec assumed inv permitted executed).2
  rely_foreign inv moved := (inv_foreign assumed inv moved).2

section Triples

variable {platform : Platform} {known : Bytes → Prop} {assumed : Assumed platform known} {artifactId : String}
  {calls : Nat → ArtifactCall} {i : Nat}

/-- What a publication may return: the record of the artifact, equal to its own value, with its own content stored. -/
def Settled (platform : Platform) (artifactId : String) (calls : Nat → ArtifactCall) (own : String) (value : Record)
    (encoded : Bytes) (returned : Record) (world : World) : Prop :=
  own = artifactId → Published platform artifactId calls world returned ∧
    (Json.obj returned).pyEq (.obj value) = true ∧ world.contents.Stores platform encoded

def Found (platform : Platform) (artifactId : String) (calls : Nat → ArtifactCall) (own : String) (record : Record)
    (world : World) : Prop :=
  own = artifactId → Published platform artifactId calls world record

def Answers (platform : Platform) (artifactId : String) (calls : Nat → ArtifactCall) (own : String)
    (existing : Option Record) (world : World) : Prop :=
  ∀ record, existing = some record → Found platform artifactId calls own record world

theorem triple_lookUp (own : String) : (discipline assumed artifactId calls).Triple i (fun _ => True) (lookUp own)
    (returns (Answers platform artifactId calls own)) := by
  refine triple_call (Answers platform artifactId calls own) (fun _ _ _ _ => trivial) (fun _ _ _ => trivial)
    (fun world answer after inv _ executed _ => ?_)
    fun existing => triple_ret fun _ found value same => Except.ok.inj same ▸ found
  cases executed
  rintro record found rfl
  exact inv.published record found

theorem triple_perform {change : Write} {pre : World → Prop} {info : change.Result → World → Prop}
    (stable : ∀ before after, pre before → Rely platform artifactId before after → pre after)
    (permitted : ∀ world, pre world → Permitted platform known calls world (.write change))
    (effect : ∀ world value, Inv platform known artifactId calls world → pre world →
      (world.write platform change).1 = .ok value → Inv platform known artifactId calls (world.write platform change).2 →
      info value (world.write platform change).2) :
    (discipline assumed artifactId calls).Triple i pre (perform change) (returns info) := by
  refine triple_call (fun answer world => ∀ value, answer = .ok value → info value world) stable
    (fun world _ holds => permitted world holds) (fun world answer after inv holds executed kept => ?_)
    fun answer => triple_liftExcept fun world told value returned => told value returned
  cases executed with
  | write => exact fun value returned => effect world value inv holds returned kept
  | failed | lost => exact fun value returned => by cases returned

section Own

variable {own : String} {value : Record} {encoded : Bytes} (given : Given platform calls value encoded)
  (id : value.field "id" = .str own)
  (allKnown : ∀ value encoded, Given platform calls value encoded → known encoded)

include given allKnown in
theorem triple_settle (existing : Record) : (discipline assumed artifactId calls).Triple i
    (Found platform artifactId calls own existing) (settle own value existing)
    (returns (Settled platform artifactId calls own value encoded)) := by
  unfold settle
  split
  · rename_i same
    refine triple_ret fun world found returned result here => ?_
    cases result
    have published := found here
    obtain ⟨other, theirs, stored⟩ := published.content
    have ⟨_, _, _, _, prepared⟩ := theirs
    have ⟨_, _, _, _, preparedHere⟩ := given
    have addresses := Json.pyEq_field same "contentAddress"
    change Json.pyEq (existing.field "contentAddress") (value.field "contentAddress") = true at addresses
    rw [prepare_address prepared, prepare_address preparedHere, Json.pyEq_str] at addresses
    have contents : other = encoded := assumed.free _ _ (allKnown _ _ theirs) (allKnown _ _ given)
      (contentAddress_inj.mp (Json.str.inj addresses))
    exact ⟨published, same, contents ▸ stored⟩
  · exact triple_raise fun _ _ _ result => by cases result

include given allKnown id in
theorem triple_storeContent : (discipline assumed artifactId calls).Triple i (fun _ => True)
    (storeContent own value platform encoded)
    (returns (Settled platform artifactId calls own value encoded)) := by
  have putting : (discipline assumed artifactId calls).Triple i (fun _ => True)
      (perform (.put encoded (contentAddress platform encoded)))
      (returns fun _ world => world.contents.Stores platform encoded) := by
    refine triple_perform (fun _ _ _ _ => trivial) (fun _ _ => allKnown _ _ given) fun world address inv _ returned _ => ?_
    rcases ContentStore.put_cases assumed.hex encoded (some (contentAddress platform encoded)) world.contents with
      ⟨error, ran⟩ | ⟨contents, ran, holding⟩
    · cases (congrArg Prod.fst ran).symm.trans returned
    · have same : (world.contents.put platform encoded (some (contentAddress platform encoded))).2 = contents :=
        congrArg Prod.snd ran
      exact (same ▸ holding.stores assumed.hex assumed.free inv.sound (allKnown _ _ given) :
        (world.contents.put platform encoded (some (contentAddress platform encoded))).2.Stores platform encoded)
  have creating : (discipline assumed artifactId calls).Triple i (fun world => world.contents.Stores platform encoded)
      (perform (.create value (artifactKey own))) (returns (Found platform artifactId calls own)) := by
    refine triple_perform (fun _ _ stored rely => rely.contents encoded stored)
      (fun world stored => ⟨encoded, own, given, id, rfl, stored⟩) fun world created inv _ returned kept here => ?_
    refine kept.published created ?_
    rcases create_step value (artifactKey own) world.records with ⟨same, told⟩ | ⟨fresh, added, -, -⟩
    · obtain ⟨other, keyed, found⟩ := told created returned
      obtain rfl := inv.keyed other (here ▸ keyed)
      change (RuntimeStore.create (.obj value) (artifactKey own) world.records).2.get _ = _
      rw [same, found]
    · cases fresh.symm.trans returned
      change (RuntimeStore.create (.obj value) (artifactKey own) world.records).2.get _ = _
      rw [added.get, if_pos ((objectId_of_id id).trans here)]
  unfold storeContent
  refine Triple.bind putting (fun _ => ?_) fun _ _ _ _ result => by cases result
  refine (Triple.bind creating (fun created => ?_) fun _ _ _ _ result => by cases result).mono
    (fun world told => told _ rfl) fun _ _ ended => ended
  exact (triple_settle given allKnown created).mono (fun world told => told created rfl) fun _ _ ended => ended

theorem triple_settleOr {otherwise : Prog Record} (existing : Option Record)
    (settles : ∀ record, (discipline assumed artifactId calls).Triple i (Found platform artifactId calls own record)
      (settle own value record) (returns (Settled platform artifactId calls own value encoded)))
    (fresh : (discipline assumed artifactId calls).Triple i (fun _ => True) otherwise
      (returns (Settled platform artifactId calls own value encoded))) :
    (discipline assumed artifactId calls).Triple i (Answers platform artifactId calls own existing)
      (settleOr own value existing otherwise) (returns (Settled platform artifactId calls own value encoded)) := by
  cases existing with
  | some record => exact (settles record).mono (fun world found => found record rfl) fun _ _ ended => ended
  | none => exact fresh.mono (fun _ _ => trivial) fun _ _ ended => ended

theorem triple_lookThen {otherwise : Prog Record}
    (settles : ∀ record, (discipline assumed artifactId calls).Triple i (Found platform artifactId calls own record)
      (settle own value record) (returns (Settled platform artifactId calls own value encoded)))
    (fresh : (discipline assumed artifactId calls).Triple i (fun _ => True) otherwise
      (returns (Settled platform artifactId calls own value encoded))) :
    (discipline assumed artifactId calls).Triple i (fun _ => True)
      (lookUp own >>= fun existing => settleOr own value existing otherwise)
      (returns (Settled platform artifactId calls own value encoded)) :=
  Triple.bind (triple_lookUp own)
    (fun existing => (triple_settleOr existing settles fresh).mono (fun _ told => told existing rfl) fun _ _ ended => ended)
    fun _ _ _ _ result => by cases result

include given allKnown id in
theorem triple_publishValue : (discipline assumed artifactId calls).Triple i (fun _ => True)
    (publishValue own value platform encoded) (returns (Settled platform artifactId calls own value encoded)) := by
  have settles : ∀ record, (discipline assumed artifactId calls).Triple i
      (Found platform artifactId calls own record) (settle own value record)
      (returns (Settled platform artifactId calls own value encoded)) := triple_settle given allKnown
  have claiming : (discipline assumed artifactId calls).Triple i (fun _ => True)
      (perform (.claim (publicationKey own) value)) (returns fun _ _ => True) :=
    triple_perform (fun _ _ _ _ => trivial) (fun _ _ => trivial) fun _ _ _ _ _ _ => trivial
  refine triple_lookThen settles ?_
  unfold claimed
  refine Triple.bind claiming (fun (_, existing) => ?_) fun _ _ _ _ result => by cases result
  simp only
  split
  · exact (triple_lookThen settles (triple_storeContent given id allKnown)).mono (fun _ _ => trivial)
      fun _ _ ended => ended
  · exact triple_raise fun _ _ _ result => by cases result

end Own

end Triples

end Aep.GeneratedArtifacts
