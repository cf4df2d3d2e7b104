import Aep.GeneratedArtifacts.Publications

namespace Aep.GeneratedArtifacts

open RuntimeStore StateAction Machine.Discipline

abbrev Config : Type := Machine.Config Calls World PyError Outcome

abbrev Reaches (platform : Platform) (known : Bytes → Prop) (artifactId : String) : Config → Config → Prop :=
  (machine platform known artifactId).Reaches fun _ _ _ => True

/-- Nothing is stored for the artifact yet. It may have been claimed. -/
structure Unpublished (platform : Platform) (known : Bytes → Prop) (artifactId : String) (world : World) : Prop where
  sound : world.contents.Sound platform known
  record : world.records.get artifactId = none
  key : world.records.deterministicKeys.get? (artifactKey artifactId) = none

/-- What one published value means for the calls and the readers of an artifact from now on. -/
structure PublishedOnce (platform : Platform) (known : Bytes → Prop) (artifactId : String) (calls : Nat → ArtifactCall)
    (now : Config) : Prop where
  stays : ∀ record later, now.shared.visible artifactId = some record → Reaches platform known artifactId now later →
    later.shared.visible artifactId = some record
  readable : ∀ record, now.shared.visible artifactId = some record → ∃ content,
    now.shared.contentOf platform artifactId = .ok content ∧
      record.field "contentAddress" = .str (contentAddress platform content) ∧ Given platform calls record content
  returned : ∀ i metadata content value encoded record, calls i = .publish metadata content →
    prepare platform metadata content = .ok (value, encoded) → value.field "id" = .str artifactId →
    now.threads i = .ret (.published record) →
    now.shared.visible artifactId = some record ∧ (Json.obj record).pyEq (.obj value) = true ∧
      now.shared.contentOf platform artifactId = .ok encoded
  unprepared : ∀ i metadata content error, calls i = .publish metadata content →
    prepare platform metadata content = .error error → now.threads i = .raise error
  refused : ∀ i metadata content value encoded record stored, calls i = .publish metadata content →
    prepare platform metadata content = .ok (value, encoded) → value.field "id" = .str artifactId →
    now.shared.visible artifactId = some record → now.shared.contentOf platform artifactId = .ok stored →
    ((Json.obj record).pyEq (.obj value) = false ∨ encoded ≠ stored) →
    ∀ later, Reaches platform known artifactId now later → ∀ outcome, later.threads i ≠ .ret outcome
  reads : ∀ i record stored, now.threads i = (ArtifactCall.getContent artifactId).run platform →
    now.shared.visible artifactId = some record → now.shared.contentOf platform artifactId = .ok stored →
    ∀ later, Reaches platform known artifactId now later →
      (∀ outcome, later.threads i = .ret outcome → outcome = .content stored) ∧ ∀ error, later.threads i ≠ .raise error

section Runs

variable {platform : Platform} {known : Bytes → Prop} {artifactId : String} {calls : Nat → ArtifactCall}

theorem inv_unpublished {world : World} (fresh : Unpublished platform known artifactId world) :
    Inv platform known artifactId calls world where
  sound := fresh.sound
  keyed other keyed := by
    rw [fresh.key] at keyed
    cases keyed
  published record found := by
    rw [fresh.record] at found
    cases found

theorem Published.visible {world : World} {record : Record} (assumed : Assumed platform known)
    (published : Published platform artifactId calls world record) : world.visible artifactId = some record := by
  obtain ⟨encoded, ⟨_, _, _, -, prepared⟩, -⟩ := published.content
  simp [World.visible, ofArtifact, published.there, prepare_kind assumed prepared]

theorem Inv.visible {world : World} {record : Record} (inv : Inv platform known artifactId calls world)
    (seen : world.visible artifactId = some record) : Published platform artifactId calls world record :=
  inv.published record (Option.filter_eq_some_iff.mp seen).1

theorem addressOf_published {record : Record} {encoded : Bytes} (own : String)
    (address : record.field "contentAddress" = .str (contentAddress platform encoded)) :
    addressOf own (some record) = .ok (contentAddress platform encoded) := by
  simp [addressOf, Dict.get?_of_field address]

theorem contentOf_published {world : World} {record : Record} {encoded : Bytes}
    (seen : world.visible artifactId = some record)
    (address : record.field "contentAddress" = .str (contentAddress platform encoded))
    (stored : world.contents.Stores platform encoded) : world.contentOf platform artifactId = .ok encoded := by
  unfold World.contentOf
  rw [seen, addressOf_published artifactId address, Result.ok_bind, stored]
  rfl

theorem Inv.content {world : World} {record : Record} (assumed : Assumed platform known)
    (inv : Inv platform known artifactId calls world) (seen : world.visible artifactId = some record) :
    ∃ encoded, Given platform calls record encoded ∧ world.contents.Stores platform encoded ∧
      record.field "contentAddress" = .str (contentAddress platform encoded) ∧
      world.contentOf platform artifactId = .ok encoded := by
  obtain ⟨encoded, given, stored⟩ := (inv.visible seen).content
  have ⟨_, _, _, _, prepared⟩ := given
  exact ⟨encoded, given, stored, prepare_address prepared,
    contentOf_published seen (prepare_address prepared) stored⟩

section Calls

variable {assumed : Assumed platform known} {i : Nat}

def Reports (platform : Platform) (artifactId : String) (calls : Nat → ArtifactCall) (i : Nat) (outcome : Outcome)
    (world : World) : Prop :=
  ∀ metadata content, calls i = .publish metadata content → ∃ value encoded own record,
    prepare platform metadata content = .ok (value, encoded) ∧ value.field "id" = .str own ∧
      outcome = .published record ∧ Settled platform artifactId calls own value encoded record world

theorem Settled.rely {own : String} {value record : Record} {encoded : Bytes} {before after : World}
    (settled : Settled platform artifactId calls own value encoded record before)
    (rely : Rely platform artifactId before after) :
    Settled platform artifactId calls own value encoded record after := fun here =>
  have ⟨published, same, stored⟩ := settled here
  ⟨published.rely rely, same, rely.contents encoded stored⟩

def Post (platform : Platform) (artifactId : String) (calls : Nat → ArtifactCall) (i : Nat) (world : World)
    (result : Except PyError Outcome) : Prop :=
  returns (Reports platform artifactId calls i) result world

theorem post_stable (i : Nat) : (discipline assumed artifactId calls).Stable i (Post platform artifactId calls i) := by
  intro before after result told rely outcome returned metadata content called
  obtain ⟨value, encoded, own, record, prepared, id, same, settled⟩ := told outcome returned metadata content called
  exact ⟨value, encoded, own, record, prepared, id, same, settled.rely rely⟩

def isRead : Call → Prop
  | .write _ => False
  | _ => True

theorem only_getContent (own : String) : (getContent own).Only isRead := by
  refine Program.only_bind (Program.only_bind ⟨trivial, fun _ => trivial⟩ fun _ => trivial) fun metadata => ?_
  refine Program.only_bind (Program.only_liftExcept _) fun address => ?_
  exact Program.only_bind (ι := Calls) ⟨trivial, fun answer => Program.only_liftExcept answer⟩
    fun _ => Program.only_liftExcept _

theorem permitted_read {world : World} {call : Call} (reads : isRead call) :
    Permitted platform known calls world call := by
  cases call with
  | write change => cases reads
  | get | read => trivial

theorem triple_publish (allKnown : ∀ value encoded, Given platform calls value encoded → known encoded)
    {metadata : Json} {content : ArtifactContent} (called : calls i = .publish metadata content) :
    (discipline assumed artifactId calls).Triple i (fun _ => True) ((calls i).run platform)
      fun result world => Post platform artifactId calls i world result := by
  rw [called]
  refine Triple.bind (show (discipline assumed artifactId calls).Triple i (fun _ => True) _ fun result world =>
    ∀ record, result = .ok record → ∃ value encoded own, prepare platform metadata content = .ok (value, encoded) ∧
      value.field "id" = .str own ∧ Settled platform artifactId calls own value encoded record world from ?_)
    (fun record => ?_) ?_
  · unfold publish
    refine triple_lift_bind (fun _ _ _ _ _ result => by cases result) fun pair prepared => ?_
    obtain ⟨value, encoded⟩ := pair
    dsimp only
    split
    · rename_i own id
      exact (triple_publishValue ⟨i, metadata, content, called, prepared⟩ id allKnown).mono (fun _ _ => trivial)
        fun result world ended record returned => ⟨value, encoded, own, prepared, id, ended record returned⟩
    · exact triple_raise fun _ _ _ result => by cases result
  · refine triple_ret fun world told outcome returned other given publishes => ?_
    cases returned
    rw [called] at publishes
    cases publishes
    obtain ⟨value, encoded, own, prepared, id, settled⟩ := told record rfl
    exact ⟨value, encoded, own, record, prepared, id, rfl, settled⟩
  · exact fun error world _ outcome returned => by cases returned

theorem only_run {call : ArtifactCall} (reads : ∀ metadata content, call ≠ .publish metadata content) :
    (call.run platform).Only isRead := by
  cases call with
  | publish metadata content => exact absurd rfl (reads metadata content)
  | get own => exact Program.only_bind (Program.only_bind ⟨trivial, fun _ => trivial⟩ fun _ => trivial) fun _ => trivial
  | getContent own => exact Program.only_bind (only_getContent own) fun _ => trivial

theorem triple_run (allKnown : ∀ value encoded, Given platform calls value encoded → known encoded) :
    (discipline assumed artifactId calls).Triple i (fun _ => True) ((calls i).run platform)
      fun result world => Post platform artifactId calls i world result := by
  cases called : calls i with
  | publish metadata content =>
    rw [← called]
    exact triple_publish allKnown called
  | get | getContent =>
    refine (triple_only (fun _ _ _ _ => trivial) (fun _ _ reads _ => permitted_read reads) (fun _ _ _ _ _ _ _ _ => trivial)
      (only_run fun metadata content => by simp)).mono (fun _ holds => holds) fun result world _ => ?_
    intro outcome _ metadata content publishes
    rw [called] at publishes
    cases publishes

theorem triple_getContent {record : Record} {encoded : Bytes}
    (address : record.field "contentAddress" = .str (contentAddress platform encoded)) :
    (discipline assumed artifactId calls).Triple i
      (fun world => Published platform artifactId calls world record ∧ world.contents.Stores platform encoded)
      ((ArtifactCall.getContent artifactId).run platform) fun result _ => result = .ok (.content encoded) := by
  have reading : ∀ existing : Option Record, ofArtifact existing = some record →
      (discipline assumed artifactId calls).Triple i (fun world => world.contents.Stores platform encoded)
        (Outcome.content <$> do
          let address ← Program.liftExcept (addressOf artifactId (ofArtifact existing))
          let content ← .call (.read address) Program.liftExcept
          Program.liftExcept (foundContent artifactId address content)) fun result _ => result = .ok (.content encoded) := by
    intro existing seen
    rw [seen, addressOf_published artifactId address]
    refine triple_call (fun answer _ => answer = .ok (some encoded)) (fun _ _ stored rely => rely.contents encoded stored)
      (fun _ _ _ => trivial) (fun world answer after _ stored executed _ => ?_) fun answer world same => ?_
    · cases executed
      exact stored
    · subst same
      rfl
  refine triple_call (fun existing world => ofArtifact existing = some record ∧ world.contents.Stores platform encoded)
    (fun _ _ known rely => ⟨known.1.rely rely, rely.contents encoded known.2⟩) (fun _ _ _ => trivial)
    (fun world existing after _ known executed _ => ?_) fun existing world ⟨seen, stored⟩ =>
      reading existing seen world stored
  cases executed
  exact ⟨known.1.visible assumed, known.2⟩

def ReadPost (i : Nat) (stored : Bytes) (j : Nat) (_ : World) (result : Except PyError Outcome) : Prop :=
  j = i → result = .ok (.content stored)

theorem readPost_stable {stored : Bytes} (j : Nat) : (discipline assumed artifactId calls).Stable j (ReadPost i stored j) :=
  fun _ _ _ told _ => told

end Calls

section Now

variable {start now : Config} (assumed : Assumed platform known)
  (allKnown : ∀ value encoded, Given platform calls value encoded → known encoded)
  (fresh : Unpublished platform known artifactId start.shared) (runs : ∀ i, start.threads i = (calls i).run platform)
include assumed allKnown fresh runs

theorem holds_runs (reaches : Reaches platform known artifactId start now) :
    (discipline assumed artifactId calls).Holds (Post platform artifactId calls) now :=
  Holds.reaches post_stable ⟨inv_unpublished fresh, fun i => runs i ▸ triple_run allKnown start.shared trivial⟩ reaches

theorem visible_stays (reaches : Reaches platform known artifactId start now) {later : Config} {record : Record}
    (seen : now.shared.visible artifactId = some record) (on : Reaches platform known artifactId now later) :
    later.shared.visible artifactId = some record ∧ ∀ encoded, now.shared.contents.Stores platform encoded →
      later.shared.contents.Stores platform encoded := by
  have holds := holds_runs assumed allKnown fresh runs reaches
  have published := holds.1.visible seen
  have stays : Rely platform artifactId now.shared later.shared := by
    refine Holds.invariant post_stable holds (.refl _) ?_ ?_ on
    · intro i world call answer after inv permitted _ executed rely
      exact rely.trans (inv_exec assumed inv permitted executed).2
    · intro world after inv moved rely
      exact rely.trans (inv_foreign assumed inv moved).2
  exact ⟨(published.rely stays).visible assumed, stays.contents⟩

theorem published_once (reaches : Reaches platform known artifactId start now) :
    PublishedOnce platform known artifactId calls now := by
  have returned : ∀ {later : Config}, Reaches platform known artifactId start later →
      ∀ {i metadata content value encoded outcome}, calls i = .publish metadata content →
        prepare platform metadata content = .ok (value, encoded) → value.field "id" = .str artifactId →
        later.threads i = .ret outcome → ∃ record, outcome = .published record ∧
          later.shared.visible artifactId = some record ∧ (Json.obj record).pyEq (.obj value) = true ∧
          later.shared.contentOf platform artifactId = .ok encoded := by
    intro later there i metadata content value encoded outcome called prepared id ended
    have holds := holds_runs assumed allKnown fresh runs there
    have told := holds.2 i
    rw [ended] at told
    obtain ⟨other, theirs, own, record, again, named, rfl, settled⟩ := told outcome rfl metadata content called
    cases prepared.symm.trans again
    obtain rfl := Json.str.inj (named.symm.trans id)
    obtain ⟨published, same, stored⟩ := settled rfl
    have seen := published.visible assumed
    obtain ⟨kept, ⟨_, _, _, -, before⟩, -, address, content⟩ := holds.1.content assumed seen
    have addresses := Json.pyEq_field same "contentAddress"
    change Json.pyEq (record.field "contentAddress") (value.field "contentAddress") = true at addresses
    rw [prepare_address prepared, Json.pyEq_str] at addresses
    exact ⟨record, rfl, seen, same, contentOf_published seen addresses stored⟩
  have inv := (holds_runs assumed allKnown fresh runs reaches).1
  refine ⟨fun record later seen on => (visible_stays assumed allKnown fresh runs reaches seen on).1, fun record seen => ?_,
    fun i metadata content value encoded record called prepared id ended => ?_,
    fun i metadata content error called failed => ?_,
    fun i metadata content value encoded record stored called prepared id seen read different later on outcome ended => ?_,
    fun i record stored reading seen read later on => ?_⟩
  · obtain ⟨encoded, given, -, address, content⟩ := inv.content assumed seen
    exact ⟨encoded, content, address, given⟩
  · obtain ⟨other, same, found⟩ := returned reaches called prepared id ended
    cases same
    exact found
  · refine Machine.Reaches.ended reaches ?_ (fun op rest wrong => by cases wrong)
    rw [runs i, called]
    simp only [ArtifactCall.run, publish, failed]
    rfl
  · obtain ⟨other, -, nowSeen, same, content⟩ := returned (reaches.trans on) called prepared id ended
    obtain ⟨stays, contents⟩ := visible_stays assumed allKnown fresh runs reaches seen on
    cases stays.symm.trans nowSeen
    obtain ⟨kept, -, there, address, before⟩ := inv.content assumed seen
    cases before.symm.trans read
    cases (contentOf_published stays address (contents stored there)).symm.trans content
    rcases different with apart | apart
    · rw [same] at apart
      cases apart
    · exact apart rfl
  · obtain ⟨kept, -, there, address, before⟩ := inv.content assumed seen
    cases before.symm.trans read
    have holds := holds_runs assumed allKnown fresh runs reaches
    have reader : (discipline assumed artifactId calls).Holds (ReadPost i stored) now := by
      refine ⟨inv, fun j => ?_⟩
      by_cases here : j = i
      · subst here
        rw [reading]
        exact (triple_getContent address now.shared ⟨inv.visible seen, there⟩).mono fun _ _ ended _ => ended
      · exact (holds.2 j).mono fun _ _ _ same => absurd same here
    have ended := (Holds.reaches readPost_stable reader on).2 i
    refine ⟨fun outcome returned => ?_, fun error raised => ?_⟩
    · rw [returned] at ended
      exact Except.ok.inj (ended rfl)
    · rw [raised] at ended
      cases ended rfl

end Now

end Runs

section Sample

def sampleKnown (content : Bytes) : Prop := content = [97] ∨ content = [98]

def samplePlatform : Platform where
  uuid5 name := name
  sha256 text := text
  strip text := text
  isRfc3339Timestamp _ := true
  instant _ := none
  violation _ value := if value.field "kind" = .str "GeneratedArtifact" then none else some ("$.kind", "is not the kind")
  recursionLimit := 1000
  hexdigest content :=
    if content = [97] then "ca978112ca1bbdcafac231b39a23dc4da786eff8147c4e72b9807785afee48bb"
    else "3e23e8160039594a33894f6564e1b1348bbd7a0088d42c4acb73eeaed59c009d"
  canonicalText _ := ""

def sampleId : String := "generatedartifact-0123456789ab"

def sampleMetadata : Json := .obj [
  ("kind", .str "GeneratedArtifact"), ("id", .str sampleId), ("traceId", .str "trace-01"),
  ("createdAt", .str "2026-01-01T00:00:00Z"), ("taskExecutionId", .str "taskexecution-0123456789ab"),
  ("provenance", .obj [("workflowExecutionId", .str "workflowexecution-0123456789ab")])]

def sampleCalls (i : Nat) : ArtifactCall :=
  if i = 0 then .publish sampleMetadata (.bytes [97])
  else if i = 1 then .publish sampleMetadata (.bytes [98])
  else .getContent sampleId

def sampleStart : Config := ⟨⟨{}, .filesystem []⟩, fun i => (sampleCalls i).run samplePlatform⟩

theorem sample_assumed : Assumed samplePlatform sampleKnown where
  hex content := by
    unfold samplePlatform
    simp only
    split <;> decide +kernel
  free content other mine theirs same := by
    rcases mine with rfl | rfl <;> rcases theirs with rfl | rfl <;> first | rfl | exact absurd same (by decide +kernel)
  kind value valid := by
    unfold samplePlatform at valid
    simp only at valid
    split at valid
    · assumption
    · cases valid

theorem sample_known (value : Record) (encoded : Bytes) (given : Given samplePlatform sampleCalls value encoded) :
    sampleKnown encoded := by
  obtain ⟨i, metadata, content, called, prepared⟩ := given
  have encodes : encodeContent samplePlatform content = .ok encoded := by
    simp only [prepare, Result.bind_eq_ok, Result.pure_eq_ok] at prepared
    obtain ⟨given, -, other, encodes, _, -, _, -, _, -, result⟩ := prepared
    cases result
    exact encodes
  unfold sampleCalls at called
  split at called
  · cases called
    cases encodes
    exact .inl rfl
  · split at called
    · cases called
      cases encodes
      exact .inr rfl
    · cases called

theorem sample_unpublished : Unpublished samplePlatform sampleKnown sampleId sampleStart.shared where
  sound digest content _ found := by cases found
  record := rfl
  key := rfl

def respond (world : World) : (call : Call) → call.Answer × World
  | .get objectId => (world.records.get objectId, world)
  | .read address => (world.contents.get samplePlatform address, world)
  | .write change => world.write samplePlatform change

theorem exec_respond (world : World) (call : Call) :
    world.Exec samplePlatform call (respond world call).1 (respond world call).2 := by
  cases call with
  | get objectId => exact .get objectId
  | read address => exact .read address
  | write change => exact .write change

/-- The first call has claimed the artifact when the second one comes, and then publishes. -/
def sampleSchedule : List (Nat × Nat) := [(0, 2), (1, 2), (0, 3), (2, 2)]

def runSchedule : List (Nat × Nat) → Config → Config
  | [], config => config
  | (i, steps) :: rest, config =>
    let ran := Machine.advance respond steps config.shared (config.threads i)
    runSchedule rest ⟨ran.1, Function.update config.threads i ran.2⟩

theorem schedule_reaches (schedule : List (Nat × Nat)) (config : Config) :
    Reaches samplePlatform sampleKnown sampleId config (runSchedule schedule config) := by
  induction schedule generalizing config with
  | nil => exact .refl
  | cons turn rest ih =>
    refine Relation.ReflTransGen.trans ?_ (ih _)
    exact Machine.reaches_advance exec_respond turn.2 config
      (Machine.meetsAlong_of_forall (fun _ _ => trivial) _ _ _ _)

theorem published_once_raced :
    (runSchedule sampleSchedule sampleStart).shared.contentOf samplePlatform sampleId = .ok [97] ∧
      PublishedOnce samplePlatform sampleKnown sampleId sampleCalls (runSchedule sampleSchedule sampleStart) :=
  ⟨by decide +kernel, published_once sample_assumed sample_known sample_unpublished (fun _ => rfl)
    (schedule_reaches sampleSchedule sampleStart)⟩

end Sample

end Aep.GeneratedArtifacts
