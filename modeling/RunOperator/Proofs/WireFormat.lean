import RunOperator.Proofs.Members
import RunOperator.Proofs.MetadataTimes
import RunOperator.Run.Codec

/-!
# The written form of a run

Writing a run is a normal form: what was read, in whatever spelling, is written in one way, and this
is read as the same run with its metadata times cut to the second (`Run.read_written_form`).
-/

namespace RunOperator

open Json

/-! ### Selectors -/

/-- A written requirement is read back. -/
theorem SelectorRequirement.ofJson?_toJson (r : SelectorRequirement) :
    ofJson? r.toJson = some r := by
  unfold ofJson? toJson
  rw [members?, Option.bind_eq_bind, Option.bind_some]
  refine bind_text r.key (by simp) ?_
  refine bind_text r.operator (by simp) ?_
  refine bind_written r.values (by simp) (fun texts _ => readsAs_ofTextList texts) ?_
  rfl

/-- A written selector is read back. -/
theorem LabelSelector.ofJson?_toJson (s : LabelSelector) : ofJson? s.toJson = some s := by
  unfold ofJson? toJson
  rw [members?, Option.bind_eq_bind, Option.bind_some]
  refine bind_written s.matchExpressions (by simp)
    (fun rs _ => readsAs_items fun r _ => r.ofJson?_toJson) ?_
  refine bind_written s.matchLabels (by simp) (fun texts _ => readsAs_ofTexts texts) ?_
  rfl

/-! ### Specs -/

/-- The number of pods has 32 bits. -/
def RunSpec.PodCountFits (s : RunSpec) : Prop :=
  ∀ n ∈ s.podCount, -2147483648 ≤ n ∧ n ≤ 2147483647

/-- A spec is read as it was written. -/
theorem RunSpec.ofJson?_toJson {s : RunSpec} (hcount : s.PodCountFits) :
    ofJson? s.toJson = some s := by
  unfold ofJson? toJson
  rw [members?, Option.bind_eq_bind, Option.bind_some]
  refine bind_written s.name (by simp) (fun text _ => readsAs_string text) ?_
  refine bind_written s.experimentName (by simp) (fun text _ => readsAs_string text) ?_
  refine bind_written s.parameters (by simp) (fun texts _ => readsAs_ofTextList texts) ?_
  refine bind_written s.podCount (by simp) (fun n hn => readsAs_ofInt (hcount n hn)) ?_
  refine bind_written s.podSelector (by simp)
    (fun selector _ => ⟨Json.noConfusion, selector.ofJson?_toJson⟩) ?_
  refine bind_written s.metrics (by simp) (fun ms _ => readsAs_object ms) ?_
  refine bind_written s.state (by simp) (fun text _ => readsAs_string text) ?_
  refine bind_written s.startTime (by simp) (fun text _ => readsAs_string text) ?_
  refine bind_written s.endTime (by simp) (fun text _ => readsAs_string text) ?_
  rfl

/-- Each field of a spec is read from the member of its name. -/
structure RunSpec.ReadFrom (s : RunSpec) (ms : List (String × Json)) : Prop where
  name : optional ms "name" text? = some s.name
  experimentName : optional ms "experiment-name" text? = some s.experimentName
  parameters : optional ms "parameters" (readItems text?) = some s.parameters
  podCount : optional ms "pod-count" readInt32 = some s.podCount
  podSelector : optional ms "pod-selector" LabelSelector.ofJson? = some s.podSelector
  metrics : optional ms "metrics" Json.members? = some s.metrics
  state : optional ms "state" text? = some s.state
  startTime : optional ms "start-time" text? = some s.startTime
  endTime : optional ms "end-time" text? = some s.endTime

/-- A specification that is read was read from the members of an object. -/
theorem RunSpec.exists_readFrom {v : Json} :
    ∀ s, ofJson? v = some s → ∃ ms, members? v = some ms ∧ s.ReadFrom ms := by
  unfold ofJson?
  refine of_bind fun ms hms => of_bind fun _ hname => of_bind fun _ hexperiment =>
    of_bind fun _ hparameters => of_bind fun _ hcount => of_bind fun _ hselector =>
    of_bind fun _ hmetrics => of_bind fun _ hstate => of_bind fun _ hstart =>
    of_bind fun _ hend => ?_
  rintro s ⟨⟩
  exact ⟨ms, hms, hname, hexperiment, hparameters, hcount, hselector, hmetrics, hstate, hstart,
    hend⟩

/-- The number of pods that was read is one that can be written. -/
theorem RunSpec.podCountFits_of_ofJson? {v : Json} {s : RunSpec} (h : ofJson? v = some s) :
    s.PodCountFits := by
  obtain ⟨ms, -, hread⟩ := exists_readFrom s h
  intro n hn
  obtain ⟨v, -, hcount⟩ := optional_eq_some_iff.1 (hread.podCount.trans (congrArg some hn))
  exact (readInt_eq_some.1 hcount.read_eq).2

/-! ### Metadata -/

/-- A written owner is read back. -/
theorem OwnerReference.ofJson?_toJson (r : OwnerReference) : ofJson? r.toJson = some r := by
  unfold ofJson? toJson
  rw [members?, Option.bind_eq_bind, Option.bind_some]
  refine bind_text r.apiVersion (by simp) ?_
  refine bind_written r.blockOwnerDeletion (by simp) (fun b _ => readsAs_bool b) ?_
  refine bind_written r.controller (by simp) (fun b _ => readsAs_bool b) ?_
  refine bind_text r.kind (by simp) ?_
  refine bind_text r.name (by simp) ?_
  refine bind_text r.uid (by simp) ?_
  rfl

private theorem readTime_ofTime (t : Instant) :
    readTime (ofTime t) = Instant.parseRelaxed? t.format := by
  rw [readTime, ofTime, text?, Option.bind_some]

/-- A time is read to the second. -/
theorem readsAs_ofTime {t : Instant} (hyear : t.HasPlainYear) (hproper : t.IsProper) :
    ReadsAs readTime (ofTime t) t.truncate :=
  ⟨Json.noConfusion, (readTime_ofTime t).trans (Instant.parseRelaxed?_format hyear hproper)⟩

/-- A time is written to the second. -/
theorem ofTime_truncate (t : Instant) : ofTime t.truncate = ofTime t :=
  congrArg Json.string t.format_truncate

/-- A time that was read is one of the calendar. -/
theorem isProper_of_readTime {v : Json} {t : Instant} (h : readTime v = some t) : t.IsProper := by
  obtain ⟨text, -, hparse⟩ := Option.bind_eq_some_iff.1 h
  exact Instant.isProper_of_parseRelaxed? t hparse

namespace ManagedFields

/-- The entry with its time to the second. -/
def truncate (f : ManagedFields) : ManagedFields := { f with time := f.time.map Instant.truncate }

/-- The entry is written so that it can be read again. -/
structure Legible (f : ManagedFields) : Prop where
  fields : f.fields ≠ some .null
  proper : ∀ t ∈ f.time, t.IsProper

/-- Managed fields that were read can be written. -/
theorem legible_of_ofJson? {v : Json} : ∀ f, ofJson? v = some f → f.Legible := by
  unfold ofJson?
  refine of_bind fun ms _ => of_bind fun _ _ => of_bind fun _ _ => of_bind fun fields hfields =>
    of_bind fun _ _ => of_bind fun _ _ => of_bind fun _ _ => of_bind fun time htime => ?_
  rintro f ⟨⟩
  refine ⟨?_, ?_⟩
  · rintro rfl
    obtain ⟨v, -, hread⟩ := optional_eq_some_iff.1 hfields
    exact hread.ne_null (Option.some.inj hread.read_eq)
  · rintro t rfl
    obtain ⟨v, -, hread⟩ := optional_eq_some_iff.1 htime
    exact isProper_of_readTime hread.read_eq

/-- Managed fields that are written are read back, with their time to the second. -/
theorem ofJson?_toJson {f : ManagedFields} (hlegible : f.Legible)
    (hyear : ∀ t ∈ f.time, t.HasPlainYear) : ofJson? f.toJson = some f.truncate := by
  unfold ofJson? toJson
  rw [members?, Option.bind_eq_bind, Option.bind_some]
  refine bind_written f.apiVersion (by simp) (fun text _ => readsAs_string text) ?_
  refine bind_written f.fieldsType (by simp) (fun text _ => readsAs_string text) ?_
  refine bind_written f.fields (by simp)
    (fun v hv => ⟨fun hnull => hlegible.fields (hnull ▸ hv), rfl⟩) ?_
  refine bind_written f.manager (by simp) (fun text _ => readsAs_string text) ?_
  refine bind_written f.operation (by simp) (fun text _ => readsAs_string text) ?_
  refine bind_written f.subresource (by simp) (fun text _ => readsAs_string text) ?_
  refine bind_changed f.time (by simp)
    (fun t ht => readsAs_ofTime (hyear t ht) (hlegible.proper t ht)) ?_
  rfl

/-- Managed fields are written with their time to the second. -/
theorem toJson_truncate (f : ManagedFields) : f.truncate.toJson = f.toJson := by
  rw [toJson, toJson, truncate, written?_map fun t _ => ofTime_truncate t]

end ManagedFields

namespace Metadata

/-- The times in the metadata. -/
def times (m : Metadata) : List Instant :=
  m.creationTimestamp.toList ++ m.deletionTimestamp.toList ++
    (m.managedFields.getD []).filterMap (·.time)

/-- The metadata with its times to the second. -/
def truncate (m : Metadata) : Metadata :=
  { m with
    creationTimestamp := m.creationTimestamp.map Instant.truncate
    deletionTimestamp := m.deletionTimestamp.map Instant.truncate
    managedFields := m.managedFields.map fun fs => fs.map ManagedFields.truncate }

/-- A number has 64 bits. -/
def Int64Fits (n : Int) : Prop := -9223372036854775808 ≤ n ∧ n ≤ 9223372036854775807

/-- The metadata are written so that they can be read again. -/
structure Legible (m : Metadata) : Prop where
  creation : ∀ t ∈ m.creationTimestamp, t.IsProper
  deletion : ∀ t ∈ m.deletionTimestamp, t.IsProper
  gracePeriod : ∀ n ∈ m.deletionGracePeriodSeconds, Int64Fits n
  generation : ∀ n ∈ m.generation, Int64Fits n
  managedFields : ∀ fs ∈ m.managedFields, ∀ f ∈ fs, f.Legible

/-- Metadata that was read can be written. -/
theorem legible_of_ofJson? {v : Json} : ∀ m, ofJson? v = some m → m.Legible := by
  unfold ofJson?
  refine of_bind fun ms _ => of_bind fun _ _ => of_bind fun creation hcreation =>
    of_bind fun gracePeriod hgracePeriod => of_bind fun deletion hdeletion =>
    of_bind fun _ _ => of_bind fun _ _ => of_bind fun generation hgeneration =>
    of_bind fun _ _ => of_bind fun managedFields hmanagedFields => of_bind fun _ _ =>
    of_bind fun _ _ => of_bind fun _ _ => of_bind fun _ _ => of_bind fun _ _ =>
    of_bind fun _ _ => ?_
  rintro m ⟨⟩
  constructor
  · rintro t rfl
    obtain ⟨v, -, hread⟩ := optional_eq_some_iff.1 hcreation
    exact isProper_of_readTime hread.read_eq
  · rintro t rfl
    obtain ⟨v, -, hread⟩ := optional_eq_some_iff.1 hdeletion
    exact isProper_of_readTime hread.read_eq
  · rintro n rfl
    obtain ⟨v, -, hread⟩ := optional_eq_some_iff.1 hgracePeriod
    exact (readInt_eq_some.1 hread.read_eq).2
  · rintro n rfl
    obtain ⟨v, -, hread⟩ := optional_eq_some_iff.1 hgeneration
    exact (readInt_eq_some.1 hread.read_eq).2
  · rintro fs rfl
    obtain ⟨v, -, hread⟩ := optional_eq_some_iff.1 hmanagedFields
    exact forall_of_readItems (fun _ => ManagedFields.legible_of_ofJson?) hread.read_eq

/-- Metadata are read to the second. -/
theorem ofJson?_toJson {m : Metadata} (hlegible : m.Legible)
    (hyears : ∀ t ∈ m.times, t.HasPlainYear) : ofJson? m.toJson = some m.truncate := by
  have hcreation : ∀ t ∈ m.creationTimestamp, t.HasPlainYear := fun t ht =>
    hyears t (List.mem_append_left _ (List.mem_append_left _ (Option.mem_toList.2 ht)))
  have hdeletion : ∀ t ∈ m.deletionTimestamp, t.HasPlainYear := fun t ht =>
    hyears t (List.mem_append_left _ (List.mem_append_right _ (Option.mem_toList.2 ht)))
  have hmanaged : ∀ fs ∈ m.managedFields, ∀ f ∈ fs, ∀ t ∈ f.time, t.HasPlainYear :=
    fun fs hfs f hf t ht => hyears t (by
      rw [times, hfs]
      exact List.mem_append_right _ (List.mem_filterMap.2 ⟨f, hf, ht⟩))
  unfold ofJson? toJson
  rw [members?, Option.bind_eq_bind, Option.bind_some]
  refine bind_written m.annotations (by simp) (fun texts _ => readsAs_ofTexts texts) ?_
  refine bind_changed m.creationTimestamp (by simp)
    (fun t ht => readsAs_ofTime (hcreation t ht) (hlegible.creation t ht)) ?_
  refine bind_written m.deletionGracePeriodSeconds (by simp)
    (fun n hn => readsAs_ofInt (hlegible.gracePeriod n hn)) ?_
  refine bind_changed m.deletionTimestamp (by simp)
    (fun t ht => readsAs_ofTime (hdeletion t ht) (hlegible.deletion t ht)) ?_
  refine bind_written m.finalizers (by simp) (fun texts _ => readsAs_ofTextList texts) ?_
  refine bind_written m.generateName (by simp) (fun text _ => readsAs_string text) ?_
  refine bind_written m.generation (by simp)
    (fun n hn => readsAs_ofInt (hlegible.generation n hn)) ?_
  refine bind_written m.labels (by simp) (fun texts _ => readsAs_ofTexts texts) ?_
  refine bind_changed m.managedFields (by simp) (fun fs hfs => readsAs_array fun f hf =>
      ManagedFields.ofJson?_toJson (hlegible.managedFields fs hfs f hf) (hmanaged fs hfs f hf)) ?_
  refine bind_written m.name (by simp) (fun text _ => readsAs_string text) ?_
  refine bind_written m.ns (by simp) (fun text _ => readsAs_string text) ?_
  refine bind_written m.ownerReferences (by simp)
    (fun rs _ => readsAs_items fun r _ => r.ofJson?_toJson) ?_
  refine bind_written m.resourceVersion (by simp) (fun text _ => readsAs_string text) ?_
  refine bind_written m.selfLink (by simp) (fun text _ => readsAs_string text) ?_
  refine bind_written m.uid (by simp) (fun text _ => readsAs_string text) ?_
  rfl

/-- The part of a second is not written. -/
theorem toJson_truncate (m : Metadata) : m.truncate.toJson = m.toJson := by
  have hmanaged (fs : List ManagedFields) :
      Json.array ((fs.map ManagedFields.truncate).map ManagedFields.toJson) =
        .array (fs.map ManagedFields.toJson) := by
    rw [List.map_map, List.map_congr_left fun f _ => f.toJson_truncate]
  rw [toJson, toJson, truncate, written?_map fun t _ => ofTime_truncate t,
    written?_map fun t _ => ofTime_truncate t, written?_map fun fs _ => hmanaged fs]

end Metadata

/-! ### Runs -/

namespace Run

/-- The run with the times of its metadata to the second. -/
def truncate (r : Run) : Run := { r with metadata := r.metadata.truncate }

/-- The two parts of a document, metadata and spec. -/
def parts? : Json → Option (Json × Json)
  | .object ms => (lookup "metadata" ms).bind fun m => (lookup "spec" ms).map (m, ·)
  | .array [m, s] => some (m, s)
  | _ => none

/-- A run is read from its metadata and its specification, and from nothing else. -/
theorem ofJson?_eq_some {v : Json} {r : Run} :
    ofJson? v = some r ↔ ∃ m s, parts? v = some (m, s) ∧
      Metadata.ofJson? m = some r.metadata ∧ RunSpec.ofJson? s = some r.spec := by
  have hparts : ofJson? v = (parts? v).bind fun p =>
      (Metadata.ofJson? p.1).bind fun metadata =>
        (RunSpec.ofJson? p.2).bind fun spec => some { metadata, spec } := by
    cases v with
    | array items =>
      match items with
      | [] | [_] | [_, _] | _ :: _ :: _ :: _ => rfl
    | _ => rfl
  rw [hparts]
  constructor
  · intro h
    obtain ⟨⟨m, s⟩, hv, h⟩ := Option.bind_eq_some_iff.1 h
    obtain ⟨metadata, hm, h⟩ := Option.bind_eq_some_iff.1 h
    obtain ⟨spec, hs, h⟩ := Option.bind_eq_some_iff.1 h
    cases h
    exact ⟨m, s, hv, hm, hs⟩
  · rintro ⟨m, s, hv, hm, hs⟩
    rw [hv, Option.bind_some, hm, Option.bind_some, hs]
    rfl

/-- A written run has its metadata and its specification as parts. -/
theorem parts?_toJson (r : Run) : parts? r.toJson = some (r.metadata.toJson, r.spec.toJson) := by
  simp [parts?, toJson]

/-- A run is read with the times of its metadata to the second. -/
theorem ofJson?_toJson {r : Run} (hlegible : r.metadata.Legible) (hcount : r.spec.PodCountFits)
    (hyears : ∀ t ∈ r.metadata.times, t.HasPlainYear) : ofJson? r.toJson = some r.truncate :=
  ofJson?_eq_some.2 ⟨_, _, r.parts?_toJson, Metadata.ofJson?_toJson hlegible hyears,
    RunSpec.ofJson?_toJson hcount⟩

/-- **Writing is a normal form.** However a run was spelled, what is written of it is read as the
same run with the times of its metadata to the second, and is written the same way again. The
operator sees no difference between the two. What is written loses nothing else: a spec is read as
it was written, and so is a run, to the second. -/
theorem read_written_form :
    (∀ v r, ofJson? v = some r → (∀ t ∈ r.metadata.times, t.HasPlainYear) →
      ∃ r', ofJson? r.toJson = some r' ∧ r'.toJson = r.toJson ∧
        r'.spec = r.spec ∧ r'.metadata = r.metadata.truncate ∧
        r'.key = r.key ∧ r'.state = r.state ∧ r'.cancelRequested = r.cancelRequested ∧
        r'.kind = r.kind ∧ r'.templateName = r.templateName ∧
        ∀ now, r'.duration now = r.duration now) ∧
    (∀ s : RunSpec, s.PodCountFits → RunSpec.ofJson? s.toJson = some s) ∧
    ∀ r : Run, r.metadata.Legible → r.spec.PodCountFits →
      (∀ t ∈ r.metadata.times, t.HasPlainYear) → ofJson? r.toJson = some r.truncate := by
  refine ⟨fun v r hread hyears => ?_, fun s => RunSpec.ofJson?_toJson, fun r => ofJson?_toJson⟩
  obtain ⟨m, s, -, hm, hs⟩ := ofJson?_eq_some.1 hread
  have hlegible := Metadata.legible_of_ofJson? _ hm
  have hcount := RunSpec.podCountFits_of_ofJson? hs
  refine ⟨r.truncate, ofJson?_toJson hlegible hcount hyears, ?_, rfl, rfl, rfl, rfl, rfl, rfl, rfl,
    fun _ => rfl⟩
  rw [toJson, toJson, truncate, Metadata.toJson_truncate]

/-- Metadata in other spellings than the written one: a leap second shown by a clock east of
Greenwich, and members that are `null` or unknown. -/
def looseMetadata : List (String × Json) :=
  [("name", .string "a"), ("namespace", .null), ("owner", .string "b"),
    ("creationTimestamp", .string "2017-01-01T02:59:60.75+03:00"),
    ("labels", .object [("runKind", .string "training")]),
    ("managedFields", .array [.object [("fieldsV1", .null), ("manager", .string "cli")]])]

/-- A document with such metadata and a spec that is an array. -/
def looseDocument : Json :=
  .object [("status", .string "new"), ("metadata", .object looseMetadata),
    ("spec", .array [.null, .string "e", .array [.string "-x"], ofInt 2,
      .object [("matchExpressions", .array [.object [("values", .null)]])]])]

/-- The run of the loose document. -/
def looseRun : Run where
  metadata := { Metadata.empty with
    name := some "a"
    creationTimestamp := some ⟨1483228799, 1750000000⟩
    labels := some [("runKind", "training")]
    managedFields := some [⟨none, none, none, some "cli", none, none, none⟩] }
  spec := { RunSpec.empty with
    experimentName := some "e"
    parameters := some ["-x"]
    podCount := some 2
    podSelector := some ⟨some [⟨"", "", none⟩], none⟩ }

/-- The loose document is read as the loose run. -/
theorem ofJson?_looseDocument : ofJson? looseDocument = some looseRun := by
  have hcreation : Json.optional looseMetadata "creationTimestamp" readTime =
      some (some ⟨1483228799, 1750000000⟩) := by decide
  have hmetadata : Metadata.ofJson? (.object looseMetadata) = some looseRun.metadata := by
    unfold Metadata.ofJson?
    refine bind_of_eq_some rfl (bind_of_eq_some rfl (bind_of_eq_some hcreation ?_))
    rfl
  exact ofJson?_eq_some.2 ⟨_, _, rfl, hmetadata, rfl⟩

/-- The loose document is read, and what is written of it is read to the second. -/
theorem read_written_form_of_looseDocument :
    ofJson? looseDocument = some looseRun ∧ looseRun.metadata.Legible ∧
      (∀ t ∈ looseRun.metadata.times, t.HasPlainYear) ∧ looseRun.spec.PodCountFits ∧
      RunSpec.ofJson? looseRun.spec.toJson = some looseRun.spec ∧
      ofJson? looseRun.toJson = some looseRun.truncate ∧
      ∃ r, ofJson? looseRun.toJson = some r ∧ r.toJson = looseRun.toJson ∧
        r.spec = looseRun.spec ∧ r.key = looseRun.key ∧
        r.metadata.times = [⟨1483228799, 1000000000⟩] := by
  have hlegible : looseRun.metadata.Legible := by
    obtain ⟨m, s, -, hm, -⟩ := ofJson?_eq_some.1 ofJson?_looseDocument
    exact Metadata.legible_of_ofJson? _ hm
  have hyears : ∀ t ∈ looseRun.metadata.times, t.HasPlainYear := by decide
  have hcount : looseRun.spec.PodCountFits := by
    rintro n ⟨⟩
    decide
  obtain ⟨hnormal, hspec, hrun⟩ := read_written_form
  obtain ⟨r, hr, hwritten, hsame, hmetadata, hkey, -⟩ :=
    hnormal _ _ ofJson?_looseDocument hyears
  exact ⟨ofJson?_looseDocument, hlegible, hyears, hcount, hspec _ hcount,
    hrun _ hlegible hcount hyears, r, hr, hwritten, hsame, hkey, congrArg Metadata.times hmetadata⟩

end Run

end RunOperator
