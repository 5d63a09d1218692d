import RunOperator.Proofs.WireFormat

/-!
# What a replacement keeps of a submitter's spec

The operator writes a whole run back after a transition. Its spec then has the same values as the
document that was read, at every path that does not belong to the operator, exactly when that
document was a plain one (`Run.passes_through_iff`): an object with the members that a run has, none
of them `null`, and the same within its selector. A member that a run does not have is lost.
-/

namespace RunOperator

open Json

/-! ### Paths -/

namespace Json

/-- A step into a value: to a member of an object or to an item of an array. -/
inductive Step where
  | member (name : String)
  | item (index : Nat)
  deriving DecidableEq

variable {v v' : Json} {ms ms' : List (String × Json)} {vs vs' : List Json} {name : String}

/-- The value that a step leads to. -/
def child? : Json → Step → Option Json
  | .object ms, .member name => lookup name ms
  | .array vs, .item index => vs[index]?
  | _, _ => none

private theorem child?_member (name : String) (v : Json) :
    v.child? (.member name) = v.get? name := by
  cases v <;> rfl

/-- The value at the end of a path. -/
def at? : List Step → Json → Option Json
  | [], v => some v
  | step :: path, v => (v.child? step).bind (at? path)

/-- A value without what is inside it. -/
def outline : Json → Json
  | .array _ => .array []
  | .object _ => .object []
  | v => v

/-- What stands at a path of a value that may be missing. -/
def shownAt (path : List Step) (v : Option Json) : Option Json := (v.bind (at? path)).map outline

/-- The same stands at each path. The order of the members of an object does not count. -/
def Alike (v v' : Option Json) : Prop := ∀ path, shownAt path v = shownAt path v'

private theorem alike_refl (v : Option Json) : Alike v v := fun _ => rfl

private theorem shownAt_cons (step : Step) (path : List Step) (v : Json) :
    shownAt (step :: path) (some v) = shownAt path (v.child? step) := rfl

/-- Only what is absent is like what is absent. -/
theorem alike_none_iff {v : Option Json} : Alike v none ↔ v = none := by
  constructor
  · intro h
    cases v with
    | none => rfl
    | some v => cases h []
  · rintro rfl
    exact alike_refl none

/-- Objects are alike when their members are. -/
theorem alike_object_iff :
    Alike (some (.object ms)) (some (.object ms')) ↔
      ∀ name, Alike (lookup name ms) (lookup name ms') := by
  constructor
  · exact fun h name path => h (.member name :: path)
  · rintro h (_ | ⟨name | index, path⟩)
    · rfl
    · exact h name path
    · rfl

/-- Arrays are alike when their first items are and the others are. -/
theorem alike_array_cons_iff :
    Alike (some (.array (v :: vs))) (some (.array (v' :: vs'))) ↔
      Alike (some v) (some v') ∧ Alike (some (.array vs)) (some (.array vs')) := by
  constructor
  · intro h
    refine ⟨fun path => h (.item 0 :: path), ?_⟩
    rintro (_ | ⟨name | index, path⟩)
    · rfl
    · rfl
    · exact h (.item (index + 1) :: path)
  · rintro ⟨hfirst, hothers⟩ (_ | ⟨name | _ | index, path⟩)
    · rfl
    · rfl
    · exact hfirst path
    · exact hothers (.item index :: path)

/-! ### Members -/

variable {α : Type} {read : Json → Option α}

/-- A member that may be missing is written like it was read, unless it was `null`. -/
theorem alike_optional_iff {value : Option α} {P : Json → Prop} (write : α → Json)
    (hread : optional ms name read = some value)
    (hwrite : ∀ v a, read v = some a → (Alike (some v) (some (write a)) ↔ P v)) :
    Alike (lookup name ms) (value.map write) ↔
      ∀ v, lookup name ms = some v → v ≠ .null ∧ P v := by
  cases value with
  | none =>
    rw [Option.map_none, alike_none_iff]
    rcases optional_eq_none_iff.1 hread with hnone | hnull
    · simp [hnone]
    · simp [hnull]
  | some a =>
    obtain ⟨v, hv, hnull, hread⟩ := optional_eq_some_iff.1 hread
    rw [hv, Option.map_some, hwrite v a hread]
    simp [hnull]

/-- A member that is written as it was read. -/
theorem alike_exact_iff {value : Option α} (write : α → Json)
    (hread : optional ms name read = some value) (hexact : ∀ v a, read v = some a → v = write a) :
    Alike (lookup name ms) (value.map write) ↔ ∀ v, lookup name ms = some v → v ≠ .null := by
  have hwrite (v : Json) (a : α) (h : read v = some a) :
      Alike (some v) (some (write a)) ↔ True :=
    iff_true_intro (hexact v a h ▸ alike_refl _)
  simpa using alike_optional_iff write hread hwrite

/-- A member that is not written must be missing. -/
theorem alike_unwritten_iff {P : Json → Prop} (hwritten : lookup name ms' = none)
    (hP : ∀ v, ¬ P v) :
    Alike (lookup name ms) (lookup name ms') ↔ ∀ v, lookup name ms = some v → v ≠ .null ∧ P v := by
  rw [hwritten, alike_none_iff]
  simp [hP, Option.eq_none_iff_forall_ne_some]

/-- The items of an array are written like they were read. -/
theorem alike_items_iff {as : List α} {write : α → Json} {P : Json → Prop}
    (hread : List.Forall₂ (fun v a => read v = some a) vs as)
    (hwrite : ∀ v a, read v = some a → (Alike (some v) (some (write a)) ↔ P v)) :
    Alike (some (.array vs)) (some (.array (as.map write))) ↔ ∀ v ∈ vs, P v := by
  induction hread with
  | nil => simp [alike_refl]
  | cons hitem _ ih =>
    rw [List.map_cons, alike_array_cons_iff, hwrite _ _ hitem, ih, List.forall_mem_cons]

end Json

/-! ### Selectors -/

/-- A condition that is written like it was read: it has a key and an operator, and no member is
`null` or unknown. -/
structure PlainRequirement (v : Json) : Prop where
  complete : ∀ name ∈ ["key", "operator"], v.get? name ≠ none
  members : ∀ name w, v.get? name = some w → w ≠ .null ∧ name ∈ ["key", "operator", "values"]

/-- A selector that is written like it was read: no member is `null` or unknown, and its conditions
are written like they were read. -/
def PlainSelector (v : Json) : Prop :=
  ∀ name w, v.get? name = some w → w ≠ .null ∧
    (name = "matchLabels" ∨
      name = "matchExpressions" ∧ ∀ item ∈ w.items?.getD [], PlainRequirement item)

/-- A text for which the empty one stands in is written like it was read when it is there. -/
theorem alike_textOrEmpty_iff {ms : List (String × Json)} {name s : String}
    (hread : textOrEmpty ms name = some s) :
    Alike (lookup name ms) (some (.string s)) ↔
      lookup name ms ≠ none ∧ ∀ v, lookup name ms = some v → v ≠ .null := by
  obtain ⟨value, hvalue, rfl⟩ := Option.map_eq_some_iff.1 hread
  cases value with
  | none =>
    rcases optional_eq_none_iff.1 hvalue with hnone | hnull
    · rw [hnone]
      exact ⟨(fun h => nomatch h []), fun h => absurd rfl h.1⟩
    · rw [hnull]
      exact ⟨(fun h => nomatch h []), fun h => absurd rfl (h.2 _ rfl)⟩
  | some s =>
    have hexact := alike_exact_iff .string hvalue fun v s => text?_eq_some.1
    obtain ⟨v, hv, -⟩ := optional_eq_some_iff.1 hvalue
    rw [Option.map_some] at hexact
    rw [Option.getD_some, hexact, hv]
    simp

/-- A requirement is written back as it was if and only if it is plain. -/
theorem SelectorRequirement.alike_toJson_iff {v : Json} {r : SelectorRequirement}
    (hread : ofJson? v = some r) : Alike (some v) (some r.toJson) ↔ PlainRequirement v := by
  simp only [ofJson?, Option.bind_eq_bind, Option.bind_eq_some_iff] at hread
  obtain ⟨ms, hms, key, hkey, operator, hoperator, values, hvalues, h⟩ := hread
  cases h
  obtain rfl := members?_eq_some.1 hms
  have hmember (name : String) :
      Alike (lookup name ms) (lookup name ([("key", .string key), ("operator", .string operator)]
          ++ written? "values" ofTextList values)) ↔
        (name ∈ ["key", "operator"] → lookup name ms ≠ none) ∧
          ∀ w, lookup name ms = some w → w ≠ .null ∧ name ∈ ["key", "operator", "values"] := by
    by_cases hname : name ∈ ["key", "operator", "values"]
    · rcases List.mem_cons.1 hname with rfl | hname
      · simpa using alike_textOrEmpty_iff hkey
      rcases List.mem_cons.1 hname with rfl | hname
      · simpa using alike_textOrEmpty_iff hoperator
      · obtain rfl := List.mem_singleton.1 hname
        simpa using alike_exact_iff ofTextList hvalues fun v texts =>
          readTextList_eq_some.1
    · have hkeys : name ∉ ["key", "operator"] := fun hkey =>
        hname (List.mem_append_left ["values"] hkey)
      have hunwritten : lookup name ([("key", .string key), ("operator", .string operator)]
          ++ written? "values" ofTextList values) = none := by
        simp only [List.mem_cons, List.not_mem_nil, or_false, not_or] at hname
        simp [Ne.symm hname.1, Ne.symm hname.2.1, Ne.symm hname.2.2]
      rw [alike_unwritten_iff hunwritten fun _ => hname]
      exact ⟨fun h => ⟨fun hkey => absurd hkey hkeys, h⟩, fun h => h.2⟩
  rw [toJson, alike_object_iff]
  simp only [hmember]
  exact ⟨fun h => ⟨fun name => (h name).1, fun name => (h name).2⟩,
    fun h name => ⟨h.complete name, h.members name⟩⟩

/-- A selector is written back as it was if and only if it is plain. -/
theorem LabelSelector.alike_toJson_iff {v : Json} {s : LabelSelector} (hread : ofJson? v = some s) :
    Alike (some v) (some s.toJson) ↔ PlainSelector v := by
  simp only [ofJson?, Option.bind_eq_bind, Option.bind_eq_some_iff] at hread
  obtain ⟨ms, hms, expressions, hexpressions, labels, hlabels, h⟩ := hread
  cases h
  obtain rfl := members?_eq_some.1 hms
  rw [toJson, alike_object_iff]
  refine forall_congr' fun name => ?_
  by_cases hfirst : name = "matchExpressions"
  · subst hfirst
    have hitems (v : Json) (rs : List SelectorRequirement)
        (hread : readItems SelectorRequirement.ofJson? v = some rs) :
        Alike (some v) (some (.array (rs.map SelectorRequirement.toJson))) ↔
          ∀ item ∈ v.items?.getD [], PlainRequirement item := by
      obtain ⟨items, rfl, hitems⟩ := readItems_eq_some.1 hread
      exact alike_items_iff hitems fun _ _ => SelectorRequirement.alike_toJson_iff
    simpa using alike_optional_iff _ hexpressions hitems
  by_cases hsecond : name = "matchLabels"
  · subst hsecond
    simpa using alike_exact_iff ofTexts hlabels fun v texts => readTexts_eq_some.1
  · exact alike_unwritten_iff (by simp [Ne.symm hfirst, Ne.symm hsecond]) (by simp [*])

/-! ### Specs -/

namespace RunSpec

/-- The members of a spec that the operator writes. -/
def operatorMembers : List String := ["state", "start-time", "end-time"]

/-- The members that are written as they were read. -/
def carriedMembers : List String :=
  ["name", "experiment-name", "parameters", "pod-count", "metrics"]

/-- The path into a spec leads to what its submitter wrote: it begins with a member that is not the
operator's, or with the place of one when the spec is an array. -/
def submitted : List Step → Bool
  | [] => false
  | .member name :: _ => !operatorMembers.contains name
  | .item index :: _ => (memberNames[index]?).all fun name => !operatorMembers.contains name

/-- A spec that is written like it was read: an object, or an empty array, of which no member is
unknown, none that its submitter wrote is `null`, and the selector is written like it was read. -/
structure Plain (v : Json) : Prop where
  shape : v = .array [] ∨ ∃ ms, v = .object ms
  members : ∀ name, name ∉ operatorMembers → ∀ w, v.get? name = some w → w ≠ .null ∧
    (name ∈ carriedMembers ∨ name = "pod-selector" ∧ PlainSelector w)

variable {s : RunSpec} {ms ms' : List (String × Json)} {name : String}

/-- When a member is written like it was read, whatever state and stamps are written. -/
theorem ReadFrom.alike_member_iff (hread : s.ReadFrom ms) (hname : name ∉ operatorMembers)
    (state startTime endTime : Option String) :
    Alike (lookup name ms) ({ s with state, startTime, endTime }.toJson.get? name) ↔
      ∀ w, lookup name ms = some w → w ≠ .null ∧
        (name ∈ carriedMembers ∨ name = "pod-selector" ∧ PlainSelector w) := by
  by_cases hselector : name = "pod-selector"
  · subst hselector
    have hwritten := alike_optional_iff LabelSelector.toJson hread.podSelector
      fun _ _ => LabelSelector.alike_toJson_iff
    simpa [toJson, carriedMembers] using hwritten
  by_cases hcarried : name ∈ carriedMembers
  · have hwritten :
        Alike (lookup name ms) ({ s with state, startTime, endTime }.toJson.get? name) ↔
          ∀ w, lookup name ms = some w → w ≠ .null := by
      simp only [carriedMembers, List.mem_cons, List.not_mem_nil, or_false] at hcarried
      rcases hcarried with rfl | rfl | rfl | rfl | rfl
      · simpa [toJson] using alike_exact_iff .string hread.name
          fun _ _ => text?_eq_some.1
      · simpa [toJson] using alike_exact_iff .string hread.experimentName
          fun _ _ => text?_eq_some.1
      · simpa [toJson] using alike_exact_iff ofTextList hread.parameters
          fun _ _ => readTextList_eq_some.1
      · simpa [toJson] using alike_exact_iff ofInt hread.podCount
          fun _ _ h => (readInt_eq_some.1 h).1
      · simpa [toJson] using alike_exact_iff .object hread.metrics
          fun _ _ => members?_eq_some.1
    rw [hwritten]
    simp [hcarried]
  · have hunwritten : { s with state, startTime, endTime }.toJson.get? name = none := by
      simp only [operatorMembers, carriedMembers, List.mem_cons, List.not_mem_nil, or_false,
        not_or, @eq_comm String name] at hname hselector hcarried
      simp [toJson, hname, hselector, hcarried]
    exact alike_unwritten_iff hunwritten (by simp [hcarried, hselector])

private theorem get?_eq_lookup {v : Json} (hv : members? v = some ms)
    (hshape : v = .array [] ∨ ∃ ms, v = .object ms) (name : String) :
    v.get? name = lookup name ms := by
  rcases hshape with rfl | ⟨members, rfl⟩
  · obtain rfl : [] = ms := Option.some.inj hv
    rfl
  · obtain rfl := Option.some.inj hv
    rfl

/-- The same stands at the paths of the submitter when the members are alike. -/
theorem forall_submitted_iff {v : Json} (hv : members? v = some ms) :
    (∀ path, submitted path → shownAt path (some v) = shownAt path (some (.object ms'))) ↔
      (v = .array [] ∨ ∃ ms, v = .object ms) ∧
        ∀ name, name ∉ operatorMembers → Alike (lookup name ms) (lookup name ms') := by
  have hmember (hshape : v = .array [] ∨ ∃ ms, v = .object ms) (name : String)
      (path : List Step) :
      shownAt (.member name :: path) (some v) = shownAt path (lookup name ms) := by
    rw [shownAt_cons, child?_member, get?_eq_lookup hv hshape]
  constructor
  · intro h
    have hshape : v = .array [] ∨ ∃ ms, v = .object ms := by
      cases v with
      | object members => exact Or.inr ⟨members, rfl⟩
      | array items =>
        cases items with
        | nil => exact Or.inl rfl
        -- The first item stands where the written spec, an object, has nothing.
        | cons item items => exact nomatch h [.item 0] rfl
      | _ => cases hv
    refine ⟨hshape, fun name hname path => (hmember hshape name path).symm.trans ?_⟩
    exact h (.member name :: path) (by simpa [submitted] using hname)
  · rintro ⟨hshape, h⟩ (_ | ⟨name | index, path⟩) hpath
    · cases hpath
    · exact (hmember hshape name path).trans (h name (by simpa [submitted] using hpath) path)
    · rcases hshape with rfl | ⟨members, rfl⟩ <;> rfl

end RunSpec

/-! ### Runs -/

namespace Run

/-- The spec in a document. -/
def specIn (doc : Json) : Option Json := (parts? doc).map Prod.snd

/-- When a submitter's data are passed through untouched. A run is read, makes a transition and is
written. The same then stands at each path that leads to what the submitter wrote into the spec,
exactly when the spec that was read is plain. -/
theorem passes_through_iff {doc : Json} {r : Run} (hread : ofJson? doc = some r)
    (source target : RunState) (now : Instant) :
    (∀ path, RunSpec.submitted path →
      shownAt path (specIn doc) =
        shownAt path (specIn (r.transition source target now).toJson)) ↔
      ∃ spec, specIn doc = some spec ∧ RunSpec.Plain spec := by
  obtain ⟨m, spec, hparts, -, hspec⟩ := ofJson?_eq_some.1 hread
  obtain ⟨ms, hms, hfrom⟩ := RunSpec.exists_readFrom _ hspec
  have hdoc : specIn doc = some spec := congrArg (Option.map Prod.snd) hparts
  have hwritten : specIn (r.transition source target now).toJson =
      some (r.transition source target now).spec.toJson :=
    congrArg (Option.map Prod.snd) (parts?_toJson _)
  obtain ⟨ms', hms'⟩ : ∃ ms', (r.transition source target now).spec.toJson = .object ms' := ⟨_, rfl⟩
  have hmember {name : String} (hname : name ∉ RunSpec.operatorMembers) :
      Alike (lookup name ms) (lookup name ms') ↔ ∀ w, lookup name ms = some w → w ≠ .null ∧
        (name ∈ RunSpec.carriedMembers ∨ name = "pod-selector" ∧ PlainSelector w) := by
    rw [← get?_object name ms', ← hms']
    exact hfrom.alike_member_iff hname _ _ _
  rw [hdoc, hwritten, hms', RunSpec.forall_submitted_iff hms]
  constructor
  · rintro ⟨hshape, hmembers⟩
    refine ⟨spec, rfl, hshape, fun name hname w hw => ?_⟩
    rw [RunSpec.get?_eq_lookup hms hshape] at hw
    exact (hmember hname).1 (hmembers name hname) w hw
  · rintro ⟨spec, ⟨⟩, hplain⟩
    refine ⟨hplain.shape, fun name hname => (hmember hname).2 fun w hw => ?_⟩
    rw [← RunSpec.get?_eq_lookup hms hplain.shape] at hw
    exact hplain.members name hname w hw

/-- A selector with a label and a condition, whose members do not stand in the written order. -/
def fullSelector : Json :=
  .object [("matchLabels", .object [("app", .string "jupyter")]),
    ("matchExpressions", .array [.object [("operator", .string "In"), ("key", .string "tier"),
      ("values", .array [.string "gpu"])]])]

/-- A document with nested data and a `null` where the operator will write. -/
def fullDocument : Json :=
  .object [("metadata", .object [("name", .string "a"), ("namespace", .string "ns")]),
    ("spec", .object [("metrics", .object [("loss", .array [.null, ofInt 3])]),
      ("state", .string "QUEUED"), ("pod-count", ofInt 2), ("start-time", .null),
      ("pod-selector", fullSelector)])]

/-- The selector with all members is plain. -/
theorem plainSelector_fullSelector : PlainSelector fullSelector := by
  intro name w hw
  have hmem := mem_of_lookup hw
  simp only [List.mem_cons, Prod.mk.injEq, List.not_mem_nil, or_false] at hmem
  rcases hmem with ⟨rfl, rfl⟩ | ⟨rfl, rfl⟩
  · exact ⟨Json.noConfusion, Or.inl rfl⟩
  · refine ⟨Json.noConfusion, Or.inr ⟨rfl, fun item hitem => ?_⟩⟩
    obtain rfl := List.mem_singleton.1 hitem
    refine ⟨by simp, fun name w hw => ?_⟩
    have hmem := mem_of_lookup hw
    simp only [List.mem_cons, Prod.mk.injEq, List.not_mem_nil, or_false] at hmem
    rcases hmem with ⟨rfl, rfl⟩ | ⟨rfl, rfl⟩ | ⟨rfl, rfl⟩ <;> simp

/-- All of it is passed through. -/
theorem passes_through_fullDocument :
    ∃ r, ofJson? fullDocument = some r ∧ r.state = .ok .queued ∧ RunState.isFinal .queued = false ∧
      ∀ path, RunSpec.submitted path → shownAt path (specIn fullDocument) =
        shownAt path (specIn (r.transition .queued .running ⟨0, 0⟩).toJson) := by
  refine ⟨_, rfl, rfl, rfl, (passes_through_iff rfl _ _ _).2 ⟨_, rfl, Or.inr ⟨_, rfl⟩, ?_⟩⟩
  intro name hname w hw
  have hmem := mem_of_lookup hw
  simp only [List.mem_cons, Prod.mk.injEq, List.not_mem_nil, or_false] at hmem
  rcases hmem with ⟨rfl, rfl⟩ | ⟨rfl, rfl⟩ | ⟨rfl, rfl⟩ | ⟨rfl, rfl⟩ | ⟨rfl, rfl⟩
  · simp [RunSpec.carriedMembers]
  · simp [RunSpec.operatorMembers] at hname
  · simp [RunSpec.carriedMembers, ofInt]
  · simp [RunSpec.operatorMembers] at hname
  · exact ⟨Json.noConfusion, Or.inr ⟨rfl, plainSelector_fullSelector⟩⟩

/-- A document whose submitter wrote a member that no run has. -/
def ownedDocument : Json :=
  .object [("metadata", .object [("name", .string "a"), ("namespace", .string "ns")]),
    ("spec", .object [("state", .string "QUEUED"), ("owner", .string "alice")])]

/-- The member is lost. -/
theorem owner_is_lost :
    ∃ r, ofJson? ownedDocument = some r ∧ r.state = .ok .queued ∧
      RunState.isFinal .queued = false ∧ RunSpec.submitted [.member "owner"] = true ∧
      shownAt [.member "owner"] (specIn ownedDocument) = some (.string "alice") ∧
      shownAt [.member "owner"] (specIn (r.transition .queued .running ⟨0, 0⟩).toJson) = none :=
  ⟨_, rfl, rfl, rfl, rfl, rfl, rfl⟩

end Run

end RunOperator
