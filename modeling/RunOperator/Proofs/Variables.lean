import Mathlib
import RunOperator.Config.Source
import RunOperator.Proofs.Layering
import RunOperator.Proofs.Utf8

/-!
# Settings from variables

The environment gives a layer exactly if each of its three numbers can be read. A variable that is
not set, empty or not UTF-8 counts as unset (`Environment.CountsAsUnset`). What another one carries
(`Environment.Carries`) must be a decimal numeral below the bound of its type. What numerals stand
for is said by place value (`Environment.Denotes`), so that a wrong digit, a wrapped number or a
refused zero in front would show. The numbers are read in a fixed order, which is not that of the
checks, and the first one that cannot be read is reported.
-/

namespace RunOperator

/-! ### Variables -/

namespace Environment

variable {env : Environment} {name text : String}

/-- The variable is set to a text that is not empty. -/
def Carries (env : Environment) (name text : String) : Prop :=
  ∃ raw, env.lookup name = some raw ∧ raw.text? = some text ∧ text ≠ ""

/-- The three ways in which a variable can fail to carry a text. -/
inductive CountsAsUnset (env : Environment) (name : String) : Prop where
  | unset (h : env.lookup name = none)
  | empty {raw : RawText} (h : env.lookup name = some raw) (hempty : raw.text? = some "")
  | noText {raw : RawText} (h : env.lookup name = some raw) (hbroken : raw.text? = none)

/-- The text that a variable carries is the one that is read. -/
theorem text?_of_carries (h : env.Carries name text) : env.text? name = some text := by
  obtain ⟨raw, hraw, htext, hempty⟩ := h
  rw [text?, hraw, Option.bind_some, htext]
  exact if_neg (mt String.isEmpty_iff.1 hempty)

/-- Nothing is read from a variable that counts as unset. -/
theorem text?_of_countsAsUnset (h : env.CountsAsUnset name) : env.text? name = none := by
  cases h with
  | unset h => rw [text?, h, Option.bind_none]
  | empty h hempty => rw [text?, h, Option.bind_some, hempty]; rfl
  | noText h hbroken => rw [text?, h, Option.bind_some, hbroken]

/-- A variable counts as unset or carries a text. -/
theorem countsAsUnset_or_carries (env : Environment) (name : String) :
    env.CountsAsUnset name ∨ ∃ text, env.Carries name text := by
  cases hraw : env.lookup name with
  | none => exact Or.inl (.unset hraw)
  | some raw =>
    cases htext : raw.text? with
    | none => exact Or.inl (.noText hraw htext)
    | some text =>
      by_cases hempty : text = ""
      · exact Or.inl (.empty hraw (hempty ▸ htext))
      · exact Or.inr ⟨text, raw, hraw, htext, hempty⟩

section Bytes

variable {bytes : List UInt8} (h : env.lookup name = some (.ofBytes bytes))

include h

/-- Bytes carry the text whose UTF-8 they are. -/
theorem carries_ofBytes_iff :
    env.Carries name text ↔ text.toUTF8 = bytes.toByteArray ∧ text ≠ "" := by
  rw [Carries, h, ← RawText.text?_ofBytes_iff]
  constructor
  · rintro ⟨raw, hraw, htext⟩
    obtain rfl := Option.some.inj hraw
    exact htext
  · exact fun htext => ⟨_, rfl, htext⟩

/-- A variable of some bytes counts as unset if they are none or not valid UTF-8. -/
theorem countsAsUnset_ofBytes_iff :
    env.CountsAsUnset name ↔ bytes = [] ∨ ¬ bytes.toByteArray.IsValidUTF8 := by
  rw [← RawText.text?_ofBytes_eq_none_iff]
  constructor
  · rintro (hunset | ⟨hraw, hempty⟩ | ⟨hraw, hbroken⟩)
    · cases h.symm.trans hunset
    · obtain rfl := Option.some.inj (h.symm.trans hraw)
      have hutf8 : ([] : List UInt8).toByteArray = bytes.toByteArray :=
        RawText.text?_ofBytes_iff.1 hempty
      exact Or.inl (List.toByteArray_inj.1 hutf8).symm
    · obtain rfl := Option.some.inj (h.symm.trans hraw)
      exact Or.inr hbroken
  · rintro (rfl | hbroken)
    · exact .empty h rfl
    · exact .noText h hbroken

end Bytes

/-- What a variable gives where texts have a meaning: nothing if it counts as unset. -/
inductive Gives {α : Type} (env : Environment) (name : String) (means : String → α → Prop) :
    Option α → Prop where
  | nothing (h : env.CountsAsUnset name) : Gives env name means none
  | value {text : String} {a : α} (h : env.Carries name text) (hmeans : means text a) :
    Gives env name means (some a)

/-- What a variable gives can be described by less. -/
theorem Gives.imp {α : Type} {means means' : String → α → Prop} {value : Option α}
    (himp : ∀ text a, means text a → means' text a) (h : env.Gives name means value) :
    env.Gives name means' value := by
  cases h with
  | nothing h => exact .nothing h
  | value h hmeans => exact .value h (himp _ _ hmeans)

/-- A variable that is read as text gives the text that it carries. -/
theorem gives_text? (env : Environment) (name : String) :
    env.Gives name (fun text value => value = text) (env.text? name) := by
  rcases env.countsAsUnset_or_carries name with h | ⟨text, h⟩
  · exact text?_of_countsAsUnset h ▸ .nothing h
  · exact text?_of_carries h ▸ .value h rfl

/-! ### Numerals -/

/-- The text is one or more decimal digits, after a plus or not, and they stand for the number. -/
def Denotes (text : String) (n : Nat) : Prop :=
  ∃ digits : List Char, digits ≠ [] ∧ (∀ c ∈ digits, '0' ≤ c ∧ c ≤ '9') ∧
    (text.toList = digits ∨ text.toList = '+' :: digits) ∧
    n = Nat.ofDigits 10 (digits.reverse.map fun c => c.toNat - '0'.toNat)

/-- Digits that are read from the left have their place value. -/
theorem natOfDigits_eq_ofDigits (digits : List Char) :
    Text.natOfDigits digits =
      Nat.ofDigits 10 (digits.reverse.map fun c => c.toNat - '0'.toNat) := by
  rw [Text.natOfDigits, Text.ofDigitValues, Nat.ofDigits_eq_foldr, List.map_reverse,
    List.foldr_reverse]
  simp only [Nat.cast_id, Nat.add_comm, Nat.mul_comm]

private theorem isDigit_iff {c : Char} : c.isDigit = true ↔ '0' ≤ c ∧ c ≤ '9' := by
  rw [Char.isDigit, Bool.and_eq_true, decide_eq_true_eq, decide_eq_true_eq]
  rfl

/-- What comes after the plus of a text, or else all of it. -/
def unsigned (text : String) : List Char :=
  match text.toList with
  | '+' :: rest => rest
  | s => s

private theorem eq_unsigned_or (text : String) :
    text.toList = unsigned text ∨ text.toList = '+' :: unsigned text := by
  unfold unsigned
  split
  case h_1 rest h => exact Or.inr h
  case h_2 => exact Or.inl rfl

/-- A plus is no digit, so that digits cannot be taken for a sign. -/
theorem unsigned_eq {digits : List Char} (hdigits : ∀ c ∈ digits, '0' ≤ c ∧ c ≤ '9')
    (h : text.toList = digits ∨ text.toList = '+' :: digits) : unsigned text = digits := by
  unfold unsigned
  rcases h with h | h
  · rw [h]
    split
    case h_1 rest => exact absurd (hdigits '+' List.mem_cons_self) (by decide)
    case h_2 => rfl
  · rw [h]
    rfl

/-- A text denotes the number of its digits, behind a sign or none. -/
theorem denotes_iff {n : Nat} :
    Denotes text n ↔ unsigned text ≠ [] ∧ (∀ c ∈ unsigned text, c.isDigit = true) ∧
      n = Text.natOfDigits (unsigned text) := by
  simp only [isDigit_iff, natOfDigits_eq_ofDigits]
  constructor
  · rintro ⟨digits, hne, hdigits, htext, hn⟩
    obtain rfl := unsigned_eq hdigits htext
    exact ⟨hne, hdigits, hn⟩
  · rintro ⟨hne, hdigits, hn⟩
    exact ⟨unsigned text, hne, hdigits, eq_unsigned_or text, hn⟩

private theorem number?_eq (bound : Nat) (text : String) :
    number? bound text =
      if (unsigned text).isEmpty || (unsigned text).any (!·.isDigit) then none
      else if Text.natOfDigits (unsigned text) < bound then some (Text.natOfDigits (unsigned text))
      else none := rfl

/-- A text is read as the number that it denotes if this lies below the bound. -/
theorem number?_eq_some_iff {bound n : Nat} :
    number? bound text = some n ↔ Denotes text n ∧ n < bound := by
  rw [number?_eq, denotes_iff]
  generalize unsigned text = digits
  by_cases h : digits ≠ [] ∧ ∀ c ∈ digits, c.isDigit = true
  · have hread : (digits.isEmpty || digits.any (!·.isDigit)) = false := by simpa using h
    rw [hread, if_neg Bool.false_ne_true, Option.ite_none_right_eq_some, Option.some_inj]
    constructor
    · rintro ⟨hlt, rfl⟩
      exact ⟨⟨h.1, h.2, rfl⟩, hlt⟩
    · rintro ⟨⟨-, -, rfl⟩, hlt⟩
      exact ⟨hlt, rfl⟩
  · have hread : (digits.isEmpty || digits.any (!·.isDigit)) = true := by
      simpa [Classical.or_iff_not_imp_left] using h
    rw [hread, if_pos rfl]
    exact ⟨nofun, fun hdenotes => absurd ⟨hdenotes.1.1, hdenotes.1.2.1⟩ h⟩

/-- A text is not read as a number if it denotes none below the bound. -/
theorem number?_eq_none_iff {bound : Nat} :
    number? bound text = none ↔ ∀ n, Denotes text n → bound ≤ n := by
  rw [Option.eq_none_iff_forall_ne_some]
  refine forall_congr' fun n => ?_
  rw [Ne, number?_eq_some_iff, not_and, Nat.not_lt]

variable {type : String} {bound : Nat}

/-- No number is read from a variable that counts as unset. -/
theorem readNumber_of_countsAsUnset (h : env.CountsAsUnset name) :
    env.readNumber name type bound = .ok none := by
  rw [readNumber, text?_of_countsAsUnset h]

/-- A number that can be read is answered. -/
theorem readNumber_of_some {n : Nat} (h : env.Carries name text)
    (hn : number? bound text = some n) : env.readNumber name type bound = .ok (some n) := by
  simp only [readNumber, text?_of_carries h, hn]

/-- A text that cannot be read as a number is an error that names the variable and the text. -/
theorem readNumber_of_none (h : env.Carries name text) (hn : number? bound text = none) :
    env.readNumber name type bound = .error (.invalidValue name type text) := by
  simp only [readNumber, text?_of_carries h, hn]

/-- What is answered for a variable is the number below the bound that its text denotes. -/
theorem readNumber_eq_ok_iff {value : Option Nat} :
    env.readNumber name type bound = .ok value ↔
      env.Gives name (fun text n => Denotes text n ∧ n < bound) value := by
  constructor
  · intro h
    rcases env.countsAsUnset_or_carries name with hunset | ⟨text, htext⟩
    · obtain rfl := Except.ok.inj ((readNumber_of_countsAsUnset hunset).symm.trans h)
      exact .nothing hunset
    · cases hn : number? bound text with
      | none => cases (readNumber_of_none htext hn).symm.trans h
      | some n =>
        obtain rfl := Except.ok.inj ((readNumber_of_some htext hn).symm.trans h)
        exact .value htext (number?_eq_some_iff.1 hn)
  · rintro (hunset | ⟨htext, hn⟩)
    · exact readNumber_of_countsAsUnset hunset
    · exact readNumber_of_some htext (number?_eq_some_iff.2 hn)

/-- An error is answered if and only if the variable carries a text that denotes no number below the
bound. -/
theorem readNumber_eq_error_iff {e : ConfigError} :
    env.readNumber name type bound = .error e ↔
      ∃ text, env.Carries name text ∧ (∀ n, Denotes text n → bound ≤ n) ∧
        e = .invalidValue name type text := by
  constructor
  · intro h
    rcases env.countsAsUnset_or_carries name with hunset | ⟨text, htext⟩
    · cases (readNumber_of_countsAsUnset hunset).symm.trans h
    · cases hn : number? bound text with
      | none =>
        obtain rfl := Except.error.inj ((readNumber_of_none htext hn).symm.trans h)
        exact ⟨text, htext, number?_eq_none_iff.1 hn, rfl⟩
      | some n => cases (readNumber_of_some htext hn).symm.trans h
  · rintro ⟨text, htext, hn, rfl⟩
    exact readNumber_of_none htext (number?_eq_none_iff.2 hn)

/-! ### Flags -/

/-- The text is `true` in any case. -/
def SpellsTrue (text : String) : Prop :=
  ∃ t ∈ ['t', 'T'], ∃ r ∈ ['r', 'R'], ∃ u ∈ ['u', 'U'], ∃ e ∈ ['e', 'E'],
    text = String.ofList [t, r, u, e]

private theorem toLower_eq_iff {c d : Char} (hd : d.isUpper = false) :
    c.toLower = d ↔ c ∈ [d, d.toUpper] := by
  have hlower : d.toLower = d := Char.toLower_eq_of_not_isUpper (Bool.not_eq_true _ ▸ hd)
  rw [List.mem_cons, List.mem_singleton]
  constructor
  · rintro rfl
    rw [Char.toUpper_toLower_eq_toUpper]
    by_cases hc : c.isUpper
    · exact Or.inr (Char.toUpper_eq_of_not_isLower (Char.not_isLower_of_isUpper hc)).symm
    · exact Or.inl (Char.toLower_eq_of_not_isUpper hc).symm
  · rintro (rfl | rfl)
    · exact hlower
    · rw [Char.toLower_toUpper_eq_toLower, hlower]

/-- A text is `true` in small letters if it spells that word in letters of any case. -/
theorem toLower_eq_true_iff : text.toLower = "true" ↔ SpellsTrue text := by
  have hlower : text.toLower = "true" ↔ text.toList.map Char.toLower = ['t', 'r', 'u', 'e'] := by
    rw [← String.toList_inj, String.toLower, String.toList_map]
    rfl
  have htext : ∀ {t r u e}, text = String.ofList [t, r, u, e] ↔ text.toList = [t, r, u, e] := by
    intro t r u e
    rw [← String.toList_inj, String.toList_ofList]
  simp only [hlower, SpellsTrue, htext, List.map_eq_cons_iff, List.map_eq_nil_iff]
  constructor
  · rintro ⟨t, _, htext, ht, r, _, rfl, hr, u, _, rfl, hu, e, _, rfl, he, rfl⟩
    exact ⟨t, (toLower_eq_iff rfl).1 ht, r, (toLower_eq_iff rfl).1 hr,
      u, (toLower_eq_iff rfl).1 hu, e, (toLower_eq_iff rfl).1 he, htext⟩
  · rintro ⟨t, ht, r, hr, u, hu, e, he, htext⟩
    exact ⟨t, _, htext, (toLower_eq_iff rfl).2 ht, r, _, rfl, (toLower_eq_iff rfl).2 hr,
      u, _, rfl, (toLower_eq_iff rfl).2 hu, e, _, rfl, (toLower_eq_iff rfl).2 he, rfl⟩

/-- A flag is set by `1` and by the word `true`. -/
theorem gives_flag? (env : Environment) (name : String) :
    env.Gives name (fun text b => b = true ↔ text = "1" ∨ SpellsTrue text) (env.flag? name) := by
  rw [flag?]
  rcases env.countsAsUnset_or_carries name with h | ⟨text, h⟩
  · rw [text?_of_countsAsUnset h]
    exact .nothing h
  · rw [text?_of_carries h]
    refine .value h ?_
    rw [Bool.or_eq_true, beq_iff_eq, beq_iff_eq, toLower_eq_true_iff, or_comm]

end Environment

/-! ### The layer of the environment -/

namespace ZeroField

/-- The variable of a number. -/
def variableName : ZeroField → String
  | requestTimeout => "NAUTA_OPERATOR_KUBE_REQUEST_TIMEOUT_SECS"
  | pollInterval => "NAUTA_OPERATOR_MONITOR_POLL_INTERVAL_MS"
  | retryLimit => "NAUTA_OPERATOR_MONITOR_RETRY_LIMIT"

/-- The type of a number. -/
def numberType : ZeroField → String
  | requestTimeout | pollInterval => "u64"
  | retryLimit => "u32"

/-- The numbers of its type are those below. -/
def bound : ZeroField → Nat
  | requestTimeout | pollInterval => 2 ^ 64
  | retryLimit => 2 ^ 32

/-- The numbers that are read before. -/
def readBefore : ZeroField → List ZeroField
  | requestTimeout => []
  | pollInterval => [requestTimeout]
  | retryLimit => [requestTimeout, pollInterval]

end ZeroField

namespace Environment

variable {env : Environment} {z : ZeroField} {values : ZeroField → Option Nat} {e : ConfigError}

/-- The variable of a number counts as unset, or carries a number of its type. -/
def Accepts (env : Environment) (z : ZeroField) : Prop :=
  env.CountsAsUnset z.variableName ∨
    ∃ text n, env.Carries z.variableName text ∧ Denotes text n ∧ n < z.bound

/-- A layer has the settings that the variables give. -/
structure Describes (env : Environment) (l : Layer) : Prop where
  number : ∀ z : ZeroField, env.Gives z.variableName Denotes (z.setting.setIn l)
  kubeconfig : env.Gives "NAUTA_OPERATOR_KUBE_KUBECONFIG" (fun text value => value = text)
    (Setting.kubeconfig.setIn l)
  ns : env.Gives "NAUTA_OPERATOR_KUBE_NAMESPACE" (fun text value => value = text)
    (Setting.ns.setIn l)
  level : env.Gives "NAUTA_OPERATOR_LOGGING_LEVEL" (fun text value => value = text)
    (Setting.level.setIn l)
  json : env.Gives "NAUTA_OPERATOR_LOGGING_JSON"
    (fun text value => value = true ↔ text = "1" ∨ SpellsTrue text) (Setting.json.setIn l)

/-- The reading of a number from its variable. -/
def read (env : Environment) (z : ZeroField) : Except ConfigError (Option Nat) :=
  env.readNumber z.variableName z.numberType z.bound

/-- A variable is accepted if and only if it can be read. -/
theorem accepts_iff : env.Accepts z ↔ ∃ value, env.read z = .ok value := by
  simp only [read, readNumber_eq_ok_iff]
  constructor
  · rintro (h | ⟨text, n, htext, hn⟩)
    · exact ⟨none, .nothing h⟩
    · exact ⟨some n, .value htext hn⟩
  · rintro ⟨_, h | ⟨htext, hn⟩⟩
    · exact Or.inl h
    · exact Or.inr ⟨_, _, htext, hn⟩

/-- The layer with some numbers, and what else the variables give. -/
def layerWith (env : Environment) (values : ZeroField → Option Nat) : Layer where
  kube := some {
    kubeconfig := env.text? "NAUTA_OPERATOR_KUBE_KUBECONFIG"
    ns := env.text? "NAUTA_OPERATOR_KUBE_NAMESPACE"
    requestTimeoutSecs := values .requestTimeout }
  monitor := some { pollIntervalMs := values .pollInterval, retryLimit := values .retryLimit }
  logging := some {
    level := env.text? "NAUTA_OPERATOR_LOGGING_LEVEL"
    json := env.flag? "NAUTA_OPERATOR_LOGGING_JSON" }

/-- The variables are read one after the other, and then the layer is put together. -/
theorem layer_eq (env : Environment) :
    env.layer = do
      let timeout ← env.read .requestTimeout
      let interval ← env.read .pollInterval
      let limit ← env.read .retryLimit
      return env.layerWith fun
        | .requestTimeout => timeout
        | .pollInterval => interval
        | .retryLimit => limit := rfl

/-- If every variable can be read, the layer holds what was read. -/
theorem layer_of_ok (h : ∀ z, env.read z = .ok (values z)) :
    env.layer = .ok (env.layerWith values) := by
  rw [layer_eq, h, h, h]
  rfl

/-- The first variable that cannot be read decides. -/
theorem layer_of_error (hbefore : ∀ y ∈ z.readBefore, ∃ value, env.read y = .ok value)
    (hz : env.read z = .error e) : env.layer = .error e := by
  rw [layer_eq]
  cases z with
  | requestTimeout => rw [hz]; rfl
  | pollInterval =>
    obtain ⟨timeout, htimeout⟩ := hbefore .requestTimeout (by decide)
    rw [htimeout, hz]
    rfl
  | retryLimit =>
    obtain ⟨timeout, htimeout⟩ := hbefore .requestTimeout (by decide)
    obtain ⟨interval, hinterval⟩ := hbefore .pollInterval (by decide)
    rw [htimeout, hinterval, hz]
    rfl

/-- Either all numbers can be read, or there is a first one that cannot. -/
theorem reads_or_fails (env : Environment) :
    (∃ values : ZeroField → Option Nat, ∀ z, env.read z = .ok (values z)) ∨
      ∃ (z : ZeroField) (e : ConfigError),
        (∀ y ∈ z.readBefore, ∃ value, env.read y = .ok value) ∧ env.read z = .error e := by
  cases htimeout : env.read .requestTimeout with
  | error e => exact Or.inr ⟨.requestTimeout, e, by simp [ZeroField.readBefore], htimeout⟩
  | ok timeout =>
    cases hinterval : env.read .pollInterval with
    | error e =>
      exact Or.inr ⟨.pollInterval, e, by simp [ZeroField.readBefore, htimeout], hinterval⟩
    | ok interval =>
      cases hlimit : env.read .retryLimit with
      | error e =>
        exact Or.inr
          ⟨.retryLimit, e, by simp [ZeroField.readBefore, htimeout, hinterval], hlimit⟩
      | ok limit =>
        refine Or.inl ⟨fun
          | .requestTimeout => timeout
          | .pollInterval => interval
          | .retryLimit => limit, fun z => ?_⟩
        cases z with
        | requestTimeout => exact htimeout
        | pollInterval => exact hinterval
        | retryLimit => exact hlimit

/-- The layer that is put together describes the variables. -/
theorem describes_layerWith (h : ∀ z, env.read z = .ok (values z)) :
    env.Describes (env.layerWith values) where
  number z := by
    have hset : z.setting.setIn (env.layerWith values) = values z := by cases z <;> rfl
    rw [hset]
    exact (readNumber_eq_ok_iff.1 (h z)).imp fun _ _ hdenotes => hdenotes.1
  kubeconfig := env.gives_text? _
  ns := env.gives_text? _
  level := env.gives_text? _
  json := env.gives_flag? _

/-- **The environment gives a layer exactly if its numbers can be read.** Bytes count as unset if
there are none or they are not UTF-8. Each of the three numbers must count as unset, or be a decimal
numeral for a number of its type. The layer then has these numbers, the texts of the other
variables, and the flag for `1` and for `true` in any case. Otherwise the first number that is read
and is no such numeral is reported, with its text. -/
theorem layer_reads_variables (env : Environment) :
    (∀ name bytes, env.lookup name = some (.ofBytes bytes) →
      (env.CountsAsUnset name ↔ bytes = [] ∨ ¬ bytes.toByteArray.IsValidUTF8) ∧
      ∀ text, env.Carries name text ↔ text.toUTF8 = bytes.toByteArray ∧ text ≠ "") ∧
    ((∃ l, env.layer = .ok l) ↔ ∀ z, env.Accepts z) ∧
    (∀ l, env.layer = .ok l → env.Describes l) ∧
    ∀ e, env.layer = .error e ↔
      ∃ (z : ZeroField) (text : String),
        (∀ y ∈ z.readBefore, env.Accepts y) ∧ env.Carries z.variableName text ∧
        (∀ n, Denotes text n → z.bound ≤ n) ∧
        e = .invalidValue z.variableName z.numberType text := by
  have herror : ∀ z e, env.read z = .error e ↔ ∃ text, env.Carries z.variableName text ∧
      (∀ n, Denotes text n → z.bound ≤ n) ∧
        e = .invalidValue z.variableName z.numberType text := by
    intro z e
    exact readNumber_eq_error_iff
  refine ⟨fun name bytes h => ⟨countsAsUnset_ofBytes_iff h, fun _ => carries_ofBytes_iff h⟩, ?_⟩
  simp only [accepts_iff]
  rcases env.reads_or_fails with ⟨values, hvalues⟩ | ⟨z, e, hbefore, hz⟩
  · have hlayer := layer_of_ok hvalues
    refine ⟨⟨fun _ z => ⟨_, hvalues z⟩, fun _ => ⟨_, hlayer⟩⟩, fun l hl => ?_, fun e => ⟨?_, ?_⟩⟩
    · obtain rfl := Except.ok.inj (hlayer.symm.trans hl)
      exact describes_layerWith hvalues
    · intro he
      cases hlayer.symm.trans he
    · rintro ⟨z, text, -, htext⟩
      cases (hvalues z).symm.trans ((herror z e).2 ⟨text, htext⟩)
  · have hlayer := layer_of_error hbefore hz
    refine ⟨⟨?_, fun hall => ?_⟩, fun l hl => ?_, fun e' => ⟨?_, ?_⟩⟩
    · rintro ⟨l, hl⟩
      cases hlayer.symm.trans hl
    · obtain ⟨value, hvalue⟩ := hall z
      cases hz.symm.trans hvalue
    · cases hlayer.symm.trans hl
    · intro he
      obtain rfl := Except.error.inj (hlayer.symm.trans he)
      obtain ⟨text, htext⟩ := (herror z e).1 hz
      exact ⟨z, text, hbefore, htext⟩
    · rintro ⟨z, text, hbefore, htext⟩
      exact layer_of_error hbefore ((herror z e').2 ⟨text, htext⟩)

/-- The largest timeout after zeros, an interval that is no text, and an empty limit. -/
def lenient : Environment :=
  [("NAUTA_OPERATOR_KUBE_REQUEST_TIMEOUT_SECS", .ofText "+0018446744073709551615"),
    ("NAUTA_OPERATOR_MONITOR_POLL_INTERVAL_MS", .ofBytes [0x31, 0xff]),
    ("NAUTA_OPERATOR_MONITOR_RETRY_LIMIT", .ofText ""),
    ("NAUTA_OPERATOR_KUBE_NAMESPACE", .ofBytes [0x6e, 0xc3, 0xa4]),
    ("NAUTA_OPERATOR_LOGGING_JSON", .ofText "TrUe")]

/-- The layer of these variables. -/
def lenientLayer : Layer where
  kube := some { kubeconfig := none, ns := some "nä", requestTimeoutSecs := some (2 ^ 64 - 1) }
  monitor := some { pollIntervalMs := none, retryLimit := none }
  logging := some { level := none, json := some true }

/-- Two numbers that are too large by one, the later of them first. -/
def overflowing : Environment :=
  [("NAUTA_OPERATOR_MONITOR_RETRY_LIMIT", .ofText "4294967296"),
    ("NAUTA_OPERATOR_MONITOR_POLL_INTERVAL_MS", .ofText "18446744073709551616")]

/-- The largest numbers are taken, what is empty or no text is left out, and the first of two that
are too large is reported. -/
theorem layer_reads_variables_at_the_bounds :
    lenient.lookup "NAUTA_OPERATOR_MONITOR_POLL_INTERVAL_MS" = some (.ofBytes [0x31, 0xff]) ∧
    lenient.CountsAsUnset "NAUTA_OPERATOR_MONITOR_POLL_INTERVAL_MS" ∧
    lenient.layer = .ok lenientLayer ∧ lenient.Describes lenientLayer ∧
    overflowing.layer = .error (.invalidValue "NAUTA_OPERATOR_MONITOR_POLL_INTERVAL_MS" "u64"
      "18446744073709551616") := by
  have hlayer : lenient.layer = .ok lenientLayer := by decide +kernel
  have hbroken : ¬ [0x31, 0xff].toByteArray.IsValidUTF8 :=
    RawText.text?_ofBytes_eq_none_iff.1 (by decide)
  obtain ⟨hbytes, -, hdescribes, -⟩ := layer_reads_variables lenient
  obtain ⟨-, -, -, herror⟩ := layer_reads_variables overflowing
  refine ⟨rfl, ?_, hlayer, hdescribes _ hlayer, ?_⟩
  · exact (hbytes _ _ rfl).1.2 (Or.inr hbroken)
  · refine (herror _).2 ⟨.pollInterval, "18446744073709551616", ?_, ?_, ?_, rfl⟩
    · intro y hy
      obtain rfl := List.mem_singleton.1 hy
      exact Or.inl (.unset rfl)
    · exact ⟨_, rfl, by decide, by decide⟩
    · exact number?_eq_none_iff.1 (by decide)

end Environment

end RunOperator
