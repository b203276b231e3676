import ThreatIntel.Proofs.Binary64.Marks
import ThreatIntel.Proofs.Json.Forms
import ThreatIntel.Proofs.Settings.Paths
import ThreatIntel.Proofs.Text.Marks
import ThreatIntel.Proofs.Text.Reading

/-!
# Texts from the environment

A variable of the environment overrides a setting of the file. What it holds is first taken for a
truth value or a number where it reads as one, and the setting gets the usual text of that. So a
text is kept where it is the usual text of what it reads as, and is altered otherwise.
-/

namespace ThreatIntel
namespace Settings

/-! ## What becomes of a text -/

/-- What a text in the environment is taken for, as a text again. -/
def retold (text : String) : String :=
  if lowercase text = "true" then "true"
  else if lowercase text = "false" then "false"
  else
    match Text.readInt64? text.toList with
    | some n => String.ofList (Text.intDigits n.toInt)
    | none =>
        match Binary64.ofChars? text.toList with
        | some x => String.ofList x.plainChars
        | none => text

/-- The text is no word for a truth value, in any case. -/
def IsNoTruthWord (text : String) : Prop :=
  lowercase text ≠ "true" ∧ lowercase text ≠ "false"

/-- The text is the usual one for what it reads as: a word for a truth value, an integer of 64 bits,
another number, or none of these. -/
inductive IsUsual : String → Prop
  | truth (value : Bool) : IsUsual (if value then "true" else "false")
  | integer (n : Int64) : IsUsual (String.ofList (Text.intDigits n.toInt))
  | number
      {text : String}
      {x : Binary64}
      (noTruth : IsNoTruthWord text)
      (noInteger : Text.readInt64? text.toList = none)
      (reads : Binary64.ofChars? text.toList = some x)
      (usual : text.toList = x.plainChars) :
      IsUsual text
  | other
      {text : String}
      (noTruth : IsNoTruthWord text)
      (noInteger : Text.readInt64? text.toList = none)
      (noNumber : Binary64.ofChars? text.toList = none) :
      IsUsual text

/-- The four ways in which a text from the environment is taken: as a truth value, as an integer, as
another number, or as it is. -/
theorem variableValue_cases (text : String) :
    (∃ value : Bool, lowercase text = (if value then "true" else "false") ∧
      variableValue text = .boolean value ∧ retold text = if value then "true" else "false") ∨
    IsNoTruthWord text ∧
      ((∃ n, Text.readInt64? text.toList = some n ∧ variableValue text = .whole n.toInt ∧
          retold text = String.ofList (Text.intDigits n.toInt)) ∨
        Text.readInt64? text.toList = none ∧
          ((∃ x, Binary64.ofChars? text.toList = some x ∧
              variableValue text = .number (.real x) ∧ retold text = String.ofList x.plainChars) ∨
            Binary64.ofChars? text.toList = none ∧ variableValue text = .text text ∧
              retold text = text)) := by
  by_cases isTrue : lowercase text = "true"
  · exact .inl ⟨true, by simp [variableValue, retold, isTrue]⟩
  by_cases isFalse : lowercase text = "false"
  · exact .inl ⟨false, by simp [variableValue, retold, isFalse]⟩
  refine .inr ⟨⟨isTrue, isFalse⟩, ?_⟩
  cases integer : Text.readInt64? text.toList with
  | some n => exact .inl ⟨n, by simp [variableValue, retold, isTrue, isFalse, integer]⟩
  | none =>
      refine .inr ⟨rfl, ?_⟩
      cases number : Binary64.ofChars? text.toList with
      | some x => exact .inl ⟨x, by simp [variableValue, retold, isTrue, isFalse, integer, number]⟩
      | none => exact .inr (by simp [variableValue, retold, isTrue, isFalse, integer, number])

/-- A setting that needs a text reads what is taken from the environment as its usual text. -/
theorem looseText_variableValue (text : String) :
    looseText.read? (.ofJson (variableValue text)) = some (retold text) := by
  rcases variableValue_cases text with
    ⟨value, -, taken, told⟩ | ⟨-, ⟨n, -, taken, told⟩ | ⟨-, rest⟩⟩
  · rw [taken, told]
    rfl
  · have held : heldNumber (.whole n.toInt) = .whole n.toInt := if_pos (Text.fitsInt64_toInt n)
    simp only [taken, told, Json.whole, Document.ofJson, looseText, held, numberText]
  · rcases rest with ⟨x, -, taken, told⟩ | ⟨-, taken, told⟩
    · rw [taken, told]
      rfl
    · rw [taken, told]
      rfl

/-- What is taken from the environment is a single value. -/
theorem variableValue_single (text : String) :
    (variableValue text).members? = none ∧ variableValue text ≠ .null := by
  rcases variableValue_cases text with
    ⟨_, -, taken, -⟩ | ⟨-, ⟨_, -, taken, -⟩ | ⟨-, ⟨_, -, taken, -⟩ | ⟨-, taken, -⟩⟩⟩
  all_goals
    rw [taken]
    exact ⟨rfl, Json.noConfusion⟩

/-- A text with a mark that no word for a truth value has is no such word. -/
theorem isNoTruthWord_of_mem
    {c : Char}
    {text : String}
    (ascii : c.toNat < 0x80)
    (caseless : c.toLower = c)
    (other : c ∉ "truefalse".toList)
    (member : c ∈ text.toList) :
    IsNoTruthWord text := by
  have kept : c ∈ (lowercase text).toList := by
    rw [lowercase, String.toList_ofList]
    exact Text.mem_lowerAfter ascii caseless member []
  have split : "truefalse".toList = "true".toList ++ "false".toList := by decide
  rw [split, List.mem_append, not_or] at other
  constructor
  · intro isTrue
    exact other.1 (isTrue ▸ kept)
  · intro isFalse
    exact other.2 (isFalse ▸ kept)

/-- The decimal form of an integer is no word for a truth value. -/
theorem isNoTruthWord_intDigits (n : Int) : IsNoTruthWord (String.ofList (Text.intDigits n)) := by
  cases n with
  | negSucc n =>
      have member : '-' ∈ (String.ofList (Text.intDigits (.negSucc n))).toList := by
        simp [Text.intDigits]
      exact isNoTruthWord_of_mem (by decide) (by decide) (by decide) member
  | ofNat n =>
      obtain ⟨c, cs, written⟩ := List.exists_cons_of_ne_nil (Text.natDigits_ne_nil n)
      have member : c ∈ (String.ofList (Text.intDigits (.ofNat n))).toList := by
        simp [Text.intDigits, written]
      have digit : c.isDigit = true := Text.isDigit_of_mem_natDigits (n := n) (by simp [written])
      have below : c.toNat < 58 := Nat.lt_succ_of_le (Char.isDigit_iff_toNat.mp digit).2
      have plain : c.toLower = c ∧ c ∉ "truefalse".toList := by
        revert digit
        apply Text.holds_of_table below
        decide
      exact isNoTruthWord_of_mem (by omega) plain.1 plain.2 member

/-- A text comes out as it was exactly if it is the usual text of what it reads as. -/
theorem retold_eq_self_iff (text : String) : retold text = text ↔ IsUsual text := by
  constructor
  · intro kept
    rcases variableValue_cases text with ⟨value, -, -, told⟩ | ⟨noTruth, rest⟩
    · rw [← kept, told]
      exact .truth value
    · rcases rest with ⟨n, -, -, told⟩ | ⟨noInteger, ⟨x, reads, -, told⟩ | ⟨noNumber, -, -⟩⟩
      · rw [← kept, told]
        exact .integer n
      · refine .number noTruth noInteger reads ?_
        rw [← String.toList_ofList (l := x.plainChars), ← told, kept]
      · exact .other noTruth noInteger noNumber
  · intro usual
    cases usual with
    | truth value => cases value <;> decide +kernel
    | integer n =>
        have noTruth := isNoTruthWord_intDigits n.toInt
        simp [retold, noTruth.1, noTruth.2]
    | number noTruth noInteger reads usual =>
        simp [retold, noTruth.1, noTruth.2, noInteger, reads, ← usual]
    | other noTruth noInteger noNumber =>
        simp [retold, noTruth.1, noTruth.2, noInteger, noNumber]

/-- A text with a mark that stands in no number and in no word is kept, such as any text with a
colon. -/
theorem isUsual_of_mem
    {c : Char}
    {text : String}
    (other : IsNoNumeral c)
    (ascii : c.toNat < 0x80)
    (member : c ∈ text.toList) :
    IsUsual text :=
  .other (isNoTruthWord_of_mem ascii other.toLower_eq (other.notMem (by decide)) member)
    (Text.readInt64?_of_mem other member) (Binary64.ofChars?_of_mem other member)

example : IsUsual "https://app.threatconnect.com/api" :=
  isUsual_of_mem (c := ':') ⟨by decide, by decide, by decide⟩ (by decide) (by decide)

/-! ## Settings that are texts -/

/-- A setting that is a text. -/
inductive TextSetting where
  /-- The token. -/
  | token
  /-- The key of signatures. -/
  | secretKey
  /-- The name under which the secret key is known. -/
  | accessId
  /-- The owner of added records. -/
  | defaultOwner
  /-- The base address of the server. -/
  | baseUrl
  deriving DecidableEq, Repr

namespace TextSetting

/-- The section of the settings, and the name in it. -/
def keys : TextSetting → List String
  | token => ["auth", "token"]
  | secretKey => ["auth", "secret_key"]
  | accessId => ["auth", "access_id"]
  | defaultOwner => ["api", "default_owner"]
  | baseUrl => ["api", "base_url"]

/-- The key of the setting. -/
def key (setting : TextSetting) : String :=
  ".".intercalate setting.keys

/-- The variable of the environment that states the setting. -/
def variableName : TextSetting → String
  | token => "TCEX__AUTH__TOKEN"
  | secretKey => "TCEX__AUTH__SECRET_KEY"
  | accessId => "TCEX__AUTH__ACCESS_ID"
  | defaultOwner => "TCEX__API__DEFAULT_OWNER"
  | baseUrl => "TCEX__API__BASE_URL"

/-- The value of the setting, if it has one. -/
def value? (settings : Settings) : TextSetting → Option String
  | token => settings.auth.token
  | secretKey => settings.auth.secretKey
  | accessId => settings.auth.accessId
  | defaultOwner => settings.api.defaultOwner
  | baseUrl => some settings.api.baseUrl

/-- The variable of a setting states its key. -/
theorem variableKey?_variableName (setting : TextSetting) :
    variableKey? setting.variableName = some setting.key := by
  cases setting <;> decide +kernel

/-- The key of a setting leads to it. -/
theorem ofKey_key (setting : TextSetting) :
    Path.ofKey setting.key = Path.ofKeys setting.keys := by
  cases setting <;> decide +kernel

end TextSetting

/-! ## Reading the sections -/

/-- A member that may not be left without a value is read from what the environment states. -/
theorem read?_defaulted_variableValue
    {text default value : String}
    (reads : (Entry.defaulted looseText default).read? (.given (.ofJson (variableValue text))) =
      some value) :
    value = retold text :=
  Option.some.inj (reads.symm.trans (looseText_variableValue text))

/-- A member that may be left without a value is read from what the environment states. -/
theorem read?_nullable_variableValue
    {text : String}
    {value : Option String}
    (reads : (Entry.nullable looseText).read? (.given (.ofJson (variableValue text))) =
      some value) :
    value = some (retold text) := by
  have present : Entry.readOptional? looseText (.ofJson (variableValue text)) =
      (looseText.read? (.ofJson (variableValue text))).map some := by
    have stated : variableValue text ≠ .null := (variableValue_single text).2
    cases taken : variableValue text with
    | null => exact absurd taken stated
    | boolean _ | number _ | text _ | array _ | object _ => rfl
  rw [looseText_variableValue] at present
  exact Option.some.inj (reads.symm.trans present)

/-- The sections of the settings are read from what an object states under their names. -/
theorem sections_of_read?
    {members : List (String × Json)}
    {settings : Settings}
    (reads : (codecWith conversions).readJson? (.object members) = some settings) :
    (∃ slot, Slot.ofName? (Document.ofMembers members) "api" = some slot ∧
      (Entry.defaulted (looseStructure (ApiSettings.form conversions)) {}).read? slot =
        some settings.api) ∧
    ∃ slot, Slot.ofName? (Document.ofMembers members) "auth" = some slot ∧
      (Entry.defaulted (looseStructure (Credentials.Settings.form looseMode looseText)) {}).read?
        slot = some settings.auth := by
  have named : (form conversions).named? (Document.ofMembers members) = some settings :=
    (Form.read?_codec_object _ _).symm.trans reads
  simp only [form, Form.named?_field, Form.named?_build, Option.bind_some, Option.bind_eq_some_iff,
    Option.map_eq_some_iff] at named
  obtain ⟨_, ⟨_, ⟨apiSlot, api, _, readApi, rfl⟩, authSlot, auth, _, readAuth, rfl⟩, _, _, _, _,
    rfl⟩ := named
  exact ⟨⟨apiSlot, api, readApi⟩, authSlot, auth, readAuth⟩

/-- The texts of the section about the server are read from what an object states under their
names. -/
theorem apiTexts_of_read?
    {members : List (String × Json)}
    {api : ApiSettings}
    (reads : (looseStructure (ApiSettings.form conversions)).readJson? (.object members) =
      some api) :
    (∃ slot, Slot.ofName? (Document.ofMembers members) "base_url" = some slot ∧
      (Entry.defaulted looseText ({} : ApiSettings).baseUrl).read? slot = some api.baseUrl) ∧
    ∃ slot, Slot.ofName? (Document.ofMembers members) "default_owner" = some slot ∧
      (Entry.nullable looseText).read? slot = some api.defaultOwner := by
  have named : (ApiSettings.form conversions).named? (Document.ofMembers members) = some api :=
    (Form.read?_codec_object _ _).symm.trans reads
  simp only [ApiSettings.form, Form.named?_field, Form.named?_build, Option.bind_some,
    Option.bind_eq_some_iff, Option.map_eq_some_iff] at named
  obtain ⟨_, ⟨_, ⟨_, ⟨_, ⟨urlSlot, url, _, readUrl, rfl⟩, _, -, _, -, rfl⟩, _, -, _, -, rfl⟩,
    _, -, _, -, rfl⟩, ownerSlot, owner, _, readOwner, rfl⟩ := named
  exact ⟨⟨urlSlot, url, readUrl⟩, ownerSlot, owner, readOwner⟩

/-- The texts of the section about credentials are read from what an object states under their
names. -/
theorem authTexts_of_read?
    {members : List (String × Json)}
    {auth : Credentials.Settings}
    (reads : (looseStructure (Credentials.Settings.form looseMode looseText)).readJson?
      (.object members) = some auth) :
    (∃ slot, Slot.ofName? (Document.ofMembers members) "access_id" = some slot ∧
      (Entry.nullable looseText).read? slot = some auth.accessId) ∧
    (∃ slot, Slot.ofName? (Document.ofMembers members) "secret_key" = some slot ∧
      (Entry.nullable looseText).read? slot = some auth.secretKey) ∧
    ∃ slot, Slot.ofName? (Document.ofMembers members) "token" = some slot ∧
      (Entry.nullable looseText).read? slot = some auth.token := by
  have named : (Credentials.Settings.form looseMode looseText).named?
      (Document.ofMembers members) = some auth :=
    (Form.read?_codec_object _ _).symm.trans reads
  simp only [Credentials.Settings.form, Form.named?_field, Form.named?_build, Option.bind_some,
    Option.bind_eq_some_iff, Option.map_eq_some_iff] at named
  obtain ⟨_, ⟨_, ⟨_, ⟨_, -, _, -, rfl⟩, idSlot, accessId, _, readId, rfl⟩, keySlot, secretKey, _,
    readKey, rfl⟩, tokenSlot, token, _, readToken, rfl⟩ := named
  exact ⟨⟨idSlot, accessId, readId⟩, ⟨keySlot, secretKey, readKey⟩, tokenSlot, token, readToken⟩

/-! ## Loading -/

/-- A setting is read from what the environment lays under its key. -/
theorem TextSetting.value?_of_under?
    {stated : Json}
    {settings : Settings}
    (reads : (codecWith conversions).readJson? stated = some settings)
    {setting : TextSetting}
    {text : String}
    (found : stated.under? setting.keys = some (variableValue text)) :
    setting.value? settings = some (retold text) := by
  obtain ⟨sectionName, name, keys⟩ : ∃ sectionName name, setting.keys = [sectionName, name] := by
    cases setting <;> exact ⟨_, _, rfl⟩
  rw [keys, Json.under?_cons, Option.bind_eq_some_iff] at found
  obtain ⟨inner, foundSection, found⟩ := found
  rw [Json.under?_cons, Option.bind_eq_some_iff] at found
  obtain ⟨value, foundValue, same⟩ := found
  cases same
  obtain ⟨outerMembers, rfl, sectionStated⟩ := Json.eq_object_of_get? foundSection
  obtain ⟨innerMembers, rfl, valueStated⟩ := Json.eq_object_of_get? foundValue
  obtain ⟨⟨apiSlot, apiNamed, readApi⟩, authSlot, authNamed, readAuth⟩ := sections_of_read? reads
  cases setting with
  | token =>
      cases keys
      cases Slot.eq_given_of_ofName? sectionStated authNamed
      obtain ⟨-, -, slot, named, read⟩ := authTexts_of_read? readAuth
      cases Slot.eq_given_of_ofName? valueStated named
      exact read?_nullable_variableValue read
  | secretKey =>
      cases keys
      cases Slot.eq_given_of_ofName? sectionStated authNamed
      obtain ⟨-, ⟨slot, named, read⟩, -⟩ := authTexts_of_read? readAuth
      cases Slot.eq_given_of_ofName? valueStated named
      exact read?_nullable_variableValue read
  | accessId =>
      cases keys
      cases Slot.eq_given_of_ofName? sectionStated authNamed
      obtain ⟨⟨slot, named, read⟩, -⟩ := authTexts_of_read? readAuth
      cases Slot.eq_given_of_ofName? valueStated named
      exact read?_nullable_variableValue read
  | defaultOwner =>
      cases keys
      cases Slot.eq_given_of_ofName? sectionStated apiNamed
      obtain ⟨-, slot, named, read⟩ := apiTexts_of_read? readApi
      cases Slot.eq_given_of_ofName? valueStated named
      exact read?_nullable_variableValue read
  | baseUrl =>
      cases keys
      cases Slot.eq_given_of_ofName? sectionStated apiNamed
      obtain ⟨⟨slot, named, read⟩, -⟩ := apiTexts_of_read? readApi
      cases Slot.eq_given_of_ofName? valueStated named
      exact congrArg some (read?_defaulted_variableValue read)

/-- Settings that are loaded have been read from what the file states, overlaid with what the
environment states. -/
theorem exists_stated_of_load
    {files : Files}
    {environment : List (String × String)}
    {path : String}
    {settings : Settings}
    (loaded : load files environment path = .ok settings) :
    ∃ members, ofFile files path = .ok members ∧
      (codecWith conversions).readJson?
        (setAll (setAll (.object []) members) (ofEnvironment environment)) = some settings := by
  unfold load at loaded
  cases file : ofFile files path with
  | error fault =>
      rw [file] at loaded
      cases loaded
  | ok members =>
      rw [file] at loaded
      refine ⟨members, rfl, ?_⟩
      simp only [bind, Except.bind] at loaded
      split at loaded
      · cases loaded
      · next read reads =>
          rw [reads]
          cases valid : read.validate with
          | error fault =>
              rw [valid] at loaded
              cases loaded
          | ok _ =>
              rw [valid] at loaded
              cases loaded
              rfl

/-- Without files, settings come from the environment alone. -/
theorem ofFile_of_no_files (here : List String) (path : String) :
    ofFile ⟨here, []⟩ path = .ok [] := by
  have noFile (path : String) : Files.read? ⟨here, []⟩ path = none := by
    have noText (place : List String) (content : String) :
        Files.node? ⟨here, []⟩ place ≠ some (.file content) := by
      simp [Files.node?]
    simp only [Files.read?, Option.bind_eq_bind, Option.bind_eq_none_iff]
    intro place _ node standing
    cases node with
    | file content => exact absurd standing (noText place content)
    | folder => rfl
  simp [ofFile, file?, noFile, FileFormat.all]

/-- What a variable of the environment states for a text setting, where nothing behind it states
this setting too, is loaded as its usual text; that is the same text exactly if it is a usual one.
-/
theorem load_text_of_variable
    {files : Files}
    {path : String}
    (before later : List (String × String))
    {name text : String}
    {setting : TextSetting}
    {settings : Settings}
    (states : variableKey? name = some setting.key)
    (apart : ∀ entry ∈ ofEnvironment later,
      Path.PartsFrom (Path.ofKey entry.1) setting.keys)
    (loaded : load files (before ++ (name, text) :: later) path = .ok settings) :
    setting.value? settings = some (retold text) ∧ (retold text = text ↔ IsUsual text) := by
  refine ⟨?_, retold_eq_self_iff text⟩
  have entries : ofEnvironment (before ++ (name, text) :: later) =
      ofEnvironment before ++ (setting.key, variableValue text) :: ofEnvironment later := by
    simp [ofEnvironment, states]
  obtain ⟨members, -, reads⟩ := exists_stated_of_load loaded
  rw [entries] at reads
  exact setting.value?_of_under? reads
    (under?_setAll_append setting.ofKey_key (variableValue_single text).1 apart _ _)

/-- A token that is an integer with leading zeros loses them. -/
theorem load_text_of_variable_of_zeros :
    load ⟨[], []⟩ [("TCEX__AUTH__MODE", "token"), ("TCEX__AUTH__TOKEN", "007"),
        ("TCEX__API__RESULT_LIMIT", "50")] "tcex.toml" =
      .ok { api := { resultLimit := 50 }, auth := { mode := .token, token := some "7" } } ∧
    retold "007" = "7" ∧ ¬ IsUsual "007" := by
  have loaded : load ⟨[], []⟩ [("TCEX__AUTH__MODE", "token"), ("TCEX__AUTH__TOKEN", "007"),
        ("TCEX__API__RESULT_LIMIT", "50")] "tcex.toml" =
      .ok { api := { resultLimit := 50 }, auth := { mode := .token, token := some "7" } } := by
    rw [load, ofFile_of_no_files]
    decide +kernel
  have parts : Path.PartsFrom (Path.ofKey "api.result_limit") TextSetting.token.keys := by
    have leads : Path.ofKey "api.result_limit" = [.member "api", .member "result_limit"] := by
      decide +kernel
    rw [leads]
    exact .here (by decide)
  have entries : ofEnvironment [("TCEX__API__RESULT_LIMIT", "50")] =
      [("api.result_limit", .whole 50)] := by
    decide +kernel
  have told := load_text_of_variable [("TCEX__AUTH__MODE", "token")]
    [("TCEX__API__RESULT_LIMIT", "50")] TextSetting.token.variableKey?_variableName
    (by simpa [entries] using parts) loaded
  have zeros : retold "007" = "7" := by decide +kernel
  exact ⟨loaded, zeros, fun usual => absurd (told.2.mpr usual) (by decide +kernel)⟩

/-- Not every token that is stated by the environment alone is loaded as it is: one with leading
zeros is not. -/
theorem not_load_verbatim_of_zeros :
    ¬ ∀ (text : String) (settings : Settings),
      load ⟨[], []⟩ [("TCEX__AUTH__MODE", "token"), ("TCEX__AUTH__TOKEN", text)] "tcex.toml" =
        .ok settings →
      TextSetting.token.value? settings = some text := by
  intro verbatim
  have loaded : load ⟨[], []⟩ [("TCEX__AUTH__MODE", "token"), ("TCEX__AUTH__TOKEN", "007")]
      "tcex.toml" = .ok { auth := { mode := .token, token := some "7" } } := by
    rw [load, ofFile_of_no_files]
    decide +kernel
  exact absurd (verbatim "007" _ loaded) (by decide)

end Settings
end ThreatIntel
