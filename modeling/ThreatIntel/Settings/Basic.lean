import ThreatIntel.Credentials.Settings
import ThreatIntel.Error
import ThreatIntel.Exchange.Window
import ThreatIntel.Text.Blank

/-!
# Settings

What a client has to know before it can work: where the server is, how to prove who asks, and what
to report on the way. Settings that cannot work are refused before they are used.
-/

namespace ThreatIntel

/-- Where the server is, and how it is asked. -/
structure ApiSettings where
  /-- The base address of the server. -/
  baseUrl : String := "https://app.threatconnect.com/api"
  /-- How many seconds an answer may take. -/
  timeoutSeconds : UInt64 := 30
  /-- Whether the certificate of the server is checked. -/
  verifySsl : Bool := true
  /-- How many records one page may hold. -/
  resultLimit : UInt32 := 100
  /-- The owner of added records, if one is named. -/
  defaultOwner : Option String := none
  deriving DecidableEq, Repr

/-- What is reported on the way. -/
structure LogSettings where
  /-- How much is reported. -/
  level : String := "warn"
  /-- How it is written. -/
  format : String := "pretty"
  deriving DecidableEq, Repr

/-- All settings of a client. -/
structure Settings where
  /-- Where the server is, and how it is asked. -/
  api : ApiSettings := {}
  /-- What credentials are stored. -/
  auth : Credentials.Settings := {}
  /-- What is reported on the way. -/
  logging : LogSettings := {}
  deriving DecidableEq, Repr

/-- How single values of settings are read. -/
structure SettingCodecs where
  /-- Texts. -/
  text : Codec String
  /-- Truth values. -/
  boolean : Codec Bool
  /-- Words of 32 bits. -/
  word32 : Codec UInt32
  /-- Words of 64 bits. -/
  word64 : Codec UInt64
  /-- Modes of authentication. -/
  mode : Codec Credentials.Mode
  /-- Structures of settings. -/
  structured : {ρ : Type} → Form ρ ρ → Codec ρ

/-- Single values read as they are written. -/
def SettingCodecs.strict : SettingCodecs where
  text := .text
  boolean := .boolean
  word32 := .uint32
  word64 := .uint64
  mode := Credentials.Mode.codec
  structured form := form.codec

namespace ApiSettings

/-- The members of the settings. -/
def form (codecs : SettingCodecs) : Form ApiSettings ApiSettings :=
  Form.build ApiSettings.mk
    |>.field "base_url" (·.baseUrl) (.defaulted codecs.text ({} : ApiSettings).baseUrl)
    |>.field "timeout_seconds" (·.timeoutSeconds) (.defaulted codecs.word64 30)
    |>.field "verify_ssl" (·.verifySsl) (.defaulted codecs.boolean true)
    |>.field "result_limit" (·.resultLimit) (.defaulted codecs.word32 100)
    |>.field "default_owner" (·.defaultOwner) (.nullable codecs.text)

end ApiSettings

namespace LogSettings

/-- The members of the settings. -/
def form (codecs : SettingCodecs) : Form LogSettings LogSettings :=
  Form.build LogSettings.mk
    |>.field "level" (·.level) (.defaulted codecs.text "warn")
    |>.field "format" (·.format) (.defaulted codecs.text "pretty")

end LogSettings

namespace Settings

/-- The members of the settings. -/
def form (codecs : SettingCodecs) : Form Settings Settings :=
  Form.build Settings.mk
    |>.field "api" (·.api) (.defaulted (codecs.structured (ApiSettings.form codecs)) {})
    |>.field "auth" (·.auth)
      (.defaulted (codecs.structured (Credentials.Settings.form codecs.mode codecs.text)) {})
    |>.field "logging" (·.logging) (.defaulted (codecs.structured (LogSettings.form codecs)) {})

/-- How settings are written, given how single values are read. -/
def codecWith (codecs : SettingCodecs) : Codec Settings :=
  codecs.structured (form codecs)

/-- How settings are written. -/
def codec : Codec Settings := codecWith .strict

/-- Why settings cannot work. -/
inductive Fault where
  /-- There is no base address. -/
  | noBaseUrl
  /-- A page may hold no record, or too many. -/
  | resultLimit
  /-- Signatures need a key and its name. -/
  | noKey
  /-- There is no token. -/
  | noToken
  deriving DecidableEq, Repr

namespace Fault

/-- A fault in words. -/
def message : Fault → String
  | noBaseUrl => "api.base_url must not be empty"
  | resultLimit => "api.result_limit must be between 1 and 10000"
  | noKey => "auth.access_id and auth.secret_key are required for hmac auth"
  | noToken => "auth.token is required for token auth"

end Fault

/-- What the chosen mode of authentication lacks. -/
def missingCredentials? (auth : Credentials.Settings) : Option Fault :=
  match auth.mode with
  | .hmac => if auth.accessId.isNone || auth.secretKey.isNone then some .noKey else none
  | .token => if auth.token.isNone then some .noToken else none
  | .none => none

/-- The first thing for which settings cannot work. -/
def fault? (settings : Settings) : Option Fault :=
  if (Text.trim settings.api.baseUrl.toList).isEmpty then some .noBaseUrl
  else if settings.api.resultLimit = 0 ∨ Window.greatestLimit < settings.api.resultLimit then
    some .resultLimit
  else missingCredentials? settings.auth

/-- Check that settings can work. -/
def validate (settings : Settings) : Except Error Unit :=
  match settings.fault? with
  | some fault => .error (.configuration fault.message)
  | none => .ok ()

end Settings
end ThreatIntel
