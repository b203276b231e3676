import Mathlib.Tactic.SplitIfs
import ThreatIntel.Command.Run
import ThreatIntel.Proofs.Collection.Requests
import ThreatIntel.Proofs.Staging.Outcomes

/-!
# The client that settings describe

Settings are checked before a client is made of them, and the signer looks at the credentials again;
it misses nothing that the check has found. Main statement: from settings that pass the check comes
a client that asks for pages of the size they name, stages for the owner they name and proves who it
is with the credentials of their mode alone, or an error about the settings.
-/

namespace ThreatIntel

/-! ## Credentials -/

namespace Credentials
namespace Settings

/-- Other credentials of the same mode, with the same texts for all that this mode uses. -/
def Alike (auth other : Settings) : Prop :=
  other.mode = auth.mode ∧
    match auth.mode with
    | .none => True
    | .token => other.token = auth.token
    | .hmac => other.accessId = auth.accessId ∧ other.secretKey = auth.secretKey

/-- The headers of a request in the mode of the credentials: none, the token, or the name of the key
and a signature of the target, the method and the time. -/
inductive Authorizes (auth : Settings) (target : String) (method : Method) (time : Int64) :
    List (String × String) → Prop
  | none (mode : auth.mode = .none) : Authorizes auth target method time []
  | token
      {value : String}
      (mode : auth.mode = .token)
      (stored : auth.token = some value) :
      Authorizes auth target method time [("Authorization", "TC-Token " ++ value)]
  | hmac
      {accessId secretKey : String}
      (mode : auth.mode = .hmac)
      (storedId : auth.accessId = some accessId)
      (storedKey : auth.secretKey = some secretKey) :
      Authorizes auth target method time
        [("Authorization", "TC " ++ accessId ++ ":" ++ Digest.signature secretKey
            (target ++ ":" ++ method.token ++ ":" ++ String.ofList (Text.intDigits time.toInt))),
          ("Timestamp", String.ofList (Text.intDigits time.toInt))]

/-- Where nothing is missing there is a signer, and its headers are those of the mode. -/
theorem exists_signer
    {auth : Settings}
    (complete : ThreatIntel.Settings.missingCredentials? auth = none) :
    ∃ signer, Signer.ofSettings auth = .ok signer ∧
      ∀ target method time, auth.Authorizes target method time
        (signer.headers target method time) := by
  unfold ThreatIntel.Settings.missingCredentials? at complete
  unfold Signer.ofSettings
  cases mode : auth.mode with
  | none => exact ⟨.none, rfl, fun _ _ _ => .none mode⟩
  | token =>
      cases stored : auth.token with
      | none => simp [mode, stored] at complete
      | some value => exact ⟨.token value, rfl, fun _ _ _ => .token mode stored⟩
  | hmac =>
      cases storedId : auth.accessId with
      | none => simp [mode, storedId] at complete
      | some accessId =>
          cases storedKey : auth.secretKey with
          | none => simp [mode, storedId, storedKey] at complete
          | some secretKey =>
              exact ⟨.hmac accessId secretKey, rfl, fun _ _ _ => .hmac mode storedId storedKey⟩

section

variable
  {auth other : Settings}
  (alike : auth.Alike other)

include alike

/-- Nothing else is missing from credentials that are alike. -/
theorem missingCredentials?_of_alike :
    ThreatIntel.Settings.missingCredentials? other =
      ThreatIntel.Settings.missingCredentials? auth := by
  obtain ⟨sameMode, used⟩ := alike
  unfold ThreatIntel.Settings.missingCredentials?
  rw [sameMode]
  cases mode : auth.mode with
  | none => rfl
  | token =>
      rw [mode] at used
      simp only [used]
  | hmac =>
      rw [mode] at used
      simp only [used]

/-- Credentials that are alike make the same signer. -/
theorem signer_of_alike : Signer.ofSettings other = Signer.ofSettings auth := by
  obtain ⟨sameMode, used⟩ := alike
  unfold Signer.ofSettings
  rw [sameMode]
  cases mode : auth.mode with
  | none => rfl
  | token =>
      rw [mode] at used
      simp only [used]
  | hmac =>
      rw [mode] at used
      simp only [used]

end

end Settings
end Credentials

/-! ## Settings that pass the check -/

theorem Window.clampLimit_of_bounded
    {limit : UInt32}
    (least : limit ≠ 0)
    (most : ¬Window.greatestLimit < limit) :
    Window.clampLimit limit = limit := by
  have positive : ¬limit < 1 := by
    intro below
    have zero : limit.toNat = 0 := Nat.lt_one_iff.mp (UInt32.lt_iff_toNat_lt.mp below)
    exact least (UInt32.toNat_inj.mp zero)
  rw [Window.clampLimit, if_neg positive, if_neg most]

namespace Settings

theorem fault?_of_valid
    {settings : Settings}
    (valid : settings.validate = .ok ()) :
    settings.fault? = none := by
  unfold validate at valid
  cases fault : settings.fault? with
  | none => rfl
  | some fault =>
      rw [fault] at valid
      cases valid

/-- The limit of settings that pass the check is within the bounds of a page. -/
theorem clampLimit_of_valid
    {settings : Settings}
    (valid : settings.validate = .ok ()) :
    Window.clampLimit settings.api.resultLimit = settings.api.resultLimit := by
  have sound := fault?_of_valid valid
  unfold fault? at sound
  split_ifs at sound with noBase outside
  rw [not_or] at outside
  exact Window.clampLimit_of_bounded outside.1 outside.2

theorem missingCredentials?_of_valid
    {settings : Settings}
    (valid : settings.validate = .ok ()) :
    missingCredentials? settings.auth = none := by
  have sound := fault?_of_valid valid
  unfold fault? at sound
  split_ifs at sound
  exact sound

/-- Credentials that are alike pass the check or not alike. -/
theorem validate_of_alike
    {settings : Settings}
    {auth : Credentials.Settings}
    (alike : settings.auth.Alike auth) :
    { settings with auth := auth }.validate = settings.validate := by
  simp only [validate, fault?, Credentials.Settings.missingCredentials?_of_alike alike]

end Settings

/-- A base address that cannot be used is a fault of the settings. -/
theorem Site.kind_of_locate
    {base : String}
    {signer : Credentials.Signer}
    {error : Error}
    (fails : Site.locate base signer = .error error) :
    error.kind = .configuration := by
  unfold locate at fails
  dsimp only at fails
  split at fails
  · cases fails
  · cases fails
    rfl

/-- The site of settings that pass the check lies at their base address. -/
theorem Site.ofSettings_of_valid
    {settings : Settings}
    {signer : Credentials.Signer}
    (valid : settings.validate = .ok ())
    (signs : Credentials.Signer.ofSettings settings.auth = .ok signer) :
    Site.ofSettings settings = Site.locate settings.api.baseUrl signer := by
  simp only [ofSettings, valid, ofCredentials, signs, bind, Except.bind]

theorem Site.signer_of_locate
    {base : String}
    {signer : Credentials.Signer}
    {site : Site}
    (located : Site.locate base signer = .ok site) :
    site.signer = signer := by
  unfold locate at located
  dsimp only at located
  split at located
  · cases located
    rfl
  · cases located

/-- The headers of a request that leaves are those of the signer. -/
theorem Site.headers_of_dispatch
    {site : Site}
    {time : Int64}
    {request : Request}
    {leaving : Dispatch}
    (leaves : site.dispatch time request = .ok leaving) :
    leaving.headers =
      site.signer.headers (String.ofList leaving.url.target) leaving.method time := by
  unfold Site.dispatch at leaves
  cases address : site.url request with
  | error error =>
      rw [address] at leaves
      cases leaves
  | ok url =>
      rw [address] at leaves
      cases leaves
      rfl

/-! ## The client -/

/-- A connection does what settings say: its requests go to the site of the settings and prove who
asks in the mode of the settings, its collections are asked for in pages of the size that the
settings name, and records are staged for the owner that the settings name. -/
structure Connection.Serves
    (connection : Connection)
    (settings : Settings)
    (network : Network) : Prop where
  /-- Every request carries the headers of the mode. -/
  headers : ∃ site, Site.ofSettings settings = .ok site ∧ connection.server = site.server network ∧
    ∀ time request leaving, site.dispatch time request = .ok leaving →
      settings.auth.Authorizes (String.ofList leaving.url.target) leaving.method time
        leaving.headers
  /-- However a collection is used, each of its requests names the limit. -/
  pages : ∀ (resource : Resource) (query : Query.Expression) {log pager later},
    Pager.Used connection.server
      { connection.client.collection resource with query := query }.walk log pager later →
    ∃ requests, later = log ++ requests ∧ ∀ request ∈ requests,
      request.values "resultLimit" =
        [String.ofList (Text.natDigits settings.api.resultLimit.toNat)]
  /-- Whatever is staged without an owner of its own goes to the default owner. -/
  staging : ∀ (items : List Staging.Item) (log : List Request),
    ∃ outcomes requests,
      (Staging.stageAll connection.server (connection.client.owner none) items).run log =
        (outcomes, log ++ requests) ∧
      (∀ outcome ∈ outcomes, outcome.owner = settings.api.defaultOwner) ∧
      ∀ request ∈ requests, request.values "owner" = settings.api.defaultOwner.toList

/-- A collection of the client is asked for in pages of the size that the settings name. -/
theorem Client.limit_of_used
    {settings : Settings}
    (valid : settings.validate = .ok ())
    {server : Server}
    {resource : Resource}
    {query : Query.Expression}
    {pager : Pager}
    {log later : List Request}
    (used : Pager.Used server
      { (Client.ofSettings settings).collection resource with query := query }.walk log pager
      later) :
    ∃ requests, later = log ++ requests ∧ ∀ request ∈ requests,
      request.values "resultLimit" =
        [String.ofList (Text.natDigits settings.api.resultLimit.toNat)] := by
  obtain ⟨requests, sent, asks⟩ := used.continues.sent
  have limit : ((Client.ofSettings settings).collection resource).window.limit =
      settings.api.resultLimit := Settings.clampLimit_of_valid valid
  refine ⟨requests, sent, fun request member => ?_⟩
  rw [(asks request member).limit]
  exact congrArg (fun limit : UInt32 => [String.ofList (Text.natDigits limit.toNat)]) limit

namespace Staging

/-- The requests and the outcomes of staged items name the owner. -/
theorem owner_of_stageAll
    (server : Server)
    (owner : Option String)
    (items : List Item)
    (log : List Request) :
    ∃ outcomes requests,
      (stageAll server owner items).run log = (outcomes, log ++ requests) ∧
      (∀ outcome ∈ outcomes, outcome.owner = owner) ∧
      ∀ request ∈ requests, request.values "owner" = owner.toList := by
  have reported := reported_stageAll server owner items log
  refine ⟨_, items.filterMap (Item.request? owner), Prod.ext rfl reported.sent, ?_, ?_⟩
  · intro outcome member
    obtain ⟨index, inside, rfl⟩ := List.mem_iff_getElem.mp member
    have place : index < items.length := reported.length ▸ inside
    obtain ⟨other, found, -, owned, -⟩ :=
      reported.each index items[index] (List.getElem?_eq_getElem place)
    rw [List.getElem?_eq_getElem inside] at found
    cases found
    exact owned
  · intro request member
    obtain ⟨item, inside, sends⟩ := List.mem_filterMap.mp member
    rcases reported.requests item inside with ⟨-, body, sent⟩ | ⟨-, none⟩
    · cases sends.symm.trans sent
      cases owner <;> simp [Request.values, Request.post]
    · cases sends.symm.trans none

end Staging

/-- A connection that comes of settings that pass the check does what they say. -/
theorem Command.serves_of_connect
    {settings : Settings}
    (valid : settings.validate = .ok ())
    {network : Network}
    {connection : Connection}
    (connected : Command.connect network (.ok settings) = .ok connection) :
    connection.Serves settings network := by
  obtain ⟨signer, signs, authorizes⟩ :=
    Credentials.Settings.exists_signer (Settings.missingCredentials?_of_valid valid)
  unfold connect at connected
  cases reached : Site.ofSettings settings with
  | error error =>
      simp only [reached, bind, Except.bind] at connected
      cases connected
  | ok site =>
      simp only [reached, bind, Except.bind, pure, Except.pure] at connected
      cases connected
      have located := reached
      rw [Site.ofSettings_of_valid valid signs] at located
      refine ⟨⟨site, reached, rfl, ?_⟩, fun resource query => Client.limit_of_used valid,
        Staging.owner_of_stageAll (site.server network) settings.api.defaultOwner⟩
      intro time request leaving leaves
      rw [Site.headers_of_dispatch leaves, Site.signer_of_locate located]
      exact authorizes _ _ _

/-- Settings with a token, and with credentials of the other mode beside it. -/
def tokenSettings : Settings :=
  { api := { baseUrl := "https://tc.example.com/api/", resultLimit := 250,
             defaultOwner := some "Acme" }
    auth := { mode := .token, accessId := some "12345", token := some "abc" } }

end ThreatIntel
