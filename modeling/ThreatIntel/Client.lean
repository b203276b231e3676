import ThreatIntel.Collection.Walk
import ThreatIntel.Settings.Basic

/-!
# Clients

What a client of the server holds beside the server itself: how many records it asks for at once,
and for whom it adds records.
-/

namespace ThreatIntel

/-- The choices of a client. -/
structure Client where
  /-- How many records one page may hold. -/
  limit : UInt32 := 100
  /-- The owner of added records, if one is named. -/
  defaultOwner : Option String := none
  deriving DecidableEq

namespace Client

/-- The client that settings describe. -/
def ofSettings (settings : Settings) : Client :=
  ⟨settings.api.resultLimit, settings.api.defaultOwner⟩

/-- All records of a kind. -/
def collection (client : Client) (resource : Resource) : Collection :=
  { resource := resource, window := .ofBounds client.limit 0 }

/-- The owner of added records where one may be given for the occasion. -/
def owner (client : Client) (given : Option String) : Option String :=
  given <|> client.defaultOwner

end Client
end ThreatIntel
