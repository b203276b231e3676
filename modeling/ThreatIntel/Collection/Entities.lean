import ThreatIntel.Collection.Walk
import ThreatIntel.Record.Entity

/-!
# Walks over entities

The walk over a collection for those who learn its kind only when they ask. It calls the pager of
the collection until this answers with an entity of the kind, with an error, or with the end; how
often it may call at most is its fuel.
-/

namespace ThreatIntel
namespace Pager

/-- The next entity of a kind, after at most `fuel` calls on the pager. -/
def nextEntity (server : Server) (resource : Resource) :
    (fuel : Nat) → Pager → Session (Step Entity × Pager)
  | 0, pager => pure (.unfinished, pager)
  | fuel + 1, pager => do
      match ← pager.next server with
      | (none, pager) => pure (.ended, pager)
      | (some (.error error), pager) => pure (.failed error, pager)
      | (some (.ok json), pager) =>
          match Entity.read resource json with
          | .ok entity => pure (.item entity, pager)
          | .error _ => nextEntity server resource fuel pager

end Pager
end ThreatIntel
