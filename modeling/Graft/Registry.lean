import Graft.Assoc
import Graft.Instrumentation

namespace Graft

structure ResourceKey where
  ns : String
  name : String
deriving DecidableEq, Repr, Inhabited

def Instrumentation.key (i : Instrumentation) : ResourceKey := ⟨i.metadata.ns.getD "", i.name⟩

/-- The instrumentation resources that are known, by namespace and name. -/
abbrev Registry := Assoc ResourceKey Instrumentation

namespace Registry

def upsert (r : Registry) (i : Instrumentation) : Registry := r.set i.key i

/-- Takes over the resources of a listing: each is inserted, then every key that the listing lacks goes. -/
def replaceAll (r : Registry) (listing : List Instrumentation) : Registry :=
  (listing.foldl upsert r).filter fun e => listing.any fun i => i.key == e.1

end Registry

/-- What the API server reports. A listing stands between `listing` and `listed`. -/
inductive WatchEvent where
  | applied (resource : Instrumentation)
  | deleted (resource : Instrumentation)
  | listing
  | listingItem (resource : Instrumentation)
  | listed
deriving DecidableEq, Inhabited

/-- A registry that follows reports, with the listing that is being collected. A listing takes effect at once at its
end, so that resources deleted meanwhile disappear and none is missing in between. -/
structure Follower where
  registry : Registry := []
  listing : Option (List Instrumentation) := none
deriving Inhabited

/-- The follower after one report. An item outside a listing counts as applied. -/
def Follower.handle (f : Follower) : WatchEvent → Follower
  | .applied i => { f with registry := f.registry.upsert i }
  | .deleted i => { f with registry := f.registry.erase i.key }
  | .listing => { f with listing := some [] }
  | .listingItem i =>
    match f.listing with
    | some items => { f with listing := some (items ++ [i]) }
    | none => { f with registry := f.registry.upsert i }
  | .listed =>
    match f.listing with
    | some items => { registry := f.registry.replaceAll items, listing := none }
    | none => f

end Graft
