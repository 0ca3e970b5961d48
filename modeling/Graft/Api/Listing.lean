import Graft.Json.Reader

namespace Graft.Api

open Json

/-- A page of a list: its items, the version of the list, and what to ask the next page by. -/
structure Listing (α : Type) where
  items : List α
  resourceVersion : Option String := none
  next : Option String := none

/-- The metadata of a list. -/
structure ListMeta where
  resourceVersion : Option String := none
  next : Option String := none

def ListMeta.read : Reader ListMeta := fun d => do
  let text := Reader.check (Reader.optional Reader.string)
  let r ← Record.readLenient [("continue", text), ("remainingItemCount", Reader.check (Reader.optional Reader.int64)),
    ("resourceVersion", text), ("selfLink", text)] d
  return {
    resourceVersion := ← r.optional "resourceVersion" Reader.string
    next := ← r.optional "continue" Reader.string }

/-- Reads a list; its own type is not looked at. An empty version or token counts as none. -/
def Listing.read {α : Type} (item : Reader α) : Reader (Listing α) := fun d => do
  let (r, _) ← Record.readOpen [("items", Reader.check (Reader.list item)), ("metadata", Reader.check ListMeta.read)] d
  let listMeta ← r.orElse "metadata" ListMeta.read {}
  let items ← r.required "items" (Reader.list item)
  let filled (text : Option String) : Option String := text.filter (· != "")
  return { items, resourceVersion := filled listMeta.resourceVersion, next := filled listMeta.next }

end Graft.Api
