import Graft.Error
import Graft.Text.Split

namespace Graft

/-- A cluster by its ARM resource id, with the name that the id tells and the region it lies in. -/
structure ClusterIdentity where
  armId : String := ""
  armRegion : String := ""
  clusterName : String := ""
deriving DecidableEq, Repr, Inhabited

namespace ClusterIdentity

/-- Simple case folding of the characters that fold to ASCII; these are the ASCII letters, the long s and
the Kelvin sign. -/
def fold (c : Char) : Char :=
  if c = 'ſ' then 's' else if c = '\u212a' then 'k' else c.toLower

/-- Equality but for case. -/
def sameWord (word : String) (cs : List Char) : Bool := word.toList.map fold == cs.map fold

/-- The name of the cluster in an id of the form `/subscriptions/S/resourceGroups/G/providers/P/T/N`, which
may go on with a slash and text of one line. -/
def nameOf? (id : String) : Option String :=
  match Text.split '/' id.toList with
  | [] :: subscriptions :: s :: groups :: g :: providers :: p :: t :: n :: rest =>
    if sameWord "subscriptions" subscriptions && sameWord "resourceGroups" groups
        && sameWord "providers" providers && s != [] && g != [] && p != [] && t != [] && n != []
        && rest.all (fun part => !part.contains '\n') then
      some (String.ofList n)
    else none
  | _ => none

def parse (armId armRegion : String) : Except Error ClusterIdentity :=
  match nameOf? armId with
  | some clusterName => .ok { armId, armRegion, clusterName }
  | none => .error (.invalidArmId armId)

end ClusterIdentity

end Graft
