import Mathlib.Data.Finset.Basic
import Noc.Foundation.CString
import Noc.Foundation.Json

/-!
# Static routes

The route record of `core/network/route/route.c` with its codec, and the
kernel's routing table as the `ip route` commands see it.
-/

namespace Noc
namespace Network

open Foundation
open Foundation.Json

structure Route where
  id : Option String := none
  interface : Option String := none
  ipMask : Option String := none
  targetIp : Option String := none
  name : Option String := none
  deriving DecidableEq, Repr

/-!
## Codec
-/

def cvtRouteToJson (route : Route) : Json :=
  mkObject
    [("id", ofString route.id),
     ("interface", ofString route.interface),
     ("ip_mask", ofString route.ipMask),
     ("target_ip", ofString route.targetIp),
     ("name", ofString route.name)]

def cvtJsonToRoute (json : Option Json) : Route :=
  { id := readString json "id"
    interface := readString json "interface"
    ipMask := readString json "ip_mask"
    targetIp := readString json "target_ip"
    name := readString json "name" }

def cvtRouteListToJson (routes : List Route) : Json :=
  encodeList cvtRouteToJson routes

def cvtJsonToRouteList (json : Option Json) : List Route :=
  decodeList cvtJsonToRoute json

theorem cvtJsonToRoute_cvtRouteToJson (route : Route) :
    cvtJsonToRoute (some (cvtRouteToJson route)) = route := by
  simp [cvtJsonToRoute, cvtRouteToJson, readString]

@[simp] theorem cvtJsonToRouteList_cvtRouteListToJson (routes : List Route) :
    cvtJsonToRouteList (some (cvtRouteListToJson routes)) = routes :=
  decodeList_encodeList fun route _ => cvtJsonToRoute_cvtRouteToJson route

/-!
## The routing table

A set of triples: destination, gateway and interface.  `ip route add` inserts
the triple it names and `ip route del` removes exactly that triple.
-/

abbrev KernelRoute := String × String × String

/-- The triple a command composed from the record names. -/
def Route.triple (route : Route) : KernelRoute :=
  (formatted route.ipMask, formatted route.targetIp, formatted route.interface)

inductive IpRouteCommand where
  | add (route : KernelRoute)
  | del (route : KernelRoute)
  deriving DecidableEq, Repr

def IpRouteCommand.apply (table : Finset KernelRoute) :
    IpRouteCommand -> Finset KernelRoute
  | .add route => insert route table
  | .del route => table.erase route

def runIpRoute (table : Finset KernelRoute) (commands : List IpRouteCommand) :
    Finset KernelRoute :=
  commands.foldl IpRouteCommand.apply table

/-- The triples of the routes a file holds. -/
def triples (routes : List Route) : Finset KernelRoute :=
  (routes.map Route.triple).toFinset

end Network
end Noc
