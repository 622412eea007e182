import ServiceDiscovery.Multicast.Advert

/-!
# The responder

The responder speaks to the network: it searches for the instances of a type
and answers for the adverts registered with it. Here is what it refuses. A type
it is to search for must end in a transport and the local domain; of an advert
this is asked of the full name, whose last label before that ending must be an
underscore followed by the name of a service. Once it was shut down it refuses
everything that it would have to pass on to the network.

Nobody is told of the node's own adverts, so that a name can be registered
twice, and a name that is not registered can be taken back.
-/

namespace ServiceDiscovery

/-- The endings of the types that can be searched for. -/
def localEndings : List (List Char) := ["._tcp.local.".toList, "._udp.local.".toList]

/-- The length of these endings. -/
def localEndingLength : Nat := 12

/-- Whether a name ends in a transport and the local domain. -/
def isLocal (name : List Char) : Bool := localEndings.any (·.isSuffixOf name)

/-- Whether two hyphens follow each other. -/
def hasDoubleHyphen : List Char → Bool
  | '-' :: '-' :: _ => true
  | _ :: cs => hasDoubleHyphen cs
  | [] => false

/-- What is wrong with the label of a service, which starts with an
    underscore. -/
def labelFault? : List Char → Option MulticastFault
  | '_' :: name =>
    if hasDoubleHyphen name then some .doubleHyphen
    else if name.head? = some '-' || name.getLast? = some '-' then some .edgeHyphen
    else if name.any Char.isAlpha then none
    else some .noLetter
  | _ => some .nameStart

/-- What is wrong with a type to be searched for. -/
def searchFault? (typeDomain : String) : Option MulticastFault :=
  if isLocal typeDomain.toList then none else some (.foreignType typeDomain)

/-- What is wrong with the full name of an advert. -/
def nameFault? (fullName : String) : Option MulticastFault :=
  let name := fullName.toList
  if isLocal name then
    let labels := splitAtChar '.' (name.take (name.length - localEndingLength))
    labelFault? (labels.getLast?.getD [])
  else some (.foreignType fullName)

/-- The responder. -/
structure Responder where
  /-- Whether it was shut down. -/
  closed : Bool := false
  deriving DecidableEq, Repr

namespace Responder

/-- Refuse what has to be passed on to the network after the shutdown. -/
def pass (r : Responder) : Except MulticastFault Unit := if r.closed then .error .closed else .ok ()

/-- Start to search for the instances of a type. -/
def search (r : Responder) (typeDomain : String) : Except MulticastFault Unit :=
  match searchFault? typeDomain with
  | some fault => .error fault
  | none => r.pass

/-- Answer for an advert from now on. -/
def register (r : Responder) (advert : Advert) : Except MulticastFault Unit :=
  match nameFault? advert.fullName with
  | some fault => .error fault
  | none => r.pass

/-- Take the advert of a full name back, if it is there. -/
def unregister (r : Responder) (_fullName : String) : Except MulticastFault Unit := r.pass

/-- Shut the responder down. -/
def shutDown (r : Responder) : Responder × Except MulticastFault Unit := ({ closed := true }, r.pass)

end Responder

end ServiceDiscovery
