import WebHarvest.Access.Address
import WebHarvest.Access.Credential
import WebHarvest.Url.Basic

/-! What a crawl knows about hosts and servers: the outcome of looking a host's address up, and the
credentials and challenges of each server. -/

namespace WebHarvest.Access

/-- A host whose address was looked up. -/
structure Host where
  name : String
  address : Option Address
  deriving DecidableEq, Repr

/-- Whether looking the address up has failed for good. -/
def Host.isUnresolvable (host : Host) : Bool :=
  host.address.isNone

/-- A server, whose key is a host name in lower case. -/
structure Server where
  key : String
  credentials : List Credential
  challenges : Challenges
  deriving DecidableEq, Repr

namespace Server

/-- A server about which nothing is known. -/
def fresh (key : String) : Server := ⟨key, [], .empty⟩

/-- Adds a credential unless the server has it. -/
def addCredential (server : Server) (credential : Credential) : Server :=
  if server.credentials.contains credential then server
  else { server with credentials := server.credentials ++ [credential] }

/-- Puts challenges in the place of the ones known before. -/
def setChallenges (server : Server) (challenges : Challenges) : Server :=
  { server with challenges }

end Server

/-- All hosts and servers that a crawl knows, each name and each key once. -/
structure ServerCache where
  hosts : List Host
  servers : List Server
  deriving DecidableEq, Repr

namespace ServerCache

/-- Nothing known. -/
def empty : ServerCache := ⟨[], []⟩

instance : Inhabited ServerCache := ⟨empty⟩

/-- Notes the outcome of a lookup in the place of an earlier one. -/
def setHost (cache : ServerCache) (name : String) (address : Option Address) : ServerCache :=
  let host : Host := ⟨Text.lowerString name, address⟩
  { cache with hosts := host :: cache.hosts.filter (·.name != host.name) }

/-- The host of a URL, if it was looked up. -/
def hostFor? (cache : ServerCache) (url : Url) : Option Host :=
  url.hostText?.bind fun name => cache.hosts.find? (·.name == Text.lowerString name)

/-- The server of a domain. -/
def serverFor? (cache : ServerCache) (domain : String) : Option Server :=
  cache.servers.find? (·.key == Text.lowerString domain)

/-- Makes sure that there is a server for a domain. -/
def ensure (cache : ServerCache) (domain : String) : ServerCache :=
  if (cache.serverFor? domain).isSome then cache
  else { cache with servers := cache.servers ++ [.fresh (Text.lowerString domain)] }

/-- Changes the server of a domain, if there is one. -/
def modify (cache : ServerCache) (domain : String) (change : Server → Server) : ServerCache :=
  { cache with
    servers := cache.servers.map fun server =>
      if server.key == Text.lowerString domain then change server else server }

end ServerCache

end WebHarvest.Access
