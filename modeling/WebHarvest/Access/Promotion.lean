import WebHarvest.Access.Server
import WebHarvest.Item.Basic

/-! Promotion: credentials that have proved good move from an item to the servers of their
domains. -/

namespace WebHarvest.Access

/-- Moves one credential to the server of its domain, together with the challenges it was good for.
Nothing happens if no server of the domain is known. -/
def ServerCache.promote (challenges : Challenges) (cache : ServerCache) (credential : Credential)
    : ServerCache :=
  cache.modify credential.domain fun server =>
    (server.addCredential credential).setChallenges challenges

end WebHarvest.Access

namespace WebHarvest.CrawlItem

open Access (ServerCache)

/-- The credentials of the item for whose domains a server is known. -/
def promotable (item : CrawlItem) (cache : ServerCache) : List Access.Credential :=
  item.credentials.filter fun credential => (cache.serverFor? credential.domain).isSome

/-- Moves all credentials off the item, to their servers where these are known. Gives the number of
those that were moved to a server. -/
def promote (item : CrawlItem) (cache : ServerCache) : Nat × CrawlItem × ServerCache :=
  ((item.promotable cache).length,
    { item with credentials := [] },
    item.credentials.foldl (ServerCache.promote item.challenges) cache)

end WebHarvest.CrawlItem
