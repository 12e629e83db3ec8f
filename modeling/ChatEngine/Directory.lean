import ChatEngine.Driver
import ChatEngine.Plugin.Service

/-!
# Cached user look-ups

User look-ups through a cache. The cache holds the profiles used last; a look-up that fails is not
remembered, and without a cache every look-up goes to the directory.
-/
namespace ChatEngine

variable {σ : Type}

/-- An empty cache of a configured size; none for a size that is not positive. -/
def profileCache (capacity : Int) : Option (Lru String UserProfile) :=
  if 0 < capacity then some { capacity := capacity.toNat } else none

def cachedFinder (directory : UserFinder (Host σ)) : UserFinder (Host σ) := fun userId => do
  let fields : List (String × Value) := [("cache", .str "user_info"), ("user_id", .str userId)]
  match (← get).profiles with
  | none => directory userId
  | some cache =>
    let (found, cache) := cache.get userId
    modify fun h => { h with profiles := some cache }
    match found with
    | some profile =>
      Effect.lift (Host.count .cacheLookups [("cache", "user_info"), ("result", "hit")])
      Effect.lift (Host.record .debug "cache_hit" fields)
      return profile
    | none =>
      Effect.lift (Host.count .cacheLookups [("cache", "user_info"), ("result", "miss")])
      Effect.lift (Host.record .debug "cache_miss" fields)
      let profile ← directory userId
      modify fun h => { h with profiles := h.profiles.map (·.put userId profile) }
      return profile

def UserFinder.metered [Clocked σ] (find : UserFinder (Host σ)) : UserFinder (Host σ) :=
  fun userId => Host.metered "user_info_finder" "get_user" (find userId)

def Reactor.metered [Clocked σ] (add : Reactor (Host σ)) : Reactor (Host σ) :=
  fun name item => Host.metered "emoji_reactor" "add_reaction" (add name item)

def Uploader.metered [Clocked σ] (send : Uploader (Host σ)) : Uploader (Host σ) :=
  fun params => Host.metered "file_uploader" "upload" (send params)

end ChatEngine
