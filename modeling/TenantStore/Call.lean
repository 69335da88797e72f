import TenantStore.Lookup

namespace TenantStore

/-!
# Calls on a store

Everything that can be asked of a store, whatever its engine, and what it can
answer.
-/

/-- What can be asked of a store. -/
inductive Call where
  /-- Replace an account with everything in it. -/
  | save (account : Account)
  | delete (account : Account)
  | get (id : String)
  | all
  /-- Find the account that a key leads to. -/
  | find (lookup : Lookup) (key : String)
  /-- Find the identifier of the account that holds a peer's public key. -/
  | idByPeerKey (key : String)
  /-- Find the identifier of the token with a hash. -/
  | tokenByHash (hash : String)
  /-- Find the user that holds a token. -/
  | userByToken (token : String)
  | savePeerStatus (account peer : String) (status : PeerStatus)
  | savePeerLocation (account peer : String) (location : Location)
  | saveLastLogin (account user : String) (time : Timestamp)
  | saveInstallation (id : String)
  | installation
  | dropHashIndex (hash : String)
  | dropTokenIndex (token : String)
  | close
  deriving Repr, DecidableEq

/-- What a store answers. -/
inductive Answer where
  | done
  | account (account : Account)
  | accounts (accounts : List Account)
  | text (text : String)
  | user (user : User)
  deriving Repr, DecidableEq

/-- The answer to a call, or why there is none. -/
abbrev Outcome := Except Problem Answer

end TenantStore
