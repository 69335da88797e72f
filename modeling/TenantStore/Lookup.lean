import TenantStore.Account
import TenantStore.Problem

namespace TenantStore

/-!
# Lookups

Five kinds of keys lead to an account. For each of them this module says in
which form keys are compared, which keys an account can be found by, and
whether an account still holds what a key names.
-/

/-- The kinds of keys that lead to an account. -/
inductive Lookup where
  | setupKey
  | peerKey
  | peerId
  | user
  | privateDomain
  deriving Repr, DecidableEq

namespace Lookup

/-- What a key of a kind names. -/
def subject : Lookup → Subject
  | .setupKey => .setupKey
  | .peerKey => .peerKey
  | .peerId => .peerId
  | .user => .user
  | .privateDomain => .privateDomain

/-- The form in which keys are compared. -/
def normalize : Lookup → String → String
  | .setupKey, key => Text.upperCase key
  | .peerKey, key => key
  | .peerId, key => key
  | .user, key => key
  | .privateDomain, key => Text.lowerCase key

/-- The keys, in comparable form, that an account is found by. -/
def keysOf : Lookup → Account → List String
  | .setupKey, account =>
      account.setupKeys.values.map (fun stored => Text.upperCase stored.key)
  | .peerKey, account =>
      (account.peers.values.map Peer.key).filter (fun key => !key.isEmpty)
  | .peerId, account =>
      (account.peers.values.map Peer.id).filter (fun id => !id.isEmpty)
  | .user, account => account.users.values.map User.id
  | .privateDomain, account =>
      if account.ownsPrivateDomain then [Text.lowerCase account.domain] else []

/--
The keys that an account gives up when it goes. They are those it is found by,
and its domain even if it does not own it any more.
-/
def keysReleased : Lookup → Account → List String
  | .privateDomain, account =>
      if account.domain.isEmpty then [] else [Text.lowerCase account.domain]
  | lookup, account => lookup.keysOf account

/-- Whether an account holds what a key names. -/
def holds : Lookup → Account → String → Bool
  | .setupKey, account, key => (account.setupKey? key).isSome
  | .peerKey, account, key => (account.peerByKey? key).isSome
  | .peerId, account, key => account.peers.contains key
  | .user, account, key => account.users.contains key
  | .privateDomain, account, key =>
      account.ownsPrivateDomain && Text.equalIgnoringCase account.domain key

end Lookup

end TenantStore
