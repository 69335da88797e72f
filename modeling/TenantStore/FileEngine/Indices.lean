import TenantStore.Lookup

namespace TenantStore.FileEngine

/-!
# Account indices

For each kind of lookup an index from keys in comparable form to identifiers
of accounts. `Indices.of` and `Indices.get` make the five indices a function
of the lookup: `get_of` reads back what was put in, and indices that agree at
every lookup are equal (`ext_get`).
-/

/-- One index for each kind of lookup. -/
structure Indices where
  setupKey : Dict String := ∅
  peerKey : Dict String := ∅
  peerId : Dict String := ∅
  user : Dict String := ∅
  privateDomain : Dict String := ∅
  deriving Repr, DecidableEq

namespace Indices

/-- The index of a lookup. -/
def get (indices : Indices) : Lookup → Dict String
  | .setupKey => indices.setupKey
  | .peerKey => indices.peerKey
  | .peerId => indices.peerId
  | .user => indices.user
  | .privateDomain => indices.privateDomain

/-- The indices that a function gives. -/
def of (index : Lookup → Dict String) : Indices where
  setupKey := index .setupKey
  peerKey := index .peerKey
  peerId := index .peerId
  user := index .user
  privateDomain := index .privateDomain

/-- Indices without entries. -/
def empty : Indices :=
  {}

@[simp] theorem get_of (index : Lookup → Dict String) (lookup : Lookup) :
    (of index).get lookup = index lookup := by
  cases lookup <;> rfl

@[simp] theorem get_empty (lookup : Lookup) : empty.get lookup = ∅ := by
  cases lookup <;> rfl

/-- Indices that agree at every lookup are equal. -/
theorem ext_get
    {left right : Indices}
    (same : ∀ lookup, left.get lookup = right.get lookup) :
    left = right := by
  cases left
  cases right
  simp only [mk.injEq]
  exact ⟨same .setupKey, same .peerKey, same .peerId, same .user,
    same .privateDomain⟩

/-- Change the index of one lookup. -/
def modify
    (indices : Indices)
    (lookup : Lookup)
    (change : Dict String → Dict String) :
    Indices :=
  of (fun other =>
    if other = lookup then change (indices.get other) else indices.get other)

end Indices

/-- Let several keys lead to one identifier. -/
def addKeys (id : String) (keys : List String) (index : Dict String) : Dict String :=
  keys.foldl (fun index key => index.insert key id) index

/-- Remove an entry, if it leads to a given identifier. -/
def eraseOwned (index : Dict String) (key id : String) : Dict String :=
  if index.get? key = some id then index.erase key else index

/-- Remove the entries of several keys that lead to one identifier. -/
def removeKeys (id : String) (keys : List String) (index : Dict String) : Dict String :=
  keys.foldl (fun index key => eraseOwned index key id) index

namespace Indices

/-- Let every key that an account is found by lead to an identifier. -/
def addAccount (indices : Indices) (id : String) (account : Account) : Indices :=
  of (fun lookup => addKeys id (lookup.keysOf account) (indices.get lookup))

/-- Remove the entries of an account that still lead to it. -/
def removeAccount (indices : Indices) (account : Account) : Indices :=
  of (fun lookup =>
    removeKeys account.id (lookup.keysReleased account) (indices.get lookup))

/-- Remove every entry that leads to an identifier. -/
def forget (indices : Indices) (id : String) : Indices :=
  of (fun lookup => (indices.get lookup).filter (fun _ owner => owner != id))

end Indices

end TenantStore.FileEngine
