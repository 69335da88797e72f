import TenantStore.Store

namespace TenantStore.Store

/-!
# Moving accounts between stores

Accounts are read from one store and saved into another one, of whatever
engines. A conversion opens a store of the other engine and fills it.
-/

/-- What copying leads to: the host and the target after it, and the number. -/
structure Copy where
  host : Host
  target : Store
  copied : Except Problem Nat

/-- Save accounts one by one, until one cannot be saved. -/
def saveAll (host : Host) (target : Store) : List Account → Reply
  | [] => { host := host, store := target, outcome := .ok .done }
  | account :: rest =>
      let reply := target.perform host (.save account)
      match reply.outcome with
      | .ok _ => saveAll reply.host reply.store rest
      | .error _ => reply

/-- Carry the identifier of the installation over, unless it is empty. -/
def copyInstallation (host : Host) (source target : Store) : Reply :=
  match source.installation host with
  | .error problem =>
      { host := host, store := target, outcome := .error problem }
  | .ok id =>
      if id.isEmpty then
        { host := host, store := target, outcome := .ok .done }
      else
        target.perform host (.saveInstallation id)

/-- Save every account of one store into another one. -/
def copy (host : Host) (source target : Store) : Copy :=
  match source.accounts host with
  | .error problem =>
      { host := host, target := target, copied := .error problem }
  | .ok accounts =>
      let saved := saveAll host target accounts
      match saved.outcome with
      | .error problem =>
          { host := saved.host, target := saved.store, copied := .error problem }
      | .ok _ =>
          let reply :=
            (copyInstallation saved.host source saved.store).telling
              [.copied accounts.length source.engine target.engine]
          { host := reply.host
            target := reply.store
            copied := reply.outcome.map (fun _ => accounts.length) }

/-- The opening of a store that ends with filling it. -/
def Opening.ofCopy (copy : Copy) : Opening where
  host := copy.host
  store := copy.copied.map (fun _ => copy.target)

/-- Fill the store of the table engine in a folder from another store. -/
def tablesFrom (host : Host) (source : Store) (folder : FilePath) : Opening :=
  (openTables host folder).andThen (fun host target =>
    .ofCopy (copy host source target))

/-- What a store of the file engine is replaced by: all that another store holds. -/
def importFrom (host : Host) (source target : Store) : Reply :=
  match source.accounts host, source.installation host with
  | .ok accounts, .ok installation =>
      (persist host target (.load accounts installation)).telling
        [.imported target.path]
  | .error problem, _ =>
      { host := host, store := target, outcome := .error problem }
  | _, .error problem =>
      { host := host, store := target, outcome := .error problem }

/-- Replace the store of the file engine in a folder by what another store holds. -/
def fileFrom (host : Host) (source : Store) (folder : FilePath) : Opening :=
  (openFile host folder).andThen (fun host target =>
    .ofReply (importFrom host source target))

/-- Count writes that were made before a store was opened. -/
def addWrites (writes : Nat) (opening : Opening) : Opening :=
  { opening with
    store := opening.store.map (fun store =>
      { store with writes := store.writes + writes }) }

/--
Open the file in a folder and, for the table engine, fill the database beside
it. The writes of both count as those of the store.
-/
def openFromFile (host : Host) (folder : FilePath) (engine : Engine) : Opening :=
  let opened := openFile host folder
  match engine with
  | .jsonFile => opened
  | .sqlite =>
      opened.andThen (fun host source =>
        addWrites source.writes (tablesFrom host source folder))

end TenantStore.Store
