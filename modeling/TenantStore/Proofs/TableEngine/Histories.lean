import TenantStore.Proofs.TableEngine.Installation
import TenantStore.Proofs.TableEngine.NewDatabase
import TenantStore.Proofs.TableEngine.Saving
import TenantStore.Proofs.TableEngine.Updates

namespace TenantStore.TableEngine

/-!
# Histories of a database

A new database represents contents after every call, whatever accounts were
saved: `Represents.perform` says which step of contents a call is, and
`Represents.performAll` that a run is one step after the other. For this, writing an
account must fail whenever one of its records is not admitted; so a save that
succeeds has put the records of the account, and nothing less.
-/

open Relational (Cell Row Table Index Database)

/-! ## Writing no less than all records -/

/-- Writing succeeds only where every one of some records is admitted. -/
def Demands (write : Database → Except Problem Database) (entries : List Entry) : Prop :=
  ∀ db contents installation after, Represents db contents installation →
    write db = .ok after → contents.Admits entries

/-- Writing an account demands its records. -/
theorem demands_account (account : Account) :
    Demands (fun db => writeAccount db account) (accountEntries account) := by
  intro db contents installation after represents run
  rcases putsOrRefuses_account account db contents installation represents with
    ⟨admits, _⟩ | ⟨_, refused, _⟩
  · exact admits
  · rw [refused] at run
    cases run

/-! ## Calls -/

/-- What a call can do to contents. -/
inductive Contents.Step (contents : Contents) : Contents → Prop where
  | kept : contents.Step contents
  | saved (account : Account) :
      contents.Step
        ((contents.drop account.id).putAll (accountEntries account.normalized))
  | dropped (id : String) : contents.Step (contents.drop id)
  | changed
      {kind : Kind}
      {record : Record kind}
      (member : record ∈ contents kind)
      (roams : kind = .peer ∨ kind = .user)
      {change : kind.Value → kind.Value}
      (sameKey : ∀ value, kind.key (change value) = kind.key value) :
      contents.Step (contents.put (Record.mk record.owner (change record.value)))

namespace Represents

variable {db : Database} {contents : Contents} {installation : Option String}

/-- A save that succeeds drops the account and puts its records. -/
theorem of_saveAccount
    (represents : Represents db contents installation)
    {account : Account}
    {after : Database}
    (saved : TableEngine.saveAccount db account = .ok after) :
    Represents after
      ((contents.drop account.id).putAll (accountEntries account.normalized))
      installation := by
  obtain ⟨remaining, deleted, represents⟩ := represents.deleteAccount account.id
  have written : writeAccount remaining account.normalized = .ok after := by
    have both : TableEngine.deleteAccount db account.id >>= _ = _ := saved
    rw [deleted] at both
    exact both
  have admits := demands_account account.normalized remaining _ installation after
    represents written
  obtain ⟨found, foundRun, foundRepresents⟩ :=
    puts_account account.normalized remaining _ installation represents admits
  have same : after = found := Except.ok.inj (written.symm.trans foundRun)
  rwa [same]

/-- A database represents contents that are one step further. -/
def Steps (contents : Contents) (db : Database) : Prop :=
  ∃ after installation, contents.Step after ∧ Represents db after installation

/-- A call that changes the database by a step, or fails, is a step. -/
theorem changed
    (represents : Represents db contents installation)
    {change : Except Problem Database}
    (steps : ∀ after, change = .ok after → Steps contents after) :
    Steps contents (TableEngine.changed db change).db := by
  cases change with
  | ok after => exact steps after rfl
  | error problem => exact ⟨contents, installation, .kept, represents⟩

/-- An update of one entity is a step. -/
theorem of_updateEntity
    (represents : Represents db contents installation)
    {kind : Kind}
    {change : kind.Value → kind.Value}
    {values : Cells}
    (writes : Writes kind change values)
    (roams : kind = .peer ∨ kind = .user)
    {subject : Subject}
    {accountId id : String}
    {after : Database}
    (updated : TableEngine.updateEntity db kind.tableName subject accountId id values =
      .ok after) :
    Steps contents after := by
  have column : kind.ownerColumn = "account_id" := by
    rcases roams with rfl | rfl <;> rfl
  have owned : kind ≠ .account := by
    rcases roams with rfl | rfl <;> decide
  rcases represents.updateEntity column owned writes subject accountId id with
    ⟨record, member, _, _, found, run, foundRepresents⟩ | ⟨_, run⟩
  · rw [updated, Except.ok.injEq] at run
    exact ⟨_, _, .changed member roams writes.key, run ▸ foundRepresents⟩
  · rw [updated] at run
    cases run

/-- After every call a database represents contents that are one step further. -/
theorem perform
    (represents : Represents db contents installation)
    (call : Call) :
    Steps contents (TableEngine.perform db call).db := by
  have unchanged : Steps contents db := ⟨contents, installation, .kept, represents⟩
  have named : ∀ (account : Account) (change : Except Problem Database),
      (∀ after, change = .ok after → Steps contents after) →
      ∀ after, TableEngine.named account change = .ok after → Steps contents after := by
    intro account change steps after run
    rw [TableEngine.named] at run
    split at run
    · cases run
    · exact steps after run
  cases call with
  | save account =>
      refine represents.changed (named account _ ?_)
      exact fun after saved => ⟨_, _, .saved account, represents.of_saveAccount saved⟩
  | delete account =>
      refine represents.changed (named account _ ?_)
      intro after deleted
      obtain ⟨found, run, foundRepresents⟩ := represents.deleteAccount account.id
      rw [deleted, Except.ok.injEq] at run
      exact ⟨_, _, .dropped account.id, run ▸ foundRepresents⟩
  | savePeerStatus account peer status =>
      refine represents.changed ?_
      intro after run
      obtain ⟨cells, written, updated⟩ := Except.bind_eq_ok_iff.mp run
      exact represents.of_updateEntity (writes_status written) (.inl rfl) updated
  | savePeerLocation account peer location =>
      refine represents.changed ?_
      exact fun after updated => represents.of_updateEntity (writes_location location)
        (.inl rfl) updated
  | saveLastLogin account user time =>
      refine represents.changed ?_
      intro after run
      obtain ⟨cell, written, updated⟩ := Except.bind_eq_ok_iff.mp run
      exact represents.of_updateEntity (writes_lastLogin written) (.inr rfl) updated
  | saveInstallation id =>
      refine represents.changed ?_
      intro after run
      obtain ⟨found, foundRun, foundRepresents⟩ := represents.saveInstallation id
      rw [run, Except.ok.injEq] at foundRun
      exact ⟨_, _, .kept, foundRun ▸ foundRepresents⟩
  | _ => exact unchanged

end Represents

/-- A save that succeeds has a name and changes the database. -/
theorem saved_eq
    {db : Database}
    {account : Account}
    (saved : (perform db (.save account)).outcome = .ok .done) :
    account.id.isEmpty = false ∧
      saveAccount db account = .ok (perform db (.save account)).db := by
  have run : perform db (.save account) =
      changed db (named account (saveAccount db account)) := rfl
  rw [run] at saved ⊢
  rw [named] at saved ⊢
  cases unnamed : account.id.isEmpty with
  | true =>
      rw [unnamed, if_pos rfl] at saved
      cases saved
  | false =>
      rw [unnamed, if_neg Bool.false_ne_true] at saved
      rw [if_neg Bool.false_ne_true]
      cases outcome : saveAccount db account with
      | error problem =>
          rw [outcome] at saved
          cases saved
      | ok after => exact ⟨rfl, rfl⟩

/-! ## Runs of calls -/

/-- The database after some calls, one after the other. -/
def performAll (db : Database) (calls : List Call) : Database :=
  calls.foldl (fun db call => (perform db call).db) db

/-- What every step keeps is kept by every run, and the database represents contents. -/
theorem Represents.performAll
    {property : Contents → Prop}
    (keeps : ∀ contents after, property contents → contents.Step after → property after)
    {db : Database}
    {contents : Contents}
    {installation : Option String}
    (represents : Represents db contents installation)
    (holds : property contents)
    (calls : List Call) :
    ∃ contents installation, property contents ∧
      Represents (TableEngine.performAll db calls) contents installation := by
  induction calls generalizing db contents installation with
  | nil => exact ⟨contents, installation, holds, represents⟩
  | cons call rest inductionHypothesis =>
      obtain ⟨_, _, step, afterRepresents⟩ := represents.perform call
      exact inductionHypothesis afterRepresents (keeps _ _ holds step)

/-- A database that was made new and has then been used in any way. -/
def Used (db : Database) : Prop :=
  ∃ now calls, db = performAll (upkeep .empty now).db calls

/-- What every step keeps holds in every database that was ever used. -/
theorem Used.represents_keeping
    {property : Contents → Prop}
    (keeps : ∀ contents after, property contents → contents.Step after → property after)
    (start : property (fun _ => []))
    {db : Database}
    (used : Used db) :
    ∃ contents installation, property contents ∧ Represents db contents installation := by
  obtain ⟨now, calls, rfl⟩ := used
  rw [(upkeep_empty now).2]
  exact (newDatabase_represents now).performAll keeps start calls

theorem Used.represents {db : Database} (used : Used db) :
    ∃ contents installation, Represents db contents installation := by
  obtain ⟨contents, installation, _, represents⟩ :=
    @Used.represents_keeping (fun _ => True) (fun _ _ _ _ => trivial) trivial db used
  exact ⟨contents, installation, represents⟩

end TenantStore.TableEngine
