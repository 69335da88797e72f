import Mathlib.Data.List.Pairwise
import TenantStore.Proofs.TableEngine.Filling

namespace TenantStore.TableEngine

/-!
# What a save is refused for

A save writes the records of an account one after the other, and ends at the
first that is not admitted: because one of its numbers is too large, or because
it gives an address a second time. Other accounts cannot get in the way, since
their records are taken over. So whether a save succeeds, and which kind of
problem it reports, can be told from the account alone (`save_succeeds_iff`).
-/

open Relational (Database)

/-! ## Numbers that do not fit -/

/-- Every timestamp and serial number of an account fits its cell. -/
def NumbersFit (account : Account) : Prop :=
  ∀ kind, ∀ value ∈ entitiesOf kind account,
    ∀ number ∈ numbersOf kind value, number.toNat < 0x8000000000000000

instance (account : Account) : Decidable (NumbersFit account) :=
  inferInstanceAs (Decidable (∀ kind, ∀ value ∈ entitiesOf kind account,
    ∀ number ∈ numbersOf kind value, number.toNat < 0x8000000000000000))

theorem Except.bind_eq_error_iff
    {found : Except ε α}
    {next : α → Except ε β}
    {problem : ε} :
    (found >>= next) = .error problem ↔
      found = .error problem ∨ ∃ middle, found = .ok middle ∧ next middle = .error problem := by
  cases found <;> simp [bind, Except.bind]

theorem wideCell_eq_error_iff {number : WideNumber} {value : UInt64} {problem : Problem} :
    wideCell number value = .error problem ↔
      0x8000000000000000 ≤ value.toNat ∧ problem = .tooWide number value := by
  rw [wideCell]
  split
  · rename_i fits
    simp only [reduceCtorEq, false_iff, not_and]
    exact fun wide => absurd fits (Nat.not_lt.mpr wide)
  · rename_i wide
    rw [Except.error.injEq, and_iff_right (Nat.not_lt.mp wide), eq_comm]

theorem timeCell_eq_error_iff {time : Timestamp} {problem : Problem} :
    timeCell time = .error problem ↔
      0x8000000000000000 ≤ time.millis.toNat ∧ problem = .tooWide .timestamp time.millis :=
  wideCell_eq_error_iff

/-- The numbers of an entity that can be stored fit their cells. -/
theorem Record.IsStorable.numbers
    {kind : Kind}
    {record : Record kind}
    (storable : record.IsStorable) :
    ∀ number ∈ numbersOf kind record.value, number.toNat < 0x8000000000000000 := by
  obtain ⟨given, cells_eq⟩ := storable
  cases kind with
  | account =>
      simp only [Kind.cells, accountCells, Except.bind_eq_ok_iff, timeCell_eq_ok_iff,
        wideCell_eq_ok_iff] at cells_eq
      obtain ⟨_, ⟨createdAt, _⟩, _, ⟨serial, _⟩, _⟩ := cells_eq
      simp [numbersOf, createdAt, serial]
  | setupKey =>
      simp only [Kind.cells, setupKeyCells, Except.bind_eq_ok_iff, timeCell_eq_ok_iff]
        at cells_eq
      obtain ⟨_, ⟨createdAt, _⟩, _, ⟨expiresAt, _⟩, _, ⟨updatedAt, _⟩, _, ⟨lastUsed, _⟩, _⟩ :=
        cells_eq
      simp [numbersOf, createdAt, expiresAt, updatedAt, lastUsed]
  | peer =>
      simp only [Kind.cells, peerCells, Except.bind_eq_ok_iff, timeCell_eq_ok_iff] at cells_eq
      obtain ⟨_, status, _, ⟨lastLogin, _⟩, _⟩ := cells_eq
      simp [numbersOf, (statusCells_eq_ok status).1, lastLogin]
  | user =>
      simp only [Kind.cells, userCells, Except.bind_eq_ok_iff, timeCell_eq_ok_iff] at cells_eq
      obtain ⟨_, ⟨lastLogin, _⟩, _⟩ := cells_eq
      simp [numbersOf, lastLogin]
  | token =>
      simp only [Kind.cells, tokenCells, Except.bind_eq_ok_iff, timeCell_eq_ok_iff] at cells_eq
      obtain ⟨_, ⟨expirationDate, _⟩, _, ⟨createdAt, _⟩, _, ⟨lastUsed, _⟩, _⟩ := cells_eq
      simp [numbersOf, expirationDate, createdAt, lastUsed]
  | group => simp [numbersOf]
  | policy => simp [numbersOf]
  | rule => simp [numbersOf]
  | route => simp [numbersOf]
  | nameServerGroup => simp [numbersOf]

/-- An entity that cannot be written to cells has a number that is too large. -/
theorem cells_eq_error
    {kind : Kind}
    {owner : String}
    {value : kind.Value}
    {problem : Problem}
    (failed : kind.cells owner value = .error problem) :
    ∃ which, ∃ number ∈ numbersOf kind value,
      0x8000000000000000 ≤ number.toNat ∧ problem = .tooWide which number := by
  cases kind with
  | account =>
      simp only [Kind.cells, accountCells, Except.bind_eq_error_iff, timeCell_eq_error_iff,
        wideCell_eq_error_iff, reduceCtorEq, and_false, exists_false, or_false] at failed
      rcases failed with ⟨large, rfl⟩ | ⟨_, _, large, rfl⟩ <;>
        exact ⟨_, _, by simp [numbersOf], large, rfl⟩
  | setupKey =>
      simp only [Kind.cells, setupKeyCells, Except.bind_eq_error_iff, timeCell_eq_error_iff,
        reduceCtorEq, and_false, exists_false, or_false] at failed
      rcases failed with ⟨large, rfl⟩ | ⟨_, _, ⟨large, rfl⟩ | ⟨_, _, ⟨large, rfl⟩ |
        ⟨_, _, large, rfl⟩⟩⟩ <;>
        exact ⟨_, _, by simp [numbersOf], large, rfl⟩
  | peer =>
      simp only [Kind.cells, peerCells, statusCells, Except.bind_eq_error_iff,
        timeCell_eq_error_iff, reduceCtorEq, and_false, exists_false, or_false] at failed
      rcases failed with ⟨large, rfl⟩ | ⟨_, _, large, rfl⟩ <;>
        exact ⟨_, _, by simp [numbersOf], large, rfl⟩
  | user =>
      simp only [Kind.cells, userCells, Except.bind_eq_error_iff, timeCell_eq_error_iff,
        reduceCtorEq, and_false, exists_false, or_false] at failed
      obtain ⟨large, rfl⟩ := failed
      exact ⟨_, _, by simp [numbersOf], large, rfl⟩
  | token =>
      simp only [Kind.cells, tokenCells, Except.bind_eq_error_iff, timeCell_eq_error_iff,
        reduceCtorEq, and_false, exists_false, or_false] at failed
      rcases failed with ⟨large, rfl⟩ | ⟨_, _, ⟨large, rfl⟩ | ⟨_, _, large, rfl⟩⟩ <;>
        exact ⟨_, _, by simp [numbersOf], large, rfl⟩
  | group => cases failed
  | policy => cases failed
  | rule => cases failed
  | route => cases failed
  | nameServerGroup => cases failed

/-- Normalizing an account changes identifiers, but no numbers. -/
theorem numbers_normalized (account : Account) (kind : Kind) :
    (entitiesOf kind account.normalized).map (numbersOf kind) =
      (entitiesOf kind account).map (numbersOf kind) := by
  cases kind with
  | account => rfl
  | policy => rfl
  | rule => rfl
  | token =>
      have users : account.normalized.users = account.users.mapValues Account.normalizeUser :=
        rfl
      have tokens : (account.users.mapValues Account.normalizeUser).values.map
            (fun user => user.tokens.values.map (numbersOf .token)) =
          account.users.values.map (fun user => user.tokens.values.map (numbersOf .token)) :=
        Dict.map_values_mapValues (fun _ _ => Dict.map_values_mapValues (fun _ _ => rfl))
      simp only [entitiesOf, List.map_flatMap]
      rw [users, List.flatMap_def, List.flatMap_def, tokens]
  | _ => exact Dict.map_values_mapValues (fun _ _ => rfl)

theorem numbersFit_normalized {account : Account} :
    NumbersFit account.normalized ↔ NumbersFit account := by
  have eachKind : ∀ (account : Account) kind,
      (∀ value ∈ entitiesOf kind account,
        ∀ number ∈ numbersOf kind value, number.toNat < 0x8000000000000000) ↔
      ∀ numbers ∈ (entitiesOf kind account).map (numbersOf kind),
        ∀ number ∈ numbers, number.toNat < 0x8000000000000000 := by
    simp only [List.forall_mem_map, implies_true]
  simp only [NumbersFit, eachKind, numbers_normalized]

/-! ## The first record that is refused -/

namespace Contents.Refuses

variable {contents : Contents} {entries : List Entry} {problem : Problem}

/-- Where no address comes up twice, a record is refused for a number. -/
theorem tooWide
    (refuses : contents.Refuses entries problem)
    (unshared : contents.Unshared entries) :
    ∃ which number, problem = .tooWide which number := by
  induction refuses with
  | unwritable failed =>
      obtain ⟨which, number, _, _, same⟩ := cells_eq_error failed
      exact ⟨which, number, same⟩
  | taken _ taken => exact absurd unshared.head_free taken
  | later _ _ _ inductionHypothesis => exact inductionHypothesis unshared.tail

/-- Where all records can be stored, one is refused for its address. -/
theorem addressTaken
    (refuses : contents.Refuses entries problem)
    (storable : ∀ entry ∈ entries, entry.record.IsStorable) :
    problem = .addressTaken := by
  induction refuses with
  | unwritable failed =>
      obtain ⟨given, written⟩ := storable _ List.mem_cons_self
      rw [failed] at written
      cases written
  | taken _ _ => rfl
  | later _ _ _ inductionHypothesis =>
      exact inductionHypothesis (fun entry member =>
        storable entry (List.mem_cons_of_mem _ member))

end Contents.Refuses

theorem Contents.Admits.storable
    {contents : Contents}
    {entries : List Entry}
    (admits : contents.Admits entries) :
    ∀ entry ∈ entries, entry.record.IsStorable := by
  induction entries generalizing contents with
  | nil => exact fun _ member => absurd member List.not_mem_nil
  | cons entry rest inductionHypothesis =>
      exact List.forall_mem_cons.mpr ⟨admits.1, inductionHypothesis admits.2.2⟩

/-- An account whose records can all be stored has numbers that fit. -/
theorem numbersFit_of_storable
    {account : Account}
    (storable : ∀ entry ∈ accountEntries account, entry.record.IsStorable) :
    NumbersFit account := by
  intro kind value member
  rw [← values_recordsOf] at member
  obtain ⟨record, listed, rfl⟩ := List.mem_map.mp member
  rw [← filterMap_accountEntries] at listed
  obtain ⟨⟨other, found⟩, entryMember, same⟩ := List.mem_filterMap.mp listed
  by_cases here : other = kind
  · subst here
    rw [of?_self, Option.some.injEq] at same
    subst same
    exact (storable _ entryMember).numbers
  · rw [of?_other here] at same
    cases same

/-! ## Saving -/

namespace Represents

variable {db : Database} {contents : Contents} {installation : Option String}

/-- The peers of an account that was saved have distinct addresses. -/
theorem saved_addresses
    {account : Account}
    (represents : Represents db (contents.saved account) installation) :
    (account.peers.values.map Peer.ip).Nodup := by
  have filed := account.isNormal_normalized.peers_filed
  have ids : (account.normalized.peers.values.map Peer.id).Nodup := by
    rw [filed.map_values_eq_keys]
    exact Dict.keys_nodup _
  have keys : ((recordsOf account.normalized .peer).map Record.key).Nodup := by
    have same : (recordsOf account.normalized .peer).map Record.key =
        account.normalized.peers.values.map Peer.id := by
      rw [recordsOf, List.map_map]
      rfl
    rw [same]
    exact ids
  have listed : ∀ peer ∈ account.normalized.peers.values,
      (⟨account.id, peer⟩ : Record .peer) ∈ contents.saved account .peer := by
    intro peer member
    rw [Contents.saved, Contents.over, putAll_apply, filterMap_accountEntries,
      foldl_putRecord_eq keys, mem_overlay_iff keys]
    exact .inl (List.mem_map_of_mem member)
  have symmetric : Std.Symm (fun left right : Record .peer => ¬left.SharesAddress right) :=
    ⟨fun _ _ unlike shares => unlike (SharesAddress_symm shares)⟩
  have apart := represents.addresses.forall
  rw [← account.normalized_addresses]
  refine List.Nodup.map_on ?_ (List.Nodup.of_map _ ids)
  intro left leftMember right rightMember same
  by_contra unlike
  have records : (⟨account.id, left⟩ : Record .peer) ≠ ⟨account.id, right⟩ :=
    fun equal => unlike (congrArg Record.value equal)
  exact apart (listed left leftMember) (listed right rightMember) records ⟨rfl, same⟩

/-- A save succeeds, or one of the records of the account is refused. -/
theorem saveAccount_cases
    (represents : Represents db contents installation)
    (account : Account) :
    ((∃ after, TableEngine.saveAccount db account = .ok after) ∧ NumbersFit account ∧
      (account.peers.values.map Peer.ip).Nodup) ∨
    ∃ problem, TableEngine.saveAccount db account = .error problem ∧
      (contents.drop account.id).Refuses (accountEntries account.normalized) problem := by
  obtain ⟨remaining, deleted, remainingRepresents⟩ := represents.deleteAccount account.id
  have run : TableEngine.saveAccount db account =
      writeAccount remaining account.normalized := by
    show TableEngine.deleteAccount db account.id >>= _ = _
    rw [deleted]
    rfl
  rcases putsOrRefuses_account account.normalized remaining _ installation
    remainingRepresents with
    ⟨admits, after, written, afterRepresents⟩ | ⟨problem, refused, refuses⟩
  · exact .inl ⟨⟨after, run.trans written⟩,
      numbersFit_normalized.mp (numbersFit_of_storable admits.storable),
      saved_addresses afterRepresents⟩
  · exact .inr ⟨problem, run.trans refused, refuses⟩

end Represents

/-- A call that fails leaves the database as it was. -/
theorem perform_failed
    {db : Database}
    {call : Call}
    {problem : Problem}
    (failed : (perform db call).outcome = .error problem) :
    (perform db call).db = db := by
  have unchanged : ∀ {change : Except Problem Database},
      (changed db change).outcome = .error problem → (changed db change).db = db := by
    intro change failed
    cases change with
    | ok after => cases failed
    | error _ => rfl
  cases call with
  | save account => exact unchanged failed
  | delete account => exact unchanged failed
  | savePeerStatus account peer status => exact unchanged failed
  | savePeerLocation account peer location => exact unchanged failed
  | saveLastLogin account user time => exact unchanged failed
  | saveInstallation id => exact unchanged failed
  | _ => rfl

/--
In a database that was used in any way, a save succeeds exactly if the account
has an identifier, its timestamps and its serial number fit, and no two of its
peers have one address, whatever other accounts there are. A missing identifier
or a number that does not fit is an invalid argument, an address that comes up
twice an internal error, and in either case nothing changes.
-/
theorem save_succeeds_iff
    {db : Database}
    (used : Used db)
    (account : Account) :
    ((perform db (.save account)).outcome = .ok .done ↔
      account.id ≠ "" ∧ NumbersFit account ∧
        (account.peers.values.map Peer.ip).Nodup) ∧
    ((account.peers.values.map Peer.ip).Nodup →
      ¬(account.id ≠ "" ∧ NumbersFit account) →
        ∃ problem, (perform db (.save account)).outcome = .error problem ∧
          problem.kind = .invalidArgument) ∧
    (account.id ≠ "" → NumbersFit account →
      ¬(account.peers.values.map Peer.ip).Nodup →
        ∃ problem, (perform db (.save account)).outcome = .error problem ∧
          problem.kind = .internal) ∧
    ((perform db (.save account)).outcome ≠ .ok .done →
      (perform db (.save account)).db = db) := by
  obtain ⟨contents, installation, represents⟩ := used.represents
  have run : perform db (.save account) =
      changed db (named account (saveAccount db account)) := rfl
  by_cases unnamed : account.id = ""
  · have outcome : (perform db (.save account)).outcome = .error .emptyAccountId := by
      rw [run, named, if_pos (by rw [unnamed]; rfl)]
      rfl
    have unchanged := perform_failed outcome
    rw [outcome]
    exact ⟨by simp [unnamed], fun _ _ => ⟨_, rfl, rfl⟩, fun hasName => absurd unnamed hasName,
      fun _ => unchanged⟩
  have step : named account (saveAccount db account) = saveAccount db account := by
    rw [named, if_neg]
    simpa using unnamed
  rw [step] at run
  rcases represents.saveAccount_cases account with
    ⟨⟨after, saved⟩, fit, apart⟩ | ⟨problem, refused, refuses⟩
  · have outcome : (perform db (.save account)).outcome = .ok .done := by
      rw [run, saved]
      rfl
    rw [outcome]
    exact ⟨by simp [unnamed, fit, apart], fun _ unfit => absurd ⟨unnamed, fit⟩ unfit,
      fun _ _ shared => absurd apart shared, fun failed => absurd rfl failed⟩
  · have outcome : (perform db (.save account)).outcome = .error problem := by
      rw [run, refused]
      rfl
    have storable : NumbersFit account →
        ∀ entry ∈ accountEntries account.normalized, entry.record.IsStorable :=
      fun fit _ member => storable_of_numbers (numbersFit_normalized.mpr fit) member
    have notBoth : ¬(NumbersFit account ∧ (account.peers.values.map Peer.ip).Nodup) :=
      fun both => refuses.not_admits
        ((unshared_account contents both.2).admits (storable both.1))
    have unchanged := perform_failed outcome
    rw [outcome]
    have notDone : (.error problem : Except Problem Answer) ≠ .ok .done := by simp
    refine ⟨⟨fun done => absurd done notDone, fun good => absurd good.2 notBoth⟩, ?_, ?_,
      fun _ => unchanged⟩
    · intro apart _
      obtain ⟨which, number, rfl⟩ := refuses.tooWide (unshared_account contents apart)
      exact ⟨_, rfl, rfl⟩
    · intro _ fit _
      obtain rfl := refuses.addressTaken (storable fit)
      exact ⟨_, rfl, rfl⟩

/-- Peers under some identifiers, all of one address. -/
def crowd (id : String) (peers : List String) : Account where
  id := id
  peers := .ofList (peers.map (fun peer => (peer, { id := peer })))

/-- A peer of another account is not in the way, one of the same account is. -/
theorem save_succeeds_iff_crowded :
    Used (performAll (upkeep .empty ⟨0⟩).db [.save (crowd "b" ["p"])]) ∧
      (perform (performAll (upkeep .empty ⟨0⟩).db [.save (crowd "b" ["p"])])
        (.save (crowd "a" ["q"]))).outcome = .ok .done ∧
      (∃ problem,
        (perform (performAll (upkeep .empty ⟨0⟩).db [.save (crowd "b" ["p"])])
          (.save (crowd "a" ["q", "r"]))).outcome = .error problem ∧
        problem.kind = .internal) ∧
      ∃ problem,
        (perform (performAll (upkeep .empty ⟨0⟩).db [.save (crowd "b" ["p"])])
          (.save { crowd "a" ["q"] with createdAt := ⟨0x8000000000000000⟩ })).outcome =
            .error problem ∧
        problem.kind = .invalidArgument := by
  have used : Used (performAll (upkeep .empty ⟨0⟩).db [.save (crowd "b" ["p"])]) :=
    ⟨⟨0⟩, _, rfl⟩
  exact ⟨used,
    (save_succeeds_iff used (crowd "a" ["q"])).1.mpr (by decide +kernel),
    (save_succeeds_iff used (crowd "a" ["q", "r"])).2.2.1 (by decide) (by decide +kernel)
      (by decide +kernel),
    (save_succeeds_iff used
      { crowd "a" ["q"] with createdAt := ⟨0x8000000000000000⟩ }).2.1 (by decide +kernel)
      (by decide +kernel)⟩

end TenantStore.TableEngine
