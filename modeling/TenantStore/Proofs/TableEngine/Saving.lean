import TenantStore.Proofs.Accounts
import TenantStore.Proofs.TableEngine.Clashes

namespace TenantStore.TableEngine

/-!
# Saving and deleting accounts

Deleting an account drops its records, and what belongs to its users and
policies. Writing an account puts one record after the other: `accountEntries`
lists them in the order in which they are written. Saving does both, and
succeeds if every number fits its cell and no two peers share an address.
-/

open Relational (Cell Row Table Database)

/-! ## Deleting -/

/-- Contents without the records of an account. -/
def Contents.drop (contents : Contents) (id : String) : Contents
  | .account => (contents .account).filter (fun record => record.key ≠ id)
  | .token => (contents .token).filter (fun record =>
      record.owner ∉ contents.ownedKeys .user id)
  | .rule => (contents .rule).filter (fun record =>
      record.owner ∉ contents.ownedKeys .policy id)
  | .setupKey => (contents .setupKey).filter (fun record => record.owner ≠ id)
  | .peer => (contents .peer).filter (fun record => record.owner ≠ id)
  | .user => (contents .user).filter (fun record => record.owner ≠ id)
  | .group => (contents .group).filter (fun record => record.owner ≠ id)
  | .policy => (contents .policy).filter (fun record => record.owner ≠ id)
  | .route => (contents .route).filter (fun record => record.owner ≠ id)
  | .nameServerGroup =>
      (contents .nameServerGroup).filter (fun record => record.owner ≠ id)

namespace Represents

variable {db : Database} {contents : Contents} {installation : Option String}

/-- Deleting an account succeeds and drops its records. -/
theorem deleteAccount
    (represents : Represents db contents installation)
    (id : String) :
    ∃ after, deleteAccount db id = .ok after ∧
      Represents after (contents.drop id) installation := by
  have byId : ∀ {contents : Contents} table, Holds table (contents .account) →
      ∀ row (record : Record .account), record.StandsIn row →
        table.holds "id" (.text id) row = !decide (record.key ≠ id) := by
    intro contents table holds row record stands
    rw [holds.holds_id id row record stands]
    simp
  obtain ⟨db, rules, represents⟩ :=
    @deleteBelow _ _ _ represents .rule .policy rfl (by decide) (by decide) id
  obtain ⟨db, policies, represents⟩ :=
    @deleteOwned _ _ _ represents .policy rfl (by decide) id
  obtain ⟨db, tokens, represents⟩ :=
    @deleteBelow _ _ _ represents .token .user rfl (by decide) (by decide) id
  obtain ⟨db, users, represents⟩ :=
    @deleteOwned _ _ _ represents .user rfl (by decide) id
  obtain ⟨db, setupKeys, represents⟩ :=
    @deleteOwned _ _ _ represents .setupKey rfl (by decide) id
  obtain ⟨db, peers, represents⟩ :=
    @deleteOwned _ _ _ represents .peer rfl (by decide) id
  obtain ⟨db, groups, represents⟩ :=
    @deleteOwned _ _ _ represents .group rfl (by decide) id
  obtain ⟨db, routes, represents⟩ :=
    @deleteOwned _ _ _ represents .route rfl (by decide) id
  obtain ⟨db, nameServerGroups, represents⟩ :=
    @deleteOwned _ _ _ represents .nameServerGroup rfl (by decide) id
  obtain ⟨db, accounts, represents⟩ :=
    @deleteWhere _ _ _ represents .account _ _ byId
  simp only [Kind.tableName, Kind.ownerColumn] at rules policies tokens users
  simp only [Kind.tableName] at setupKeys peers groups routes nameServerGroups accounts
  refine ⟨db, ?_, ?_⟩
  · simp only [TableEngine.deleteAccount, plainTables, List.foldlM_cons, List.foldlM_nil,
      rules, policies, tokens, users, setupKeys, peers, groups, routes,
      nameServerGroups, accounts, bind, Except.bind, pure, Except.pure]
  · have dropped : ∀ {found : Contents}, Represents db found installation →
        (∀ kind, found kind = contents.drop id kind) →
          Represents db (contents.drop id) installation := by
      intro found represents same
      rwa [funext same] at represents
    apply dropped represents
    intro kind
    cases kind <;> rfl

end Represents

/-! ## Writing records -/

/-- A record of some kind. -/
structure Entry where
  kind : Kind
  record : Record kind

/-- Contents with records put one after the other. -/
def Contents.putAll (contents : Contents) (entries : List Entry) : Contents :=
  entries.foldl (fun contents entry => contents.put entry.record) contents

/-- Every record can be written when its turn comes. -/
def Contents.Admits : Contents → List Entry → Prop
  | _, [] => True
  | contents, entry :: rest =>
      entry.record.IsStorable ∧ contents.Free entry.record ∧
        (contents.put entry.record).Admits rest

/-- Entries are admitted if the first ones are, and the others after these. -/
theorem admits_append {contents : Contents} {first second : List Entry} :
    contents.Admits (first ++ second) ↔
      contents.Admits first ∧ (contents.putAll first).Admits second := by
  induction first generalizing contents with
  | nil => simp [Contents.Admits, Contents.putAll]
  | cons entry rest inductionHypothesis =>
      simp [Contents.Admits, Contents.putAll, inductionHypothesis, and_assoc]

/-- Writing puts some records wherever they are admitted. -/
def Puts (write : Database → Except Problem Database) (entries : List Entry) : Prop :=
  ∀ db contents installation, Represents db contents installation →
    contents.Admits entries →
      ∃ after, write db = .ok after ∧
        Represents after (contents.putAll entries) installation

/--
The records end with one that is refused for a problem: its cells cannot be
written, or its address is taken.
-/
inductive Contents.Refuses : Contents → List Entry → Problem → Prop where
  | unwritable
      {contents : Contents}
      {entry : Entry}
      {rest : List Entry}
      {problem : Problem}
      (failed : entry.kind.cells entry.record.owner entry.record.value = .error problem) :
      Refuses contents (entry :: rest) problem
  | taken
      {contents : Contents}
      {entry : Entry}
      {rest : List Entry}
      (storable : entry.record.IsStorable)
      (taken : ¬contents.Free entry.record) :
      Refuses contents (entry :: rest) .addressTaken
  | later
      {contents : Contents}
      {entry : Entry}
      {rest : List Entry}
      {problem : Problem}
      (storable : entry.record.IsStorable)
      (free : contents.Free entry.record)
      (refuses : Refuses (contents.put entry.record) rest problem) :
      Refuses contents (entry :: rest) problem

/-- What is refused is refused whatever comes after it. -/
theorem Contents.Refuses.append
    {contents : Contents}
    {first : List Entry}
    {problem : Problem}
    (refuses : contents.Refuses first problem)
    (second : List Entry) :
    contents.Refuses (first ++ second) problem := by
  induction refuses with
  | unwritable failed => exact .unwritable failed
  | taken storable taken => exact .taken storable taken
  | later storable free _ inductionHypothesis =>
      exact .later storable free inductionHypothesis

/-- What is refused after entries that are admitted is refused as a whole. -/
theorem Contents.Admits.refuses_append
    {contents : Contents}
    {first second : List Entry}
    {problem : Problem}
    (admits : contents.Admits first)
    (refuses : (contents.putAll first).Refuses second problem) :
    contents.Refuses (first ++ second) problem := by
  induction first generalizing contents with
  | nil => exact refuses
  | cons entry rest inductionHypothesis =>
      obtain ⟨storable, free, restAdmits⟩ := admits
      exact .later storable free (inductionHypothesis restAdmits refuses)

/-- Records that are admitted are not refused. -/
theorem Contents.Refuses.not_admits
    {contents : Contents}
    {entries : List Entry}
    {problem : Problem}
    (refuses : contents.Refuses entries problem) :
    ¬contents.Admits entries := by
  induction refuses with
  | unwritable failed =>
      rintro ⟨⟨given, written⟩, _⟩
      rw [failed] at written
      cases written
  | taken _ taken => exact fun admits => taken admits.2.1
  | later _ _ _ inductionHypothesis => exact fun admits => inductionHypothesis admits.2.2

/-- Writing puts some records, or ends at the first one that is refused. -/
def PutsOrRefuses
    (write : Database → Except Problem Database)
    (entries : List Entry) :
    Prop :=
  ∀ db contents installation, Represents db contents installation →
    (contents.Admits entries ∧ ∃ after, write db = .ok after ∧
      Represents after (contents.putAll entries) installation) ∨
    ∃ problem, write db = .error problem ∧ contents.Refuses entries problem

/-- Writing nothing puts nothing. -/
theorem putsOrRefuses_nothing : PutsOrRefuses .ok [] :=
  fun db _ _ represents => .inl ⟨trivial, db, rfl, represents⟩

/-- Writing twice puts the records of both. -/
theorem PutsOrRefuses.andThen
    {first second : Database → Except Problem Database}
    {firstEntries secondEntries : List Entry}
    (firstPuts : PutsOrRefuses first firstEntries)
    (secondPuts : PutsOrRefuses second secondEntries) :
    PutsOrRefuses (fun db => first db >>= second) (firstEntries ++ secondEntries) := by
  intro db contents installation represents
  rcases firstPuts db contents installation represents with
    ⟨admitsFirst, middle, firstRun, represents⟩ | ⟨problem, firstRun, refuses⟩
  · have run : (first db >>= second) = second middle := by rw [firstRun]; rfl
    rcases secondPuts middle _ installation represents with
      ⟨admitsSecond, after, secondRun, represents⟩ | ⟨problem, secondRun, refuses⟩
    · refine .inl ⟨admits_append.mpr ⟨admitsFirst, admitsSecond⟩, after,
        run.trans secondRun, ?_⟩
      rw [Contents.putAll, List.foldl_append]
      exact represents
    · exact .inr ⟨problem, run.trans secondRun, admitsFirst.refuses_append refuses⟩
  · have run : (first db >>= second) = .error problem := by rw [firstRun]; rfl
    exact .inr ⟨problem, run, refuses.append secondEntries⟩

/-- Checking that rows can be replaced changes nothing. -/
theorem PutsOrRefuses.checked
    {write : Database → Except Problem Database}
    {entries : List Entry}
    (puts : PutsOrRefuses write entries)
    (kind : Kind) :
    PutsOrRefuses (fun db => db.replaceable kind.tableName >>= fun _ => write db) entries := by
  intro db contents installation represents
  have run : (db.replaceable kind.tableName >>= fun _ => write db) = write db := by
    rw [represents.replaceable kind]
    rfl
  simp only [run]
  exact puts db contents installation represents

/-- Writing a row puts the entity or is refused. -/
theorem putsOrRefuses_row (kind : Kind) (owner : String) (value : kind.Value) :
    PutsOrRefuses (fun db => writeRow kind.tableName (kind.cells owner) db value)
      [⟨kind, owner, value⟩] := by
  intro db contents installation represents
  cases cells_eq : kind.cells owner value with
  | error problem =>
      have run : writeRow kind.tableName (kind.cells owner) db value = .error problem := by
        rw [writeRow, cells_eq]
        rfl
      exact .inr ⟨problem, run, .unwritable cells_eq⟩
  | ok given =>
      have run : writeRow kind.tableName (kind.cells owner) db value =
          db.upsert kind.tableName given := by
        rw [writeRow, cells_eq]
        rfl
      have storable : (Record.mk owner value).IsStorable := ⟨given, cells_eq⟩
      by_cases free : contents.Free (Record.mk owner value)
      · obtain ⟨after, upserted, afterRepresents⟩ :=
          @Represents.upsert _ _ _ represents _ (Record.mk owner value) _ cells_eq free
        exact .inl ⟨⟨storable, free, trivial⟩, after, run.trans upserted, afterRepresents⟩
      · have refused :=
          @Represents.upsert_taken _ _ _ represents _ (Record.mk owner value) _ cells_eq free
        exact .inr ⟨.addressTaken, run.trans refused, .taken storable free⟩

/-- Writing one item after the other puts the records of all of them. -/
theorem putsOrRefuses_foldlM
    {write : Database → α → Except Problem Database}
    {entries : α → List Entry}
    (items : List α)
    (puts : ∀ item, PutsOrRefuses (fun db => write db item) (entries item)) :
    PutsOrRefuses (fun db => items.foldlM write db) (items.flatMap entries) := by
  induction items with
  | nil => exact putsOrRefuses_nothing
  | cons item rest inductionHypothesis =>
      rw [List.flatMap_cons]
      have both := (puts item).andThen inductionHypothesis
      simp only [List.foldlM_cons]
      exact both

/-- The records of entities that an owner has. -/
def entriesOf (kind : Kind) (owner : String) (values : List kind.Value) : List Entry :=
  values.flatMap (fun value => [⟨kind, owner, value⟩])

/-- Writing rows puts the entities in order, up to one that is refused. -/
theorem putsOrRefuses_rows (kind : Kind) (owner : String) (values : List kind.Value) :
    PutsOrRefuses (writeRows kind.tableName (kind.cells owner) values)
      (entriesOf kind owner values) :=
  (putsOrRefuses_foldlM values (putsOrRefuses_row kind owner)).checked kind

/-! ## Accounts -/

/-- The records of a user and its tokens. -/
def userEntries (accountId : String) (user : User) : List Entry :=
  ⟨.user, accountId, user⟩ :: entriesOf .token user.id user.tokens.values

/-- The records of a policy and its rules. -/
def policyEntries (accountId : String) (policy : Policy) : List Entry :=
  ⟨.policy, accountId, policy⟩ :: entriesOf .rule policy.id policy.rules

/-- The records of an account, in the order in which they are written. -/
def accountEntries (account : Account) : List Entry :=
  entriesOf .account "" [account]
    ++ (entriesOf .setupKey account.id account.setupKeys.values
    ++ (entriesOf .peer account.id account.peers.values
    ++ (account.users.values.flatMap (userEntries account.id)
    ++ (entriesOf .group account.id account.groups.values
    ++ (account.policies.flatMap (policyEntries account.id)
    ++ (entriesOf .route account.id account.routes.values
    ++ entriesOf .nameServerGroup account.id account.nameServerGroups.values))))))

/-- A user is written before the tokens. -/
theorem putsOrRefuses_user (accountId : String) (user : User) :
    PutsOrRefuses (fun db => writeUser accountId db user) (userEntries accountId user) :=
  (putsOrRefuses_row .user accountId user).andThen
    (putsOrRefuses_foldlM user.tokens.values (putsOrRefuses_row .token user.id))

/-- A policy is written before its rules. -/
theorem putsOrRefuses_policy (accountId : String) (policy : Policy) :
    PutsOrRefuses (fun db => writePolicy accountId db policy)
      (policyEntries accountId policy) :=
  (putsOrRefuses_row .policy accountId policy).andThen
    (putsOrRefuses_foldlM policy.rules (putsOrRefuses_row .rule policy.id))

/-- Writing an account puts its records, or ends at the first one that is refused. -/
theorem putsOrRefuses_account (account : Account) :
    PutsOrRefuses (fun db => writeAccount db account) (accountEntries account) := by
  have users := (putsOrRefuses_foldlM account.users.values (putsOrRefuses_user account.id)
    |>.checked .token).checked .user
  have policies := (putsOrRefuses_foldlM account.policies (putsOrRefuses_policy account.id)
    |>.checked .rule).checked .policy
  exact (putsOrRefuses_rows .account "" [account]).andThen
    ((putsOrRefuses_rows .setupKey account.id account.setupKeys.values).andThen
    ((putsOrRefuses_rows .peer account.id account.peers.values).andThen
    (users.andThen
    ((putsOrRefuses_rows .group account.id account.groups.values).andThen
    (policies.andThen
    ((putsOrRefuses_rows .route account.id account.routes.values).andThen
    (putsOrRefuses_rows .nameServerGroup account.id account.nameServerGroups.values)))))))

/-- Writing an account puts its records wherever they are admitted. -/
theorem puts_account (account : Account) :
    Puts (fun db => writeAccount db account) (accountEntries account) := by
  intro db contents installation represents admits
  rcases putsOrRefuses_account account db contents installation represents with
    ⟨_, puts⟩ | ⟨_, _, refuses⟩
  · exact puts
  · exact absurd admits refuses.not_admits

/-! ## Records of one kind -/

/-- The record of an entry of a given kind. -/
def Entry.of? (kind : Kind) (entry : Entry) : Option (Record kind) :=
  if same : entry.kind = kind then some (same ▸ entry.record) else none

theorem of?_self (kind : Kind) (record : Record kind) :
    Entry.of? kind ⟨kind, record⟩ = some record := by
  rw [Entry.of?, dif_pos rfl]

theorem of?_other {kind other : Kind} (unlike : kind ≠ other) (record : Record kind) :
    Entry.of? other ⟨kind, record⟩ = none := by
  rw [Entry.of?, dif_neg unlike]

/-- Only the records of a kind matter for the contents of that kind. -/
theorem putAll_apply (contents : Contents) (entries : List Entry) (kind : Kind) :
    contents.putAll entries kind =
      (entries.filterMap (Entry.of? kind)).foldl
        (fun records record => putRecord record records) (contents kind) := by
  induction entries generalizing contents with
  | nil => rfl
  | cons entry rest inductionHypothesis =>
      obtain ⟨other, record⟩ := entry
      have unfold_eq : contents.putAll (⟨other, record⟩ :: rest) =
          (contents.put record).putAll rest := rfl
      rw [unfold_eq, inductionHypothesis, List.filterMap_cons]
      by_cases same : other = kind
      · subst same
        rw [of?_self, Contents.put, Function.update_self]
        rfl
      · rw [of?_other same, Contents.put,
          Function.update_of_ne (fun equal => same equal.symm)]

/-- The entries of a kind are its records. -/
theorem filterMap_entriesOf_self
    (kind : Kind)
    (owner : String)
    (values : List kind.Value) :
    (entriesOf kind owner values).filterMap (Entry.of? kind) =
      values.map (Record.mk owner) := by
  induction values with
  | nil => rfl
  | cons value rest inductionHypothesis =>
      rw [entriesOf, List.flatMap_cons, List.filterMap_append, ← entriesOf,
        inductionHypothesis]
      simp [of?_self]

/-- The entries of a kind are no records of another one. -/
theorem filterMap_entriesOf_other
    {kind other : Kind}
    (unlike : kind ≠ other)
    (owner : String)
    (values : List kind.Value) :
    (entriesOf kind owner values).filterMap (Entry.of? other) = [] := by
  rw [List.filterMap_eq_nil_iff]
  intro entry member
  obtain ⟨value, _, single⟩ := List.mem_flatMap.mp member
  rw [List.mem_singleton.mp single, of?_other unlike]

/-- The records of a kind that an account is written to. -/
def recordsOf (account : Account) : (kind : Kind) → List (Record kind)
  | .account => [⟨"", account⟩]
  | .setupKey => account.setupKeys.values.map (Record.mk account.id)
  | .peer => account.peers.values.map (Record.mk account.id)
  | .user => account.users.values.map (Record.mk account.id)
  | .token => account.users.values.flatMap (fun user =>
      user.tokens.values.map (Record.mk user.id))
  | .group => account.groups.values.map (Record.mk account.id)
  | .policy => account.policies.map (Record.mk account.id)
  | .rule => account.policies.flatMap (fun policy =>
      policy.rules.map (Record.mk policy.id))
  | .route => account.routes.values.map (Record.mk account.id)
  | .nameServerGroup => account.nameServerGroups.values.map (Record.mk account.id)

/-- What is written for an account are its records of each kind. -/
theorem filterMap_accountEntries (account : Account) (kind : Kind) :
    (accountEntries account).filterMap (Entry.of? kind) = recordsOf account kind := by
  have nothing : ∀ {α β : Type} (items : List α),
      items.flatMap (fun _ => ([] : List β)) = [] := by
    simp
  cases kind <;>
    simp [accountEntries, userEntries, policyEntries, recordsOf,
      List.filterMap_append, List.filterMap_flatMap, List.map_eq_flatMap, nothing,
      of?_self, of?_other, filterMap_entriesOf_self, filterMap_entriesOf_other]

/-! ## Saving -/

/-- A record that is there after another was put is this one or was there before. -/
theorem mem_putRecord
    {kind : Kind}
    {record other : Record kind}
    {records : List (Record kind)}
    (member : other ∈ putRecord record records) :
    other = record ∨ other ∈ records := by
  rw [putRecord] at member
  split at member
  · obtain ⟨old, oldMember, same⟩ := List.mem_map.mp member
    split at same
    · exact .inl same.symm
    · exact .inr (same ▸ oldMember)
  · rcases List.mem_append.mp member with earlier | last
    · exact .inr earlier
    · exact .inl (List.mem_singleton.mp last)

/-- The peers among some records give addresses that no other record gives. -/
structure Contents.Unshared (contents : Contents) (entries : List Entry) : Prop where
  apart : (entries.filterMap (Entry.of? .peer)).Pairwise
    (fun left right => ¬right.SharesAddress left)
  free : ∀ record ∈ entries.filterMap (Entry.of? .peer),
    ∀ other ∈ contents .peer, ¬record.SharesAddress other

namespace Contents.Unshared

variable {contents : Contents} {entry : Entry} {entries rest : List Entry}

/-- The first entry meets no other address. -/
theorem head_free (unshared : contents.Unshared (entry :: rest)) :
    contents.Free entry.record := by
  obtain ⟨kind, record⟩ := entry
  intro other member _ shares
  cases kind with
  | peer =>
      have free := unshared.free
      rw [List.filterMap_cons, of?_self] at free
      exact free record List.mem_cons_self other member shares
  | _ => exact shares

/-- The entries after the first one meet no address either, with the first one put. -/
theorem tail (unshared : contents.Unshared (entry :: rest)) :
    (contents.put entry.record).Unshared rest := by
  obtain ⟨kind, record⟩ := entry
  obtain ⟨apart, free⟩ := unshared
  rw [List.filterMap_cons] at apart free
  by_cases same : kind = .peer
  · subst same
    rw [of?_self] at apart free
    obtain ⟨recordApart, restApart⟩ := List.pairwise_cons.mp apart
    refine ⟨restApart, ?_⟩
    intro later laterMember other member
    rw [Contents.put, Function.update_self] at member
    rcases mem_putRecord member with rfl | old
    · exact recordApart later laterMember
    · exact free later (List.mem_cons_of_mem _ laterMember) other old
  · rw [of?_other same] at apart free
    refine ⟨apart, ?_⟩
    rw [Contents.put, Function.update_of_ne (fun equal => same equal.symm)]
    exact free

/-- Records that can be stored are admitted while no address comes up twice. -/
theorem admits
    (unshared : contents.Unshared entries)
    (storable : ∀ entry ∈ entries, entry.record.IsStorable) :
    contents.Admits entries := by
  induction entries generalizing contents with
  | nil => trivial
  | cons entry rest inductionHypothesis =>
      exact ⟨storable entry List.mem_cons_self, unshared.head_free,
        inductionHypothesis unshared.tail
          (fun other member => storable other (List.mem_cons_of_mem _ member))⟩

end Contents.Unshared

/-- Where an account owns nothing, it shares addresses with no other account. -/
theorem unshared_account
    (contents : Contents)
    {account : Account}
    (apart : (account.peers.values.map Peer.ip).Nodup) :
    (contents.drop account.id).Unshared (accountEntries account.normalized) := by
  constructor
  · rw [filterMap_accountEntries]
    rw [← account.normalized_addresses, List.nodup_iff_pairwise_ne, List.pairwise_map]
      at apart
    refine List.pairwise_map.mpr (apart.imp ?_)
    intro left right unlike shares
    exact unlike shares.2.symm
  · rw [filterMap_accountEntries]
    intro record member other otherMember shares
    obtain ⟨peer, _, rfl⟩ := List.mem_map.mp member
    have elsewhere : other.owner ≠ account.id := by
      simpa using (List.mem_filter.mp otherMember).2
    exact elsewhere shares.1.symm

namespace Represents

variable {db : Database} {contents : Contents} {installation : Option String}

/--
Saving an account succeeds if its records can be stored and its peers have
distinct addresses. It drops the account and puts these records.
-/
theorem saveAccount
    (represents : Represents db contents installation)
    {account : Account}
    (storable : ∀ entry ∈ accountEntries account.normalized,
      entry.record.IsStorable)
    (apart : (account.peers.values.map Peer.ip).Nodup) :
    ∃ after, saveAccount db account = .ok after ∧
      Represents after
        ((contents.drop account.id).putAll (accountEntries account.normalized))
        installation := by
  obtain ⟨remaining, deleted, represents⟩ := represents.deleteAccount account.id
  have admits := (unshared_account contents apart).admits storable
  obtain ⟨after, written, afterRepresents⟩ :=
    puts_account account.normalized remaining _ installation represents admits
  refine ⟨after, ?_, afterRepresents⟩
  show TableEngine.deleteAccount db account.id >>= _ = _
  rw [deleted]
  exact written

end Represents

end TenantStore.TableEngine
