import TenantStore.Proofs.FileEngine.MigrationReports
import TenantStore.Proofs.Json.Compact
import TenantStore.Store

namespace TenantStore

/-!
# What the log reads

The level of a notice decides whether a log shows it (`LogSetup.shows_iff`). What
the operator is told stands behind what the log read before
(`Host.log_notify`), and a line of JSON is read back as its document
(`LogSetup.exists_text_line`). While accounts are brought up to date, the log
names each of them that has no group of all peers, and no other
(`FileEngine.Migration.mem_notices_noGroupOfAll_iff`).
-/

/-! ## Levels -/

namespace LogSetup

variable {setup : LogSetup} {notice : Notice}

/-- A notice is shown if it is as severe as the level of the log. -/
theorem shows_iff : setup.shows notice = true ↔ setup.level.severity ≤ notice.level.severity := by
  simp [shows, LogLevel.admits, LogLevel.isAbove]

/-- What a log shows is shown by every log from a lower level on. -/
theorem shows_of_le
    {lower : LogSetup}
    (below : lower.level.severity ≤ setup.level.severity)
    (shown : setup.shows notice = true) :
    lower.shows notice = true :=
  shows_iff.mpr (below.trans (shows_iff.mp shown))

/-- Nothing is more severe than an error, so every log shows it. -/
theorem shows_of_error (severe : notice.level = .error) : setup.shows notice = true := by
  rw [shows_iff, severe]
  cases setup.level <;> decide

/-! ## Lines -/

/-- The document of a notice is plain. -/
theorem isPlain_document (setup : LogSetup) (stamp : String) (notice : Notice) :
    (setup.document stamp notice).IsPlain := by
  rw [document]
  split <;> simp

/-- A line of JSON is the text of a document, which is read back from it. -/
theorem exists_text_line
    (inJson : setup.jsonFormat = true)
    (stamp : String)
    (notice : Notice) :
    ∃ text, setup.line stamp notice = text ++ "\n" ∧
      Json.ofText? text = some (setup.document stamp notice) := by
  refine ⟨(setup.document stamp notice).compactText, ?_, ?_⟩
  · rw [line, if_pos inJson]
  · exact Json.ofText?_compactText (setup.isPlain_document stamp notice)

/-- Notices behind others are read behind them, with the times of their own places. -/
theorem log_append (setup : LogSetup) (clock : Clock) (first second : List Notice) :
    setup.log clock (first ++ second) = setup.log clock first ++
      setup.log { clock with stamp := fun number => clock.stamp (number + first.length) }
        second := by
  rw [log, log, log, List.mapIdx_append, String.join_append]

end LogSetup

/-! ## What the operator is told -/

namespace Host

variable {host : Host} {setup : LogSetup}

/-- What the operator is told stands behind what the log read before, if the log shows it. -/
theorem log_notify (installed : host.logging = some setup) (notices : List Notice) :
    (host.notify notices).log = host.log ++
      setup.log
        { host.clock with stamp := fun number => host.clock.stamp (number + host.notices.length) }
        (notices.filter setup.shows) := by
  have heard : host.hears = setup.shows := by
    funext notice
    rw [hears, installed]
  rw [log, log, notify, heard, installed]
  exact setup.log_append host.clock host.notices (notices.filter setup.shows)

/-- Errors reach the operator whether there is a log or not. -/
theorem hears_of_error {notice : Notice} (severe : notice.level = .error) :
    host.hears notice = true := by
  rw [hears]
  split
  · exact LogSetup.shows_of_error severe
  · rw [Notice.isWarning, severe]
    rfl

end Host

/-! ## Accounts without a group of all peers -/

namespace FileEngine.Migration

/-- What a run of steps gives to notice, by the steps and what they find. -/
theorem mem_stepNotices_iff {steps : List Step} {memory : Memory} {notice : Notice} :
    notice ∈ stepNotices steps memory ↔ ∃ place ∈ passage steps memory,
      notice ∈ place.1.remarks place.2.accounts ∨
        notice = .migrated place.1.name (place.1.count place.2.accounts) := by
  induction steps generalizing memory with
  | nil => simp [stepNotices, passage]
  | cons step rest inductionHypothesis =>
      rw [stepNotices, passage, List.exists_mem_cons_iff, List.mem_append, List.mem_cons,
        inductionHypothesis, or_assoc]

/-- Whether what is filed under an identifier is an account without a group of all peers. -/
def Lacks (slot : String) (accounts : Dict Account) : Prop :=
  ∃ account, accounts.get? slot = some account ∧ account.groupAll?.isSome = false

/-- The accounts that are remarked on are those without a group of all peers. -/
theorem noGroupOfAll_mem_withoutGroupOfAll_iff {accounts : Dict Account} {slot : String} :
    .noGroupOfAll slot ∈ withoutGroupOfAll accounts ↔ Lacks slot accounts := by
  simp [withoutGroupOfAll, Lacks, Dict.get?_eq_some_iff]

/-- No step gives a group of all peers to an account, or takes it away. -/
theorem isSome_groupAll?_change (arrival : Arrival) :
    ∀ change ∈ accountChanges arrival, ∀ slot account,
      (change slot account).groupAll?.isSome = account.groupAll?.isSome := by
  have labeled (account : Account) : (labelPeers account).groups = account.groups := by
    obtain ⟨_, labeled, _⟩ := labelPeers_eq account
    rw [labeled]
  simp only [accountChanges, List.forall_mem_cons, List.not_mem_nil, false_implies,
    implies_true, and_true]
  refine ⟨?settings, ?indices, ?users, ?domains, ?policies, ?labels, ?groups, ?routes,
    ?identities⟩
  all_goals intro slot account
  case labels => rw [Account.groupAll?, Account.groupAll?, labeled]
  case groups => rw [groupAll?_supplyGroupIssuers, Option.isSome_map]
  case routes =>
    rw [supplyRouteGroups_eq]
    rfl
  case identities => exact isSome_groupAll?_identifyPeers arrival slot account
  all_goals rfl

/-- The same accounts lack a group of all peers before and after each step. -/
theorem lacks_change (arrival : Arrival) (slot : String) :
    ∀ change ∈ accountChanges arrival, ∀ accounts,
      Lacks slot (accounts.mapValues change) ↔ Lacks slot accounts := by
  intro change member accounts
  have same (account : Account) := isSome_groupAll?_change arrival change member slot account
  constructor
  · rintro ⟨_, found, none⟩
    rw [Dict.get?_mapValues, Option.map_eq_some_iff] at found
    obtain ⟨account, stored, rfl⟩ := found
    exact ⟨account, stored, (same account).symm.trans none⟩
  · rintro ⟨account, stored, none⟩
    refine ⟨change slot account, ?_, (same account).trans none⟩
    rw [Dict.get?_mapValues, stored, Option.map_some]

/-- One step remarks on accounts without a group of all peers, and no step on anything else. -/
theorem remarks_eq (arrival : Arrival) :
    (∃ step ∈ steps arrival, step.remarks = withoutGroupOfAll) ∧
      ∀ step ∈ steps arrival,
        step.remarks = withoutGroupOfAll ∨ step.remarks = fun _ => [] := by
  constructor <;> simp [steps]

/-- The accounts without a group of all peers are told of while they are brought up to date, and
no other account is. -/
theorem mem_notices_noGroupOfAll_iff {arrival : Arrival} {memory : Memory} {slot : String} :
    .noGroupOfAll slot ∈ notices arrival memory ↔
      ∃ account, memory.accounts.get? slot = some account ∧ account.groupAll?.isSome = false := by
  have alike := (passage_keeps (steps_change arrival)
    (fun change member accounts => (lacks_change arrival slot change member accounts).trans)
    (Iff.refl (Lacks slot memory.accounts))).1
  obtain ⟨⟨remarking, listed, remarks⟩, others⟩ := remarks_eq arrival
  rw [notices, mem_stepNotices_iff]
  constructor
  · rintro ⟨place, member, remarked | same⟩
    · rcases others place.1 (mem_passage_steps member) with all | none
      · rw [all, noGroupOfAll_mem_withoutGroupOfAll_iff] at remarked
        exact (alike place member).mp remarked
      · rw [none] at remarked
        cases remarked
    · cases same
  · intro lacks
    rw [← map_fst_passage (steps arrival) memory] at listed
    obtain ⟨place, member, rfl⟩ := List.mem_map.mp listed
    refine ⟨place, member, .inl ?_⟩
    rw [remarks, noGroupOfAll_mem_withoutGroupOfAll_iff]
    exact (alike place member).mpr lacks

end FileEngine.Migration

end TenantStore
