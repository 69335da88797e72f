import TenantStore.CommandLine.Execution

namespace TenantStore.CommandLine

/-!
# How tasks run

A task that is made of others runs the first of them and goes on with its
value, or ends with its failure. A conversion thus ends at the first of its
steps that fails (`convert_of_error`), or takes all of them (`convert_of_ok`).
-/

open Store (Opening)

namespace Task

/-- A task goes on where the one before it ended, or fails with it. -/
theorem run_bind (task : Task α) (next : α → Task β) (host : Host) :
    (task >>= next).run host =
      match task.run host with
      | (.ok value, host) => (next value).run host
      | (.error failure, host) => (.error failure, host) := by
  show ExceptT.bindCont next (task.run host).1 (task.run host).2 = _
  rcases task.run host with ⟨_ | _, _⟩ <;> rfl

theorem run_get (host : Host) : (get : Task Host).run host = (.ok host, host) :=
  rfl

/-- Telling the operator something cannot fail. -/
theorem run_tell (notice : Notice) (host : Host) :
    (tell notice).run host = (.ok (), host.notify [notice]) :=
  rfl

/-- A task that goes on ends well exactly if both of its parts do. -/
theorem bind_eq_ok_iff {task : Task α} {next : α → Task β} {host after : Host} {value : β} :
    (task >>= next).run host = (.ok value, after) ↔
      ∃ first middle, task.run host = (.ok first, middle) ∧
        (next first).run middle = (.ok value, after) := by
  rw [run_bind]
  constructor
  · intro ends
    split at ends
    · exact ⟨_, _, ‹_›, ends⟩
    · cases ends
  · rintro ⟨first, middle, run, ends⟩
    rw [run]
    exact ends

/-- A task that goes on fails exactly if one of its parts does. -/
theorem bind_eq_error_iff
    {task : Task α}
    {next : α → Task β}
    {host after : Host}
    {failure : Failure} :
    (task >>= next).run host = (.error failure, after) ↔
      task.run host = (.error failure, after) ∨
        ∃ first middle, task.run host = (.ok first, middle) ∧
          (next first).run middle = (.error failure, after) := by
  rw [run_bind]
  constructor
  · intro fails
    split at fails
    · exact .inr ⟨_, _, ‹_›, fails⟩
    · cases fails
      exact .inl ‹_›
  · rintro (fails | ⟨first, middle, run, fails⟩)
    · rw [fails]
    · rw [run]
      exact fails

/-- An attempt leaves the host as it is, and succeeds with its value. -/
theorem ofAttempt_eq_ok_iff
    {describe : ε → Failure}
    {attempt : Except ε α}
    {host after : Host}
    {value : α} :
    (ofAttempt describe attempt).run host = (.ok value, after) ↔
      attempt = .ok value ∧ after = host := by
  cases attempt with
  | error problem =>
      show (Except.error _, host) = (Except.ok _, _) ↔ _
      simp
  | ok found =>
      show (Except.ok found, host) = (Except.ok _, _) ↔ _
      simp [eq_comm]

/-- A failed attempt is described, and leaves the host. -/
theorem ofAttempt_eq_error_iff
    {describe : ε → Failure}
    {attempt : Except ε α}
    {host after : Host}
    {failure : Failure} :
    (ofAttempt describe attempt).run host = (.error failure, after) ↔
      (∃ problem, attempt = .error problem ∧ failure = describe problem) ∧
        after = host := by
  cases attempt with
  | error problem =>
      show (Except.error (describe problem), host) = (Except.error _, _) ↔ _
      simp [eq_comm]
  | ok found =>
      show (Except.ok found, host) = (Except.error _, _) ↔ _
      simp

section Steps

variable {describe : Problem → Failure} {opens : Host → Opening} {host after : Host}
  {store : Store} {failure : Failure}

/-- A store is open if its opening succeeded. -/
theorem openStore_eq_ok_iff :
    (openStore describe opens).run host = (.ok store, after) ↔
      (opens host).store = .ok store ∧ after = (opens host).host :=
  ofAttempt_eq_ok_iff

/-- An opening that fails leaves its host behind. -/
theorem of_openStore_eq_error
    (fails : (openStore describe opens).run host = (.error failure, after)) :
    (∃ problem, (opens host).store = .error problem) ∧ after = (opens host).host := by
  obtain ⟨⟨problem, failed, _⟩, same⟩ := ofAttempt_eq_error_iff.mp fails
  exact ⟨⟨problem, failed⟩, same⟩

/-- Carrying out a call is replying to it and then answering with the outcome. -/
theorem run_perform (call : Call) :
    (perform describe store call).run host =
      (ofAttempt describe (store.perform host call).outcome >>= fun answer =>
        pure ((store.perform host call).store, answer) : Task (Store × Answer)).run
          (store.perform host call).host :=
  rfl

/-- A call is performed if the store answers it. -/
theorem perform_eq_ok_iff {call : Call} {answer : Store × Answer} :
    (perform describe store call).run host = (.ok answer, after) ↔
      (store.perform host call).outcome = .ok answer.2 ∧
        answer.1 = (store.perform host call).store ∧
          after = (store.perform host call).host := by
  rw [run_perform, bind_eq_ok_iff]
  simp only [ofAttempt_eq_ok_iff]
  constructor
  · rintro ⟨found, _, ⟨replied, rfl⟩, ends⟩
    cases ends
    exact ⟨replied, rfl, rfl⟩
  · obtain ⟨target, found⟩ := answer
    rintro ⟨replied, rfl, rfl⟩
    exact ⟨found, _, ⟨replied, rfl⟩, rfl⟩

/-- A call that fails leaves its host behind. -/
theorem of_perform_eq_error {call : Call}
    (fails : (perform describe store call).run host = (.error failure, after)) :
    (∃ problem, (store.perform host call).outcome = .error problem) ∧
      after = (store.perform host call).host := by
  rw [run_perform, bind_eq_error_iff] at fails
  rcases fails with fails | ⟨_, _, _, fails⟩
  · obtain ⟨⟨problem, failed, _⟩, same⟩ := ofAttempt_eq_error_iff.mp fails
    exact ⟨⟨problem, failed⟩, same⟩
  · cases fails

/-- So it does when they cannot be shown. -/
theorem of_accounts_eq_error
    (fails : (accounts store).run host = (.error failure, after)) :
    (∃ problem, store.accounts host = .error problem) ∧ after = host := by
  obtain ⟨⟨problem, failed, _⟩, same⟩ := ofAttempt_eq_error_iff.mp fails
  exact ⟨⟨problem, failed⟩, same⟩

end Steps

end Task

/-! ## Conversions -/

namespace Setting

variable {setting : Setting} {host after : Host} {engine target : Engine}

/-- The engine in use is the configured one, or else that of the folder. -/
def engineIn (setting : Setting) (files : Files) : Option Engine :=
  setting.store.engine <|> Store.detect? files setting.store.dataDir

/-- The engine is the one that is asked for, or else the one whose file is there. -/
theorem run_sourceEngine (used : setting.engineIn host.files = some engine) :
    setting.sourceEngine.run host = (.ok engine, host) := by
  rw [engineIn] at used
  rw [sourceEngine]
  cases configured : setting.store.engine with
  | some other =>
      rw [configured] at used
      cases used
      rfl
  | none =>
      rw [configured] at used
      have found : Store.detect? host.files setting.store.dataDir = some engine := used
      rw [Task.run_bind, Task.run_get]
      dsimp only
      rw [found]
      rfl

/-- The steps of a conversion after its source was opened. -/
def fillAndClose (setting : Setting) (source : Store) (engine target : Engine) :
    Task String := do
  let filled ← Task.openStore .ofProblem (fillFrom source setting.store.dataDir target)
  let (closed, _) ← Task.perform .ofProblem filled .close
  let accounts ← Task.accounts closed
  Task.tell (.converted accounts.length engine target)
  pure (converted accounts.length target)

/-- A conversion opens the other engine and fills the target from it. -/
theorem run_convert
    (used : setting.engineIn host.files = some engine)
    (apart : engine ≠ target) :
    (setting.convert target).run host =
      (Task.openStore .ofProblem (fun host =>
          Store.openWith host setting.store.dataDir (otherEngine target)) >>= fun source =>
        setting.fillAndClose source engine target).run host := by
  rw [convert]
  dsimp only
  rw [Task.run_bind, run_sourceEngine used]
  dsimp only
  rw [if_neg apart]
  rfl

/-- A conversion fails at the first of its steps that does. -/
theorem convert_of_error
    {failure : Failure}
    (used : setting.engineIn host.files = some engine)
    (fails : (setting.convert target).run host = (.error failure, after)) :
    engine = target ∧ after = host ∨
      engine ≠ target ∧
        ((∃ problem, (Store.openWith host setting.store.dataDir (otherEngine target)).store =
            .error problem) ∧
          after = (Store.openWith host setting.store.dataDir (otherEngine target)).host ∨
        ∃ source middle,
          (Store.openWith host setting.store.dataDir (otherEngine target)).store = .ok source ∧
          middle = (Store.openWith host setting.store.dataDir (otherEngine target)).host ∧
          ((∃ problem, (fillFrom source setting.store.dataDir target middle).store =
              .error problem) ∧
            after = (fillFrom source setting.store.dataDir target middle).host ∨
          ∃ filled, (fillFrom source setting.store.dataDir target middle).store = .ok filled ∧
            let closing := filled.perform
              (fillFrom source setting.store.dataDir target middle).host .close
            after = closing.host ∧
              ((∃ problem, closing.outcome = .error problem) ∨
                ∃ problem, closing.store.accounts closing.host = .error problem))) := by
  by_cases same : engine = target
  · left
    rw [convert] at fails
    dsimp only at fails
    rw [Task.run_bind, run_sourceEngine used] at fails
    dsimp only at fails
    rw [if_pos same] at fails
    cases fails
    exact ⟨same, rfl⟩
  · right
    rw [run_convert used same] at fails
    refine ⟨same, ?_⟩
    rcases Task.bind_eq_error_iff.mp fails with opening | ⟨source, middle, opened, filling⟩
    · exact .inl (Task.of_openStore_eq_error opening)
    · obtain ⟨opens, rfl⟩ := Task.openStore_eq_ok_iff.mp opened
      refine .inr ⟨source, _, opens, rfl, ?_⟩
      rcases Task.bind_eq_error_iff.mp filling with fill | ⟨filled, next, fills, closing⟩
      · exact .inl (Task.of_openStore_eq_error fill)
      · obtain ⟨found, rfl⟩ := Task.openStore_eq_ok_iff.mp fills
        refine .inr ⟨filled, found, ?_⟩
        rcases Task.bind_eq_error_iff.mp closing with close | ⟨answer, last, closes, reading⟩
        · obtain ⟨problem, rfl⟩ := Task.of_perform_eq_error close
          exact ⟨rfl, .inl problem⟩
        · obtain ⟨_, isStore, rfl⟩ := Task.perform_eq_ok_iff.mp closes
          rcases Task.bind_eq_error_iff.mp reading with read | ⟨accounts, _, _, ending⟩
          · obtain ⟨problem, rfl⟩ := Task.of_accounts_eq_error read
            rw [isStore] at problem
            exact ⟨rfl, .inr problem⟩
          · rw [Task.run_bind, Task.run_tell] at ending
            cases ending

/-- A conversion whose source was opened fails at one of the later steps. -/
theorem convert_of_error_opened
    {source : Store}
    {failure : Failure}
    (fails : (setting.convert target).run host = (.error failure, after))
    (used : setting.engineIn host.files = some (otherEngine target))
    (opens : (Store.openWith host setting.store.dataDir (otherEngine target)).store = .ok source) :
    let filling := fillFrom source setting.store.dataDir target
      (Store.openWith host setting.store.dataDir (otherEngine target)).host
    (∃ problem, filling.store = .error problem) ∧ after = filling.host ∨
      ∃ filled, filling.store = .ok filled ∧
        let closing := filled.perform filling.host .close
        after = closing.host ∧
          ((∃ problem, closing.outcome = .error problem) ∨
            ∃ problem, closing.store.accounts closing.host = .error problem) := by
  rcases convert_of_error used fails with ⟨same, _⟩ | ⟨_, ⟨⟨_, refused⟩, _⟩ |
    ⟨other, _, otherOpens, rfl, filling⟩⟩
  · cases target <;> cases same
  · cases opens.symm.trans refused
  · obtain rfl := Except.ok.inj (opens.symm.trans otherOpens)
    exact filling

end Setting

end TenantStore.CommandLine
