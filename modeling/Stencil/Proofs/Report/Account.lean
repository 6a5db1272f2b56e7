import Stencil.Proofs.Report.Basic

/-!
# Accounts

An account is what a report says apart from the output, before repetitions are left out.  Accounts
of successive parts of a rendering are put together field by field, and a run that goes through
yields its result together with the account of its events.
-/

namespace Stencil

/-- What a part of a rendering says about itself. -/
@[ext]
structure Account where
  /-- Paths that had a value. -/
  used : List Text := []
  /-- Variables and helpers that were missing. -/
  missing : List Text := []
  /-- What went wrong. -/
  problems : List Problem := []
  /-- What was passed over. -/
  notices : List Notice := []
  /-- How often things happened. -/
  counters : Counters := 0
deriving DecidableEq

namespace Account

instance : Append Account where
  append left right :=
    { used := left.used ++ right.used
      missing := left.missing ++ right.missing
      problems := left.problems ++ right.problems
      notices := left.notices ++ right.notices
      counters := left.counters + right.counters }

/-- The account of a list of events. -/
def ofEvents (events : List Event) : Account where
  used := events.filterMap Event.usedPath?
  missing := events.filterMap Event.missingPath?
  problems := events.filterMap Event.problem?
  notices := events.filterMap Event.notice?
  counters := Counters.ofEvents events

/-- Accounts put together in order. -/
def join (accounts : List Account) : Account := accounts.foldr (· ++ ·) {}

section Fields

variable (left right : Account)

@[simp] theorem used_append : (left ++ right).used = left.used ++ right.used := rfl

@[simp] theorem missing_append : (left ++ right).missing = left.missing ++ right.missing := rfl

@[simp] theorem problems_append : (left ++ right).problems = left.problems ++ right.problems := rfl

@[simp] theorem notices_append : (left ++ right).notices = left.notices ++ right.notices := rfl

@[simp] theorem counters_append : (left ++ right).counters = left.counters + right.counters := rfl

end Fields

@[simp] theorem append_empty (account : Account) : account ++ ({} : Account) = account := by
  ext1 <;> simp

@[simp] theorem empty_append (account : Account) : ({} : Account) ++ account = account := by
  ext1 <;> simp

@[simp] theorem ofEvents_nil : ofEvents [] = {} := rfl

@[simp] theorem ofEvents_append (left right : List Event) :
    ofEvents (left ++ right) = ofEvents left ++ ofEvents right := by
  ext1 <;> simp [ofEvents]

@[simp] theorem counters_join (accounts : List Account) :
    (join accounts).counters = (accounts.map counters).sum := by
  induction accounts with
  | nil => rfl
  | cons account accounts inductionHypothesis =>
    rw [List.map_cons, List.sum_cons, ← inductionHypothesis]
    rfl

theorem join_problems (problems : List Problem) :
    join (problems.map fun problem => { problems := [problem] }) = { problems := problems } := by
  induction problems with
  | nil => rfl
  | cons problem problems inductionHypothesis =>
    exact congrArg (({ problems := [problem] } : Account) ++ ·) inductionHypothesis

theorem join_notices (notice : α → Notice) (items : List α) :
    join (items.map fun item => { notices := [notice item] }) =
      { notices := items.map notice } := by
  induction items with
  | nil => rfl
  | cons item items inductionHypothesis =>
    exact congrArg (({ notices := [notice item] } : Account) ++ ·) inductionHypothesis

end Account

/-- A result together with the account of how it came about. -/
structure Accounted (α : Type) where
  /-- The result. -/
  result : α
  /-- The account. -/
  account : Account := {}
deriving DecidableEq

namespace Accounted

/-- A text followed by another. -/
instance : Append (Accounted Text) where
  append left right := ⟨left.result ++ right.result, left.account ++ right.account⟩

/-- Texts put together in order. -/
def join (texts : List (Accounted Text)) : Accounted Text :=
  ⟨(texts.map Accounted.result).flatten, Account.join (texts.map Accounted.account)⟩

theorem join_singleton (text : Accounted Text) : join [text] = text := by
  change Accounted.mk (text.result ++ []) (text.account ++ {}) = text
  rw [List.append_nil, Account.append_empty]

/-- The report on an output. -/
def report (rendering : Accounted Text) : Report where
  output := rendering.result
  used := firstOccurrences rendering.account.used
  missing := firstOccurrences rendering.account.missing
  errors := rendering.account.problems.map Problem.diagnostic
  warnings := rendering.account.notices.map Notice.diagnostic
  counters := rendering.account.counters
  failure? := none

end Accounted

namespace Run

/-- Whether a run goes through with a result and its events come to an account. -/
def Yields (run : Run α) (result : α) (account : Account) : Prop :=
  run.outcome = .ok result ∧ Account.ofEvents run.events = account

namespace Yields

theorem pure (result : α) : (Pure.pure result : Run α).Yields result {} := ⟨rfl, rfl⟩

theorem record (event : Event) : (Run.record event).Yields () (Account.ofEvents [event]) :=
  ⟨rfl, rfl⟩

variable
  {run : Run α}
  {result : α}
  {account : Account}
  (runYields : run.Yields result account)

include runYields

/-- The account of one run after the other is that of the first with that of the second. -/
theorem bind
    {next : α → Run β}
    {nextResult : β}
    {nextAccount : Account}
    (nextYields : (next result).Yields nextResult nextAccount) :
    (run >>= next).Yields nextResult (account ++ nextAccount) := by
  rw [bind_of_ok next runYields.1]
  refine ⟨nextYields.1, ?_⟩
  rw [Account.ofEvents_append, runYields.2, nextYields.2]

/-- The second run may ignore what the first one comes to. -/
theorem andThen
    {next : Run β}
    {nextResult : β}
    {nextAccount : Account}
    (nextYields : next.Yields nextResult nextAccount) :
    (run >>= fun _ => next).Yields nextResult (account ++ nextAccount) :=
  runYields.bind nextYields

/-- A result may be changed after a run. -/
theorem map (change : α → β) :
    (run >>= fun result => Pure.pure (change result)).Yields (change result) account := by
  rw [← Account.append_empty account]
  exact runYields.bind (pure (change result))

/-- Entering and leaving a body is no part of the account. -/
theorem within : (Run.within run).Yields result account := by
  refine ⟨runYields.1, ?_⟩
  change Account.ofEvents ([.entered] ++ run.events ++ [.left]) = account
  rw [Account.ofEvents_append, Account.ofEvents_append, runYields.2]
  change {} ++ account ++ {} = account
  rw [Account.append_empty, Account.empty_append]

omit runYields

theorem collect_cons
    {each : α → Run β}
    {item : α}
    {items : List α}
    {first : β}
    {results : List β}
    {firstAccount restAccount : Account}
    (firstYields : (each item).Yields first firstAccount)
    (restYields : (Run.collect each items).Yields results restAccount) :
    (Run.collect each (item :: items)).Yields (first :: results) (firstAccount ++ restAccount) := by
  rw [Run.collect]
  exact firstYields.bind (restYields.map fun results => first :: results)

/-- Runs for the items of a list, in turn, leave what all of them say. -/
theorem forAll
    {items : List α}
    {each : α → Run Unit}
    {said : α → Account}
    (yields : ∀ item ∈ items, (each item).Yields () (said item)) :
    (Run.forAll each items).Yields () (Account.join (items.map said)) := by
  induction items with
  | nil => exact pure ()
  | cons item items inductionHypothesis =>
    have later := inductionHypothesis fun other member =>
      yields other (List.mem_cons_of_mem item member)
    exact (yields item List.mem_cons_self).andThen later

/-- Runs for the items of a list yield the results of all items. -/
theorem collect
    {items : List α}
    {each : α → Run β}
    {eachYielded : α → Accounted β}
    (yields : ∀ item ∈ items,
      (each item).Yields (eachYielded item).result (eachYielded item).account) :
    (Run.collect each items).Yields
      ((items.map eachYielded).map Accounted.result)
      (Account.join ((items.map eachYielded).map Accounted.account)) := by
  induction items with
  | nil => exact pure []
  | cons item items inductionHypothesis =>
    have later := inductionHypothesis fun other member =>
      yields other (List.mem_cons_of_mem item member)
    exact (yields item List.mem_cons_self).collect_cons later

end Yields
end Run

/-- A run that goes through is reported by what it yields. -/
theorem Report.ofRun_of_yields
    (template : Text)
    {run : Run Text}
    {rendering : Accounted Text}
    (yields : run.Yields rendering.result rendering.account) :
    Report.ofRun template run = rendering.report := by
  rw [Report.ofRun, yields.1, Accounted.report, ← yields.2]
  rfl

end Stencil
