import Mathlib.Data.List.Basic
import Microbench.Proofs.Relay.Stopping
import Microbench.Relay.Shift

/-!
# Pools between suites

After each suite all tasks of the pool have ended (`Idle`): a suite whose relays did not all end leaves
a new pool behind. `idle_serve` is the step from one suite to the next, `idle_serveAll` the run over
any number of them, and `relays_find_free_pool` says what the relays of the next suite find.
-/

namespace Microbench.RelayPool

variable {ρ : Type} {l : Link ρ} {p : RelayPool ρ} {place : Nat}

/-! ## Tasks at work -/

/-- The places of the tasks at work, with a thread or waiting for one. -/
def atWork (p : RelayPool ρ) : List Nat := atWorkFrom 0 p.tasks

theorem running_eq : p.running = p.atWork.take p.threads := rfl

theorem mem_atWorkFrom {tasks : List (RelayTask ρ)} {n : Nat} :
    place ∈ atWorkFrom n tasks ↔ ∃ i t, tasks[i]? = some t ∧ t.isAtWork ∧ place = n + i := by
  induction tasks generalizing n with
  | nil => simp [atWorkFrom]
  | cons t rest ih =>
    have first : (∃ i u, (t :: rest)[i]? = some u ∧ u.isAtWork ∧ place = n + i) ↔
        t.isAtWork ∧ place = n ∨ ∃ i u, rest[i]? = some u ∧ u.isAtWork ∧ place = n + 1 + i := by
      constructor
      · rintro ⟨_ | i, u, found, busy, rfl⟩
        · cases found
          exact .inl ⟨busy, rfl⟩
        · exact .inr ⟨i, u, found, busy, by omega⟩
      · rintro (⟨busy, rfl⟩ | ⟨i, u, found, busy, rfl⟩)
        · exact ⟨0, t, rfl, busy, rfl⟩
        · exact ⟨i + 1, u, found, busy, by omega⟩
    rw [first, ← ih]
    cases busy : t.isAtWork <;> simp [atWorkFrom, busy]

/-- A task is at work if it is there and has not ended. -/
theorem mem_atWork : place ∈ p.atWork ↔ place < p.tasks.length ∧ p.outcome? place = none := by
  rw [atWork, mem_atWorkFrom]
  unfold outcome?
  constructor
  · rintro ⟨i, t, found, busy, rfl⟩
    rw [Nat.zero_add, found]
    exact ⟨(List.getElem?_eq_some_iff.mp found).1, Option.isNone_iff_eq_none.mp busy⟩
  · rintro ⟨there, busy⟩
    rw [List.getElem?_eq_getElem there] at busy
    exact ⟨place, _, List.getElem?_eq_getElem there, Option.isNone_iff_eq_none.mpr busy,
      (Nat.zero_add _).symm⟩

theorem length_atWorkFrom (n : Nat) (tasks : List (RelayTask ρ)) :
    (atWorkFrom n tasks).length = tasks.countP RelayTask.isAtWork := by
  induction tasks generalizing n with
  | nil => rfl
  | cons t rest ih =>
    unfold atWorkFrom
    rw [List.countP_cons]
    split <;> simp [*]

/-- All tasks have ended. -/
def Idle (p : RelayPool ρ) : Prop := ∀ place < p.tasks.length, (p.outcome? place).isSome

theorem Idle.atWork_eq (idle : p.Idle) : p.atWork = [] :=
  List.eq_nil_iff_forall_not_mem.mpr fun place busy => by
    obtain ⟨there, busy⟩ := mem_atWork.mp busy
    simpa [busy] using idle place there

/-- What is at work on a pool that was idle was started since. -/
theorem Idle.le_of_mem_atWork {q : RelayPool ρ} (idle : p.Idle) (kept : Keeps p q)
    (busy : place ∈ q.atWork) : p.tasks.length ≤ place := by
  by_contra earlier
  obtain ⟨outcome, ended⟩ := Option.isSome_iff_exists.mp (idle place (Nat.lt_of_not_le earlier))
  have busy := (mem_atWork.mp busy).2
  rw [kept.outcome ended] at busy
  cases busy

/-- At most as many tasks are at work on a pool that was idle as were started since. -/
theorem Idle.length_atWork_le {q : RelayPool ρ} (idle : p.Idle) (kept : Keeps p q) :
    q.atWork.length ≤ q.tasks.length - p.tasks.length := by
  have earlier : (q.tasks.take p.tasks.length).countP RelayTask.isAtWork = 0 := by
    rw [List.countP_eq_zero]
    intro t member
    obtain ⟨place, there, rfl⟩ := List.mem_iff_getElem.mp member
    have earlier : place < p.tasks.length :=
      Nat.lt_of_lt_of_le there (List.length_take_le _ _)
    have later : place < q.tasks.length := Nat.lt_of_lt_of_le earlier kept.length_le
    obtain ⟨outcome, ended⟩ := Option.isSome_iff_exists.mp (idle place earlier)
    have ended := kept.outcome ended
    rw [outcome?, List.getElem?_eq_getElem later] at ended
    have ended : q.tasks[place].pump.outcome? = some outcome := ended
    rw [List.getElem_take, RelayTask.isAtWork, ended]
    simp
  rw [atWork, length_atWorkFrom, ← List.take_append_drop p.tasks.length q.tasks,
    List.countP_append, earlier, Nat.zero_add, List.take_append_drop, ← List.length_drop]
  exact List.countP_le_length

/-! ## Relays of one suite -/

section StartEach

variable {relays : List (Relayed ρ)}

theorem length_startEach :
    (startEach l relays p).2.tasks.length = p.tasks.length + relays.length := by
  induction relays generalizing p with
  | nil => rfl
  | cons relay rest ih =>
    refine ih.trans ?_
    simp only [length_moves, List.length_append, List.length_cons, List.length_nil]
    omega

theorem keeps_startEach : Keeps p (startEach l relays p).2 := by
  induction relays generalizing p with
  | nil => exact .refl p
  | cons relay rest ih => exact ((keeps_moves _).trans (keeps_start _ _)).trans ih

/-- Every task that was started is found at one of the places returned. -/
theorem exists_mem_startEach (from_ : p.tasks.length ≤ place)
    (below : place < (startEach l relays p).2.tasks.length) :
    ∃ patience, (place, patience) ∈ (startEach l relays p).1 := by
  induction relays generalizing p with
  | nil => exact absurd below (Nat.not_lt.mpr from_)
  | cons relay rest ih =>
    rcases Nat.eq_or_lt_of_le from_ with here | later
    · refine ⟨relay.patience, ?_⟩
      simp [startEach, start, length_moves, here]
    · have from_ :
          ((p.moves l relay.before).start relay.name relay.link).2.tasks.length ≤ place := by
        simpa [start, length_moves] using Nat.succ_le_of_lt later
      obtain ⟨patience, found⟩ := ih from_ below
      exact ⟨patience, List.mem_cons_of_mem _ found⟩

end StartEach

variable {shift : Shift ρ}

/-- A suite that can have another pool leaves an idle pool of as many threads, another one exactly
if not all of its relays ended. -/
theorem idle_serve (idle : p.Idle) (replaceable : shift.refusal = none) :
    (serve l shift p).pool.Idle ∧ (serve l shift p).pool.threads = p.threads ∧
      (serve l shift p).pool.replaced =
        p.replaced + if none ∈ (serve l shift p).copied then 1 else 0 := by
  have started : Keeps p (startEach l shift.relays p).2 := keeps_startEach
  have stopped : Keeps p (stopEach l (startEach l shift.relays p).1 _).2.2 :=
    started.trans keeps_stopEach
  unfold serve
  rw [pool_stopAll]
  by_cases stuck : none ∈ (stopAll l shift.refusal (startEach l shift.relays p).1
    (startEach l shift.relays p).2).copied
  · rw [if_pos ⟨stuck, replaceable⟩, if_pos stuck]
    exact ⟨fun _ there => absurd there (Nat.not_lt_zero _), started.threads,
      congrArg (· + 1) started.replaced⟩
  · rw [if_neg fun both => stuck both.1, if_neg stuck]
    refine ⟨fun place there => ?_, stopped.threads, stopped.replaced⟩
    by_cases earlier : place < p.tasks.length
    · obtain ⟨outcome, ended⟩ := Option.isSome_iff_exists.mp (idle place earlier)
      exact Option.isSome_iff_exists.mpr ⟨outcome, stopped.outcome ended⟩
    · rw [length_stopEach] at there
      obtain ⟨patience, relay⟩ := exists_mem_startEach (Nat.le_of_not_lt earlier) there
      refine outcome?_stopEach_of_some relay fun told member => ?_
      rw [copied_stopAll] at stuck
      cases told with
      | none => exact absurd member stuck
      | some copied => rfl

/-! ## Suites in turn -/

/-- Suites in turn leave an idle pool of as many threads, and it has been replaced once for each of
them whose relays did not all end. -/
theorem idle_serveAll {shifts : List (Shift ρ)} (idle : p.Idle)
    (replaceable : ∀ shift ∈ shifts, shift.refusal = none) :
    (serveAll l shifts p).2.Idle ∧ (serveAll l shifts p).2.threads = p.threads ∧
      (serveAll l shifts p).2.replaced =
        p.replaced + (serveAll l shifts p).1.countP (none ∈ ·.copied) := by
  induction shifts generalizing p with
  | nil => exact ⟨idle, rfl, rfl⟩
  | cons shift rest ih =>
    obtain ⟨idle, threads, replaced⟩ := idle_serve idle (replaceable shift List.mem_cons_self)
    obtain ⟨idle', threads', replaced'⟩ :=
      ih idle fun shift member => replaceable shift (List.mem_cons_of_mem _ member)
    refine ⟨idle', threads'.trans threads, ?_⟩
    refine replaced'.trans ?_
    rw [replaced, serveAll, List.countP_cons]
    simp only [decide_eq_true_eq]
    omega

theorem atWorkFrom_append (n : Nat) (tasks more : List (RelayTask ρ)) :
    atWorkFrom n (tasks ++ more) = atWorkFrom n tasks ++ atWorkFrom (n + tasks.length) more := by
  induction tasks generalizing n with
  | nil => rfl
  | cons t rest ih =>
    have next : n + (rest.length + 1) = n + 1 + rest.length := by omega
    cases busy : t.isAtWork <;> simp [atWorkFrom, busy, ih, next]

theorem atWork_start (name : String) (link : ρ) :
    (p.start name link).2.atWork = p.atWork ++ [p.tasks.length] := by
  unfold atWork start
  simp only
  rw [atWorkFrom_append, Nat.zero_add]
  rfl

/-- A relay that is started while a thread is free has one at once. -/
theorem mem_running_start (name : String) (link : ρ) (free : p.atWork.length < p.threads) :
    (p.start name link).1 ∈ (p.start name link).2.running := by
  have all : (p.start name link).2.atWork.take p.threads = (p.start name link).2.atWork :=
    List.take_of_length_le (by rw [atWork_start, List.length_append]; exact free)
  have same : (p.start name link).2.running = p.atWork ++ [p.tasks.length] :=
    all.trans (atWork_start name link)
  rw [same]
  exact List.mem_append_right _ (List.mem_singleton_self _)

/-- The pool when some relays of a suite have been started and some steps were taken since. -/
def starting (l : Link ρ) (next : Shift ρ) (started : Nat) (ms : Moves) (p : RelayPool ρ) :
    RelayPool ρ :=
  (startEach l (next.relays.take started) p).2.moves l ms

theorem keeps_starting (next : Shift ρ) (started : Nat) (ms : Moves) :
    Keeps p (starting l next started ms p) :=
  keeps_startEach.trans (keeps_moves ms)

/-- On a pool that was idle at most as many tasks are at work as were started. -/
theorem Idle.length_atWork_starting_le (idle : p.Idle) (next : Shift ρ) (started : Nat)
    (ms : Moves) : (starting l next started ms p).atWork.length ≤ started := by
  have busy := idle.length_atWork_le (keeps_starting (l := l) next started ms)
  rw [starting, length_moves, length_startEach, List.length_take, ← starting] at busy
  omega

/-- What a stop of a relay tells, and when it tells nothing. -/
structure Told (l : Link ρ) (p : RelayPool ρ) (place : Nat) (patience : Patience) : Prop where
  some_iff (copied : Nat) : (p.stop l place patience).1 = some copied ↔
    ∃ how, (p.stop l place patience).2.2.outcome? place = some (copied, how)
  none_iff : (p.stop l place patience).1 = none ↔
    (p.stop l place patience).2.2.outcome? place = none
  waited : (p.stop l place patience).1 = none → (p.stop l place patience).2.2 =
    ((p.asked l place patience).wait l place patience.acknowledgement).2

/-- What stopping relays together gives, and what becomes of the pool. -/
structure Together (l : Link ρ) (refusal : Option String) (relays : List (Nat × Patience))
    (p : RelayPool ρ) : Prop where
  length_eq : (stopAll l refusal relays p).copied.length = relays.length
  entry (i : Nat) : (stopAll l refusal relays p).copied[i]? = relays[i]?.map fun relay =>
    ((stoppedBefore l relays p i).stop l relay.1 relay.2).1
  pool_eq : (stopAll l refusal relays p).pool =
    if none ∈ (stopAll l refusal relays p).copied ∧ refusal = none then
      { p with tasks := [], replaced := p.replaced + 1 }
    else { p with tasks := (stopAll l refusal relays p).tasks }

/-- What a suite finds on a pool of some threads on which other suites ran. -/
structure Found (l : Link ρ) (threads : Nat) (shifts : List (Shift ρ)) : Prop where
  replaced_eq : (serveAll l shifts { threads }).2.replaced =
    (serveAll l shifts { threads }).1.countP (none ∈ ·.copied)
  threads_eq : (serveAll l shifts { threads }).2.threads = threads
  /-- No task runs or waits, so that all threads are free. -/
  running_eq : (serveAll l shifts { threads }).2.running = [] ∧
    (serveAll l shifts { threads }).2.atWork = []
  /-- While the relays of a suite are started only they are at work, whatever steps they take, and
  as many of them as there are threads have one at once. -/
  own (next : Shift ρ) (started : Nat) (ms : Moves) :
    let q := starting l next started ms (serveAll l shifts { threads }).2
    (∀ place ∈ q.atWork, (serveAll l shifts { threads }).2.tasks.length ≤ place) ∧
      (started < threads → ∀ name link, (q.start name link).1 ∈ (q.start name link).2.running)

theorem told (l : Link ρ) (p : RelayPool ρ) (place : Nat) (patience : Patience) :
    Told l p place patience where
  some_iff copied := by
    rw [copied_stop, Option.map_eq_some_iff]
    exact ⟨fun ⟨⟨_, how⟩, ended, same⟩ => ⟨how, same ▸ ended⟩, fun ⟨how, ended⟩ => ⟨_, ended, rfl⟩⟩
  none_iff := by rw [copied_stop, Option.map_eq_none_iff]
  waited none := by
    rcases stop_cases l place patience p with ⟨ended, copied, -⟩ | ⟨-, -, pool⟩
    · rw [none] at copied
      rw [Option.map_eq_none_iff.mp copied.symm] at ended
      cases ended
    · exact pool

theorem together (l : Link ρ) (refusal : Option String) (relays : List (Nat × Patience))
    (p : RelayPool ρ) : Together l refusal relays p where
  length_eq := by rw [copied_stopAll, length_copied_stopEach]
  entry i := by rw [copied_stopAll, getElem?_stopEach]
  pool_eq := by
    have kept : Keeps p (stopEach l relays p).2.2 := keeps_stopEach
    rw [pool_stopAll, tasks_stopAll, ← kept.threads, ← kept.replaced]

theorem found (l : Link ρ) (threads : Nat) {shifts : List (Shift ρ)}
    (replaceable : ∀ shift ∈ shifts, shift.refusal = none) : Found l threads shifts := by
  have fresh : Idle ({ threads } : RelayPool ρ) := fun _ there => absurd there (Nat.not_lt_zero _)
  obtain ⟨idle, threads_eq, replaced_eq⟩ := idle_serveAll (l := l) fresh replaceable
  refine ⟨replaced_eq.trans (Nat.zero_add _), threads_eq, ?_, ?_⟩
  · rw [running_eq, idle.atWork_eq]
    exact ⟨List.take_nil, rfl⟩
  · intro next started ms
    have kept := keeps_starting (l := l) (p := (serveAll l shifts { threads }).2) next started ms
    refine ⟨fun place busy => idle.le_of_mem_atWork kept busy, fun free name link => ?_⟩
    refine mem_running_start name link ?_
    rw [kept.threads, threads_eq]
    exact Nat.lt_of_le_of_lt (idle.length_atWork_starting_le next started ms) free

/-- A stop tells of the bytes of a relay that has ended, and of none if it has not when the second
wait is over. Stopping relays together tells of each of them in order, and replaces the pool once if
one did not end. So the relays of a suite find all threads of the pool free, whatever suites ran
before it and whatever steps their relays took, as long as the pool could be replaced. -/
theorem relays_find_free_pool (l : Link ρ) :
    (∀ p place patience, Told l p place patience) ∧
      (∀ refusal relays p, Together l refusal relays p) ∧
      ∀ threads shifts, (∀ shift ∈ shifts, shift.refusal = none) → Found l threads shifts :=
  ⟨told l, together l, fun threads _ replaceable => found l threads replaceable⟩

/-- A source that never answers. -/
def silent : Link Unit where
  read _ s := (.held, s)
  write bs s := (.taken bs.length, s)
  flush s := (true, s)

/-- A suite with two relays that are stuck. -/
def stuck : Shift Unit where
  relays :=
    [{ name := "stdout", link := (), patience := { grace := [0, 1, 0, 1], acknowledgement := [0] } },
      { name := "stderr", link := (), patience := { grace := [1, 0], acknowledgement := [1] } }]

/-- After two suites with stuck relays the pool has been replaced twice and is free. -/
theorem relays_find_free_pool_stuck :
    (serveAll silent [stuck, stuck] { threads := 2 }).1.map (·.copied) =
        [[none, none], [none, none]] ∧
      (serveAll silent [stuck, stuck] { threads := 2 }).2.replaced = 2 ∧
      (serveAll silent [stuck, stuck] { threads := 2 }).2.running = [] := by
  have found := (relays_find_free_pool silent).2.2 2 [stuck, stuck] (by simp [stuck])
  exact ⟨by decide, found.replaced_eq.trans (by decide), found.running_eq.1⟩

end Microbench.RelayPool
