import Microbench.Relay.Pool

/-!
# Relays that are stopped

Whatever happens on a pool, a relay that has ended keeps its outcome: `Keeps` relates a pool to what
became of it. A stop therefore tells what is the case when it is over (`copied_stop`), and so does a
stop of several relays (`getElem_stopEach`). A pool is replaced exactly when a stop tells of no bytes
(`pool_stopAll`).
-/

namespace Microbench.RelayPool

variable {ρ : Type} {l : Link ρ} {p q r : RelayPool ρ} {t : RelayTask ρ} {place : Nat}

/-! ## What became of a pool -/

/-- The pool `q` is what became of `p` without a replacement: tasks are added behind, and a task that
has ended stays as it is. -/
structure Keeps (p q : RelayPool ρ) : Prop where
  threads : q.threads = p.threads
  replaced : q.replaced = p.replaced
  length_le : p.tasks.length ≤ q.tasks.length
  outcome {place : Nat} {outcome : Nat × PumpEnd} :
    p.outcome? place = some outcome → q.outcome? place = some outcome

namespace Keeps

theorem refl (p : RelayPool ρ) : Keeps p p := ⟨rfl, rfl, Nat.le_refl _, id⟩

theorem trans (first : Keeps p q) (second : Keeps q r) : Keeps p r where
  threads := second.threads.trans first.threads
  replaced := second.replaced.trans first.replaced
  length_le := Nat.le_trans first.length_le second.length_le
  outcome ended := second.outcome (first.outcome ended)

/-- A change of one task that leaves outcomes as they are. -/
theorem modify {f : RelayTask ρ → RelayTask ρ}
    (same : ∀ t outcome, t.pump.outcome? = some outcome → (f t).pump.outcome? = some outcome) :
    Keeps p { p with tasks := p.tasks.modify place f } where
  threads := rfl
  replaced := rfl
  length_le := by simp
  outcome {at_ outcome} ended := by
    unfold outcome? at ended ⊢
    obtain ⟨t, found, ended⟩ := Option.bind_eq_some_iff.mp ended
    rw [List.getElem?_modify, found]
    by_cases here : place = at_
    · simpa [here] using same t outcome ended
    · simpa [here] using ended

end Keeps

theorem length_move (m : Nat) : (p.move l m).tasks.length = p.tasks.length := by
  unfold move
  split <;> simp

theorem keeps_move (m : Nat) : Keeps p (p.move l m) := by
  unfold move
  split
  · refine .modify fun t outcome ended => ?_
    unfold Pump.outcome? at ended
    split at ended
    case h_1 how phase => rwa [Pump.turn_ended l _ t.pump phase, Pump.outcome?, phase]
    case h_2 => cases ended
  · exact .refl p

theorem moves_cons (m : Nat) (ms : Moves) : p.moves l (m :: ms) = (p.move l m).moves l ms := rfl

theorem length_moves (ms : Moves) : (p.moves l ms).tasks.length = p.tasks.length := by
  induction ms generalizing p with
  | nil => rfl
  | cons m ms ih => rw [moves_cons, ih, length_move]

theorem keeps_moves (ms : Moves) : Keeps p (p.moves l ms) := by
  induction ms generalizing p with
  | nil => exact .refl p
  | cons m ms ih => exact (keeps_move m).trans ih

theorem length_ask : (p.ask place).tasks.length = p.tasks.length := by simp [ask]

theorem keeps_ask : Keeps p (p.ask place) := .modify fun _ _ ended => ended

theorem keeps_start (name : String) (link : ρ) : Keeps p (p.start name link).2 where
  threads := rfl
  replaced := rfl
  length_le := by simp [start]
  outcome {at_ outcome} ended := by
    unfold outcome? at ended ⊢
    obtain ⟨t, found, ended⟩ := Option.bind_eq_some_iff.mp ended
    simp only [start]
    rw [List.getElem?_append_left (List.getElem?_eq_some_iff.mp found).1, found]
    exact ended

/-! ## A stop -/

/-- A wait tells how the relay has ended when it is over. -/
theorem fst_wait (ms : Moves) : (p.wait l place ms).1 = (p.wait l place ms).2.outcome? place := by
  induction ms generalizing p with
  | nil =>
    unfold wait
    cases ended : p.outcome? place <;> simp [ended]
  | cons m ms ih =>
    unfold wait
    cases ended : p.outcome? place with
    | some outcome => simp [ended]
    | none => exact ih

theorem length_wait (ms : Moves) : (p.wait l place ms).2.tasks.length = p.tasks.length := by
  induction ms generalizing p with
  | nil =>
    unfold wait
    cases p.outcome? place <;> rfl
  | cons m ms ih =>
    unfold wait
    cases p.outcome? place with
    | some outcome => rfl
    | none => exact ih.trans (length_move m)

theorem keeps_wait (ms : Moves) : Keeps p (p.wait l place ms).2 := by
  induction ms generalizing p with
  | nil =>
    unfold wait
    cases p.outcome? place <;> exact .refl p
  | cons m ms ih =>
    unfold wait
    cases p.outcome? place with
    | some outcome => exact .refl p
    | none => exact (keeps_move m).trans ih

variable {patience : Patience}

/-- The pool after the first wait of a stop. -/
def graced (l : Link ρ) (place : Nat) (patience : Patience) (p : RelayPool ρ) : RelayPool ρ :=
  ((p.moves l patience.before).wait l place patience.grace).2

/-- The pool when a relay that did not end by itself has been asked to stop. -/
def asked (l : Link ρ) (place : Nat) (patience : Patience) (p : RelayPool ρ) : RelayPool ρ :=
  ((p.graced l place patience).moves l patience.lapse).ask place

/-- A stop is over with the first wait if the relay has ended then, and with the second one
otherwise. -/
theorem stop_cases (l : Link ρ) (place : Nat) (patience : Patience) (p : RelayPool ρ) :
    (((p.graced l place patience).outcome? place).isSome ∧
      (p.stop l place patience).1 = ((p.graced l place patience).outcome? place).map (·.1) ∧
      (p.stop l place patience).2.2 = p.graced l place patience) ∨
    ((p.graced l place patience).outcome? place = none ∧
      (p.stop l place patience).1 =
        (((p.asked l place patience).wait l place patience.acknowledgement).1).map (·.1) ∧
      (p.stop l place patience).2.2 =
        ((p.asked l place patience).wait l place patience.acknowledgement).2) := by
  have first : ((p.moves l patience.before).wait l place patience.grace).1 = _ := fst_wait _
  unfold stop asked graced
  rcases waited : (p.moves l patience.before).wait l place patience.grace with ⟨answer, q⟩
  rw [waited] at first
  cases answer with
  | some outcome =>
    have ended : q.outcome? place = some outcome := first.symm
    exact .inl (by simp [ended])
  | none =>
    have busy : q.outcome? place = none := first.symm
    refine .inr ⟨busy, ?_⟩
    simp only
    rcases ((q.moves l patience.lapse).ask place).wait l place patience.acknowledgement with
      ⟨answer, r⟩
    cases answer <;> exact ⟨rfl, rfl⟩

/-- A stop tells of the bytes of the relay if it has ended when the stop is over, and of none if it
has not. -/
theorem copied_stop :
    (p.stop l place patience).1 = ((p.stop l place patience).2.2.outcome? place).map (·.1) := by
  rcases stop_cases l place patience p with
    ⟨-, copied, pool⟩ | ⟨-, copied, pool⟩
  · rw [copied, pool]
  · rw [copied, pool, fst_wait]

theorem length_stop : (p.stop l place patience).2.2.tasks.length = p.tasks.length := by
  have first : (p.graced l place patience).tasks.length = p.tasks.length :=
    (length_wait _).trans (length_moves _)
  rcases stop_cases l place patience p with
    ⟨-, -, pool⟩ | ⟨-, -, pool⟩
  · rw [pool, first]
  · rw [pool]
    exact (length_wait _).trans (length_ask.trans ((length_moves _).trans first))

theorem keeps_stop : Keeps p (p.stop l place patience).2.2 := by
  have first : Keeps p (p.graced l place patience) := (keeps_moves _).trans (keeps_wait _)
  rcases stop_cases l place patience p with
    ⟨-, -, pool⟩ | ⟨-, -, pool⟩
  · exact pool ▸ first
  · exact pool ▸ ((first.trans (keeps_moves _)).trans keeps_ask).trans (keeps_wait _)

/-! ## Stops in order -/

section StopEach

variable {relays : List (Nat × Patience)}

theorem length_copied_stopEach : (stopEach l relays p).1.length = relays.length := by
  induction relays generalizing p with
  | nil => rfl
  | cons relay rest ih => exact congrArg Nat.succ ih

theorem length_stopEach : (stopEach l relays p).2.2.tasks.length = p.tasks.length := by
  induction relays generalizing p with
  | nil => rfl
  | cons relay rest ih => exact ih.trans length_stop

theorem keeps_stopEach : Keeps p (stopEach l relays p).2.2 := by
  induction relays generalizing p with
  | nil => exact .refl p
  | cons relay rest ih => exact keeps_stop.trans ih

/-- The pool when the first `i` relays have been stopped. -/
def stoppedBefore (l : Link ρ) (relays : List (Nat × Patience)) (p : RelayPool ρ) (i : Nat) :
    RelayPool ρ :=
  (stopEach l (relays.take i) p).2.2

/-- The stop of a relay among others starts from the pool that the earlier ones left. -/
theorem getElem?_stopEach (i : Nat) :
    (stopEach l relays p).1[i]? =
      relays[i]?.map fun relay => ((stoppedBefore l relays p i).stop l relay.1 relay.2).1 := by
  induction relays generalizing p i with
  | nil => rfl
  | cons relay rest ih =>
    cases i with
    | zero => rfl
    | succ i => exact ih i

/-- If a stop tells of bytes, its relay has ended for good. -/
theorem outcome?_stopEach_of_some (relay : (place, patience) ∈ relays)
    (all : ∀ told ∈ (stopEach l relays p).1, told.isSome) :
    ((stopEach l relays p).2.2.outcome? place).isSome := by
  induction relays generalizing p with
  | nil => cases relay
  | cons first rest ih =>
    rcases List.mem_cons.mp relay with rfl | later
    · have told : ((p.stop l place patience).1).isSome := all _ List.mem_cons_self
      rw [copied_stop, Option.isSome_map] at told
      obtain ⟨outcome, ended⟩ := Option.isSome_iff_exists.mp told
      have kept : Keeps (p.stop l place patience).2.2 (stopEach l rest _).2.2 := keeps_stopEach
      exact Option.isSome_iff_exists.mpr ⟨outcome, kept.outcome ended⟩
    · exact ih later fun told later => all told (List.mem_cons_of_mem _ later)

end StopEach

/-! ## Replacement -/

section StopAll

variable {relays : List (Nat × Patience)} {refusal : Option String}

theorem copied_stopAll : (stopAll l refusal relays p).copied = (stopEach l relays p).1 := by
  unfold stopAll
  simp only
  split <;> rfl

theorem tasks_stopAll :
    (stopAll l refusal relays p).tasks = (stopEach l relays p).2.2.tasks := by
  unfold stopAll
  simp only
  split <;> rfl

/-- The pool is replaced if a stop told of no bytes and another pool can be had, and is left as the
stops left it otherwise. -/
theorem pool_stopAll :
    (stopAll l refusal relays p).pool =
      if none ∈ (stopAll l refusal relays p).copied ∧ refusal = none then
        { p with tasks := [], replaced := p.replaced + 1 }
      else (stopEach l relays p).2.2 := by
  have kept : Keeps p (stopEach l relays p).2.2 := keeps_stopEach
  have stuck : (stopEach l relays p).1.any Option.isNone = true ↔
      none ∈ (stopEach l relays p).1 := by simp
  rw [copied_stopAll]
  unfold stopAll
  by_cases told : none ∈ (stopEach l relays p).1
  · cases refusal with
    | none =>
      simp only [stuck.mpr told, told, replace, if_true, and_true]
      rw [kept.threads, kept.replaced]
    | some reason => simp [stuck.mpr told, replace]
  · simp [mt stuck.mp told, told]

end StopAll

end Microbench.RelayPool
