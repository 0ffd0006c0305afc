import Microbench.Proofs.Record.RoundTrip

/-!
# Writing to a sink that runs full

A sink may take a limited number of bytes in all, as many of each offer as it likes, and fail once it
is full (`Sink.Limited`). What is written behind it then either fits, or fills it: `Done` and `Kept`
say so of the bytes in front of a sink, `Stands` and `Full` of a record writer that goes on after rows
that could not be written.

* `rows_durable`: a row counts exactly if all text up to it fits, and then all of it is in the sink.
-/

namespace Microbench

variable {ω : Type}

/-- A sink that takes `limit` bytes in all, and refuses everything once it holds them. -/
structure Sink.Limited (sink : Sink ω) (Holds : ω → Bytes → Prop) (limit : Nat) : Prop where
  within {w : ω} {held : Bytes} : Holds w held → held.length ≤ limit
  takes {w : ω} {held bytes : Bytes} : Holds w held → held.length < limit → bytes ≠ [] →
    ∃ n w', (sink.accept bytes).run w = (.ok n, w') ∧ 0 < n ∧ Holds w' (held ++ bytes.take n)
  refuses {w : ω} {held bytes : Bytes} : Holds w held → held.length = limit → bytes ≠ [] →
    ∃ e w', (sink.accept bytes).run w = (.error e, w') ∧ Holds w' held

theorem Sink.run_bounded (limit : Nat) (w bytes : Bytes) :
    ((Sink.bounded limit).accept bytes).run w =
      if limit - w.length = 0 then (.error (.other "disk full"), w)
      else (.ok (min (limit - w.length) bytes.length), w ++ bytes.take (limit - w.length)) := by
  have got : (get : ExceptT IoFailure (StateM Bytes) Bytes).run w = (.ok w, w) := rfl
  unfold Sink.bounded
  dsimp only
  rw [run_bind_of_ok got]
  by_cases full : limit - w.length = 0
  · simp only [full, if_true]
    rfl
  · simp only [full, if_false]
    rfl

theorem Sink.limited_bounded (limit : Nat) :
    (Sink.bounded limit).Limited (fun w held => w = held ∧ held.length ≤ limit) limit where
  within holds := holds.2
  takes := by
    rintro w held bytes ⟨rfl, within⟩ less some
    have part : bytes.take (limit - w.length) =
        bytes.take (min (limit - w.length) bytes.length) := List.take_eq_take_min
    have length := List.length_pos_iff.mpr some
    refine ⟨_, _, (run_bounded limit w bytes).trans (if_neg (by omega)), by omega, by rw [part], ?_⟩
    rw [List.length_append, List.length_take]
    omega
  refuses := by
    rintro w held bytes ⟨rfl, within⟩ full -
    exact ⟨_, w, (run_bounded limit w bytes).trans (if_pos (by omega)), rfl, within⟩

/-! ## Bytes in front of a sink -/

namespace Buffered

/-- What comes of writing when `all` is what the sink held, what waited and what is written: the sink
has a part of it and the rest waits, or the sink is full. -/
def Kept (Holds : ω → Bytes → Prop) (limit : Nat) (all : Bytes) :
    Except IoFailure Unit × (Bytes × ω) → Prop
  | (.ok (), pending, w) => ∃ held, Holds w held ∧ held ++ pending = all
  | (.error _, _, w) => limit < all.length ∧ Holds w (all.take limit)

/-- What comes of handing on all of it: the sink has it and nothing waits, or the sink is full. -/
def Done (Holds : ω → Bytes → Prop) (limit : Nat) (all : Bytes) :
    Except IoFailure Unit × (Bytes × ω) → Prop
  | (.ok (), pending, w) => pending = [] ∧ Holds w all
  | (.error _, _, w) => limit < all.length ∧ Holds w (all.take limit)

variable {sink : Sink ω} {Holds : ω → Bytes → Prop} {limit : Nat} {held pending all more : Bytes}
  {w : ω}

theorem Done.kept {r : Except IoFailure Unit × (Bytes × ω)} (done : Done Holds limit all r) :
    Kept Holds limit all r := by
  rcases r with ⟨answer | _, pending, w⟩
  · exact done
  · obtain ⟨rfl, holds⟩ := done
    exact ⟨all, holds, List.append_nil all⟩

/-- What could not be written before fills the sink just as well as what comes after it. -/
theorem take_append_of_lt (more : Bytes) (exceeds : limit < all.length) :
    limit < (all ++ more).length ∧ (all ++ more).take limit = all.take limit := by
  refine ⟨?_, List.take_append_of_le_length (Nat.le_of_lt exceeds)⟩
  rw [List.length_append]
  omega

theorem Kept.bind {x y : Action ω Unit} {s : Bytes × ω} (first : Kept Holds limit all (x.run s))
    (second : ∀ pending w held, Holds w held → held ++ pending = all →
      Kept Holds limit (all ++ more) (y.run (pending, w))) :
    Kept Holds limit (all ++ more) ((x >>= fun _ => y).run s) := by
  rcases ran : x.run s with ⟨answer | _, pending, w⟩
  · rw [ran] at first
    rw [run_bind_of_error ran]
    obtain ⟨exceeds, same⟩ := take_append_of_lt more first.1
    exact ⟨exceeds, same.symm ▸ first.2⟩
  · rw [ran] at first
    rw [run_bind_of_ok ran]
    obtain ⟨held, holds, parts⟩ := first
    exact second pending w held holds parts

theorem run_offer_error {bytes : Bytes} {e : IoFailure} {w' : ω}
    (refused : (sink.accept bytes).run w = (.error e, w')) :
    (offer sink bytes).run (pending, w) = (.error e, (pending, w')) := by
  have step : (offer sink bytes).run (pending, w) =
    (((sink.accept bytes).run w).1, (pending, ((sink.accept bytes).run w).2)) := rfl
  rw [step, refused]

/-- An offer is refused by a full sink, and some bytes are taken by another. -/
theorem offered (limited : sink.Limited Holds limit) (holds : Holds w held) {bytes : Bytes}
    (some : bytes ≠ []) :
    (∃ n w', (offer sink bytes).run (pending, w) = (.ok n, (pending, w')) ∧ 0 < n ∧
      Holds w' (held ++ bytes.take n)) ∨
    ∃ e w', (offer sink bytes).run (pending, w) = (.error e, (pending, w')) ∧
      limit < (held ++ bytes).length ∧ Holds w' ((held ++ bytes).take limit) := by
  rcases Nat.lt_or_eq_of_le (limited.within holds) with less | full
  · obtain ⟨n, w', taken, positive, holds'⟩ := limited.takes holds less some
    exact .inl ⟨n, w', run_offer taken, positive, holds'⟩
  · obtain ⟨e, w', refused, holds'⟩ := limited.refuses holds full some
    have length := List.length_pos_iff.mpr some
    refine .inr ⟨e, w', run_offer_error refused, ?_, ?_⟩
    · rw [List.length_append]
      omega
    · rwa [← full, List.take_left]

/-- By induction on how much is left to be handed on. -/
theorem done_direct (limited : sink.Limited Holds limit) (bytes : Bytes) (holds : Holds w held) :
    Done Holds limit (held ++ bytes) ((direct sink bytes).run ([], w)) := by
  induction size : bytes.length using Nat.strongRecOn generalizing bytes w held with
  | ind length ih =>
    rw [direct]
    by_cases nothing : bytes.isEmpty = true
    · rw [dif_pos nothing, List.isEmpty_iff.mp nothing, List.append_nil]
      exact ⟨rfl, holds⟩
    · rw [dif_neg nothing]
      have some : bytes ≠ [] := fun none => nothing (List.isEmpty_iff.mpr none)
      rcases offered limited holds some with
        ⟨n, w', taken, positive, holds'⟩ | ⟨e, w', refused, exceeds, holds'⟩
      · rw [run_bind_of_ok taken, dif_neg (Nat.ne_of_gt positive)]
        have length := List.length_pos_iff.mpr some
        have rest := ih _ (by rw [List.length_drop]; omega) (bytes.drop n) holds' rfl
        rwa [List.append_assoc, List.take_append_drop] at rest
      · rw [run_bind_of_error refused]
        exact ⟨exceeds, holds'⟩

theorem done_drainFrom (limited : sink.Limited Holds limit) (bytes : Bytes)
    (holds : Holds w held) :
    Done Holds limit (held ++ bytes) ((drainFrom sink bytes).run (pending, w)) := by
  induction size : bytes.length using Nat.strongRecOn generalizing bytes pending w held with
  | ind length ih =>
    rw [drainFrom]
    by_cases nothing : bytes.isEmpty = true
    · rw [dif_pos nothing, List.isEmpty_iff.mp nothing, List.append_nil]
      exact ⟨rfl, holds⟩
    · rw [dif_neg nothing]
      have some : bytes ≠ [] := fun none => nothing (List.isEmpty_iff.mpr none)
      have waiting : (modify fun s => (bytes, s.2) : Action ω PUnit).run (pending, w) =
        (.ok (), (bytes, w)) := rfl
      rw [run_bind_of_ok waiting]
      rcases offered limited holds some with
        ⟨n, w', taken, positive, holds'⟩ | ⟨e, w', refused, exceeds, holds'⟩
      · rw [run_bind_of_ok taken, dif_neg (Nat.ne_of_gt positive)]
        have length := List.length_pos_iff.mpr some
        have rest : Done Holds limit (held ++ bytes.take n ++ bytes.drop n)
            ((drainFrom sink (bytes.drop n)).run (bytes, w')) :=
          ih _ (by rw [List.length_drop]; omega) (bytes.drop n) holds' rfl
        rwa [List.append_assoc, List.take_append_drop] at rest
      · rw [run_bind_of_error refused]
        exact ⟨exceeds, holds'⟩

theorem done_drain (limited : sink.Limited Holds limit) (holds : Holds w held) :
    Done Holds limit (held ++ pending) ((drain sink).run (pending, w)) :=
  done_drainFrom limited pending holds

/-- A piece waits or is handed on, behind all that came before. -/
theorem kept_put (limited : sink.Limited Holds limit) (piece : Bytes) (holds : Holds w held) :
    Kept Holds limit (held ++ pending ++ piece) ((put sink piece).run (pending, w)) := by
  have got : (get : Action ω (Bytes × ω)).run (pending, w) = (.ok (pending, w), (pending, w)) := rfl
  have waits : ∀ {p : Bytes} {v : ω} {h : Bytes}, Holds v h →
      Kept Holds limit (h ++ p ++ piece) ((hold piece : Action ω Unit).run (p, v)) :=
    fun {p v h} holds => ⟨h, holds, (List.append_assoc h p piece).symm⟩
  -- a piece that fills the buffer by itself goes past it, and nothing waits then
  have last : ∀ {v : ω} {h : Bytes}, Holds v h → Kept Holds limit (h ++ piece)
      ((if capacity ≤ piece.length then direct sink piece else hold piece : Action ω Unit).run
        ([], v)) := by
    intro v h holds
    split
    · exact (done_direct limited piece holds).kept
    · exact List.append_nil h ▸ waits (p := []) holds
  unfold put
  rw [run_bind_of_ok got]
  dsimp only
  by_cases fits : piece.length < capacity - pending.length
  · rw [if_pos fits]
    exact waits holds
  · rw [if_neg fits]
    by_cases wide : capacity - pending.length < piece.length
    · rw [if_pos wide]
      have drained : Done Holds limit (held ++ pending) ((drain sink).run (pending, w)) :=
        done_drain limited holds
      rcases ran : (drain sink).run (pending, w) with ⟨answer | _, pending', w'⟩
      · rw [ran] at drained
        rw [run_bind_of_error ran]
        obtain ⟨exceeds, same⟩ := take_append_of_lt piece drained.1
        exact ⟨exceeds, same.symm ▸ drained.2⟩
      · rw [ran] at drained
        obtain ⟨rfl, holds'⟩ := drained
        rw [run_bind_of_ok ran]
        exact last holds'
    · rw [if_neg wide]
      by_cases large : capacity ≤ piece.length
      · have empty : pending = [] := by
          have positive : 0 < capacity := by decide
          apply List.eq_nil_of_length_eq_zero
          omega
        subst empty
        rw [List.append_nil]
        exact last holds
      · rw [if_neg large]
        exact waits holds

theorem kept_forM_put (limited : sink.Limited Holds limit) (pieces : List Bytes)
    (holds : Holds w held) : Kept Holds limit (held ++ pending ++ pieces.flatten)
      ((pieces.forM (put sink)).run (pending, w)) := by
  induction pieces generalizing pending w held with
  | nil => exact ⟨held, holds, (List.append_nil _).symm⟩
  | cons piece pieces ih =>
    have step : (piece :: pieces).forM (put sink) =
      put sink piece >>= fun _ => pieces.forM (put sink) := rfl
    rw [step, List.flatten_cons, ← List.append_assoc]
    refine (kept_put limited piece holds).bind fun pending' w' held' holds' parts => ?_
    rw [← parts]
    exact ih holds'

/-- Pieces are handed on together, as far as the sink has room for them. -/
theorem done_putAll (limited : sink.Limited Holds limit) (pieces : List Bytes)
    (holds : Holds w held) : Done Holds limit (held ++ pending ++ pieces.flatten)
      ((putAll sink pieces).run (pending, w)) := by
  have put : Kept Holds limit (held ++ pending ++ pieces.flatten)
      ((pieces.forM (Buffered.put sink)).run (pending, w)) := kept_forM_put limited pieces holds
  unfold putAll
  rcases ran : (pieces.forM (Buffered.put sink)).run (pending, w) with ⟨answer | _, pending', w'⟩
  · rw [ran] at put
    rw [run_bind_of_error ran]
    exact put
  · rw [ran] at put
    obtain ⟨held', holds', parts⟩ := put
    rw [run_bind_of_ok ran, ← parts]
    exact done_drain limited holds'

end Buffered

/-! ## Rows -/

namespace RecordWriter

open Buffered RecordFile

/-- Attempts rows in order, going on after those that fail: what became of each, and what is left. -/
def attempt (sink : Sink ω) : List (List String) → RecordWriter × ω →
    List (Except IoFailure Unit) × RecordWriter × ω
  | [], s => ([], s)
  | cells :: rows, s =>
    let (answer, s) := (writeRow sink cells).run s
    let (answers, s) := attempt sink rows s
    (answer :: answers, s)

theorem attempt_concat (sink : Sink ω) (rows : List (List String)) (cells : List String)
    (s : RecordWriter × ω) : attempt sink (rows ++ [cells]) s =
      ((attempt sink rows s).1 ++ [((writeRow sink cells).run (attempt sink rows s).2).1],
        ((writeRow sink cells).run (attempt sink rows s).2).2) := by
  induction rows generalizing s with
  | nil => rfl
  | cons first rows ih =>
    rcases ran : (writeRow sink first).run s with ⟨answer, t⟩
    simp only [List.cons_append, attempt, ran, ih]

/-- The bytes of a table: what a sink that takes everything holds of it. -/
def bytesOfTable (title : Option String) (headers : List String) (rows : List (List String)) :
    Bytes :=
  ((writeTable Sink.unbounded title headers rows).run ({}, [])).2.2

theorem bytesOfTable_eq (title : Option String) (headers : List String)
    (rows : List (List String)) : bytesOfTable title headers rows =
      bytesOf (openingPieces title headers) ++ rows.flatMap fun cells => bytesOf (rowPieces cells) := by
  obtain ⟨v, opened, holds⟩ : ∃ v, (writeOpening Sink.unbounded title headers).run (⟨[], 0⟩, []) =
      (.ok (), (⟨[], 0⟩, v)) ∧ v = [] ++ bytesOf (openingPieces title headers) :=
    run_writeOpening Sink.lossless_unbounded title headers rfl
  obtain ⟨w, written, holds'⟩ : ∃ w, (rows.forM (writeRow Sink.unbounded)).run (⟨[], 0⟩, v) =
      (.ok (), (⟨[], 0 + rows.length⟩, w)) ∧
      w = [] ++ bytesOf (openingPieces title headers) ++
        rows.flatMap fun cells => bytesOf (rowPieces cells) :=
    run_forM_writeRow Sink.lossless_unbounded rows holds
  have start : ({} : RecordWriter) = ⟨[], 0⟩ := rfl
  unfold bytesOfTable writeTable
  rw [start, run_bind_of_ok opened, written]
  exact holds'

theorem bytesOfTable_concat (title : Option String) (headers : List String)
    (rows : List (List String)) (cells : List String) :
    bytesOfTable title headers (rows ++ [cells]) =
      bytesOfTable title headers rows ++ bytesOf (rowPieces cells) := by
  rw [bytesOfTable_eq, bytesOfTable_eq, List.flatMap_append, List.flatMap_singleton,
    List.append_assoc]

variable {sink : Sink ω} {Holds : ω → Bytes → Prop} {limit : Nat}

/-- A writer behind which the sink holds a text, with nothing waiting. -/
structure Stands (Holds : ω → Bytes → Prop) (text : Bytes) (rows : Nat) (s : RecordWriter × ω) :
    Prop where
  writer : s.1 = ⟨[], rows⟩
  holds : Holds s.2 text

/-- A writer behind which a text has filled the sink. -/
structure Full (Holds : ω → Bytes → Prop) (limit : Nat) (text : Bytes) (rows : Nat)
    (s : RecordWriter × ω) : Prop where
  exceeds : limit < text.length
  rows_eq : s.1.rows = rows
  holds : Holds s.2 (text.take limit)

/-- What comes of pieces that are written behind what the sink holds and what waits. -/
theorem stands_or_full (limited : sink.Limited Holds limit) (pieces : List String) {held : Bytes}
    {s : RecordWriter × ω} (holds : Holds s.2 held) {r : Except IoFailure Unit × RecordWriter × ω}
    (ran : (writePieces sink pieces).run s = r) :
    r.1 = .ok () ∧ Stands Holds (held ++ s.1.pending ++ bytesOf pieces) s.1.rows r.2 ∨
      r.1 ≠ .ok () ∧ Full Holds limit (held ++ s.1.pending ++ bytesOf pieces) s.1.rows r.2 := by
  have done : Done Holds limit (held ++ s.1.pending ++ (pieces.map Bytes.ofText).flatten)
      ((putAll sink (pieces.map Bytes.ofText)).run (s.1.pending, s.2)) :=
    done_putAll limited (pieces.map Bytes.ofText) holds
  unfold writePieces at ran
  rw [run_buffered] at ran
  subst ran
  rcases put : (putAll sink (pieces.map Bytes.ofText)).run (s.1.pending, s.2) with
    ⟨answer | _, pending, w⟩
  · rw [put] at done
    exact .inr ⟨nofun, done.1, rfl, done.2⟩
  · rw [put] at done
    obtain ⟨rfl, holds'⟩ := done
    exact .inl ⟨rfl, rfl, holds'⟩

/-- A text that is in the sink or has filled it, and the rows that count. -/
def Reached (Holds : ω → Bytes → Prop) (limit : Nat) (text : Bytes) (rows : Nat)
    (s : RecordWriter × ω) : Prop :=
  Stands Holds text rows s ∨ Full Holds limit text rows s

/-- A row is in the sink and counts exactly if it fits behind the text. -/
theorem reached_writeRow (limited : sink.Limited Holds limit) (cells : List String) {text : Bytes}
    {rows : Nat} {s : RecordWriter × ω} (reached : Reached Holds limit text rows s)
    {r : Except IoFailure Unit × RecordWriter × ω} (ran : (writeRow sink cells).run s = r) :
    r.1 = .ok () ∧ Stands Holds (text ++ bytesOf (rowPieces cells)) (rows + 1) r.2 ∨
      r.1 ≠ .ok () ∧ Full Holds limit (text ++ bytesOf (rowPieces cells)) rows r.2 := by
  rcases written : (writePieces sink (rowPieces cells)).run s with ⟨answer, t⟩
  have row : 0 < (bytesOf (rowPieces cells)).length := by
    have line : bytesOf (rowPieces cells) = Bytes.ofText (line cells) ++ [10] := rfl
    rw [line, List.length_append]
    exact Nat.succ_pos _
  rcases reached with stands | full
  · have holds := stands_or_full limited (rowPieces cells) stands.holds written
    rw [stands.writer, List.append_nil] at holds
    rcases holds with ⟨rfl, stands'⟩ | ⟨failed, full'⟩
    · left
      unfold writeRow at ran
      rw [run_bind_of_ok written] at ran
      subst ran
      exact ⟨rfl, congrArg (fun writer => { writer with rows := writer.rows + 1 }) stands'.writer,
        stands'.holds⟩
    · right
      cases answer with
      | ok _ => exact absurd rfl failed
      | error e =>
        unfold writeRow at ran
        rw [run_bind_of_error written] at ran
        subst ran
        exact ⟨nofun, full'⟩
  · right
    have filled : (text.take limit).length = limit := by
      rw [List.length_take]
      exact Nat.min_eq_left (Nat.le_of_lt full.exceeds)
    obtain ⟨exceeds, same⟩ := take_append_of_lt (bytesOf (rowPieces cells)) full.exceeds
    -- there is no room for anything behind a text that fills the sink
    rcases stands_or_full limited (rowPieces cells) full.holds written with
      ⟨-, stands⟩ | ⟨failed, full'⟩
    · have within := limited.within stands.holds
      rw [List.length_append, List.length_append, filled] at within
      omega
    · cases answer with
      | ok _ => exact absurd rfl failed
      | error e =>
        unfold writeRow at ran
        rw [run_bind_of_error written] at ran
        subst ran
        refine ⟨nofun, exceeds, full'.rows_eq.trans full.rows_eq, ?_⟩
        have holds := full'.holds
        rwa [List.append_assoc, List.take_append_of_le_length (Nat.le_of_eq filled.symm),
          List.take_of_length_le (Nat.le_of_eq filled), ← same] at holds

theorem isOk_eq_true {answer : Except IoFailure Unit} : answer.isOk = true ↔ answer = .ok () := by
  cases answer with
  | ok _ => exact iff_of_true rfl rfl
  | error e => exact iff_of_false nofun nofun

/-- Rows that are attempted in order leave their text in the sink, or the sink full. -/
theorem reached_attempt (limited : sink.Limited Holds limit) (table : List (List String))
    {text : Bytes} {rows : Nat} {s : RecordWriter × ω} (reached : Reached Holds limit text rows s) :
    Reached Holds limit (text ++ table.flatMap fun cells => bytesOf (rowPieces cells))
      (rows + (attempt sink table s).1.countP Except.isOk) (attempt sink table s).2 := by
  induction table generalizing text rows s with
  | nil => exact (List.append_nil text).symm ▸ reached
  | cons cells table ih =>
    rcases ran : (writeRow sink cells).run s with ⟨answer, t⟩
    unfold attempt
    simp only [ran, List.countP_cons]
    rw [List.flatMap_cons, ← List.append_assoc]
    rcases reached_writeRow limited cells reached ran with ⟨rfl, stands⟩ | ⟨failed, full⟩
    · have counts : (.ok () : Except IoFailure Unit).isOk = true := rfl
      have later := ih (.inl stands)
      rwa [if_pos counts, Nat.add_comm (List.countP _ _), ← Nat.add_assoc]
    · have refused : ¬answer.isOk = true := fun ok => failed (isOk_eq_true.mp ok)
      have later := ih (.inr full)
      rwa [if_neg refused, Nat.add_zero]

/-- The sink holds as much of a text as it can. -/
theorem Reached.held (limited : sink.Limited Holds limit) {text : Bytes} {rows : Nat}
    {s : RecordWriter × ω} (reached : Reached Holds limit text rows s) :
    Holds s.2 (text.take (min limit text.length)) := by
  rcases reached with stands | full
  · rw [Nat.min_eq_right (limited.within stands.holds), List.take_length]
    exact stands.holds
  · rw [Nat.min_eq_left (Nat.le_of_lt full.exceeds)]
    exact full.holds

/-- Handing on what waits changes nothing if nothing waits or the sink is full. -/
theorem holds_drain (limited : sink.Limited Holds limit) {held : Bytes} {s : RecordWriter × ω}
    (holds : Holds s.2 held) (settled : s.1.pending = [] ∨ held.length = limit) :
    Holds ((buffered (drain sink)).run s).2.2 held ∧
      (((buffered (drain sink)).run s).1 = .ok () ∨ held.length = limit) := by
  have within := limited.within holds
  have done : Done Holds limit (held ++ s.1.pending) ((drain sink).run (s.1.pending, s.2)) :=
    done_drain limited holds
  rw [run_buffered]
  rcases ran : (drain sink).run (s.1.pending, s.2) with ⟨answer | _, pending, w⟩
  · rw [ran] at done
    rcases settled with none | filled
    · rw [none, List.append_nil] at done
      exact absurd done.1 (Nat.not_lt.mpr within)
    · have same : (held ++ s.1.pending).take limit = held := by rw [← filled, List.take_left]
      exact ⟨same ▸ done.2, .inr filled⟩
  · rw [ran] at done
    have none : s.1.pending = [] := by
      rcases settled with none | filled
      · exact none
      · have all := limited.within done.2
        rw [List.length_append] at all
        exact List.eq_nil_of_length_eq_zero (by omega)
    rw [none, List.append_nil] at done
    exact ⟨done.2, .inl rfl⟩

theorem holds_finish (limited : sink.Limited Holds limit) {held : Bytes} {s : RecordWriter × ω}
    (holds : Holds s.2 held) (settled : s.1.pending = [] ∨ held.length = limit) :
    Holds ((finish sink).run s).2.2 held := by
  obtain ⟨first, ended⟩ := holds_drain limited holds settled
  rcases ran : (buffered (drain sink)).run s with ⟨answer | _, t⟩
  · rw [ran] at first ended
    rw [finish_of_error ran]
    exact (holds_drain limited first (.inr (ended.resolve_left nofun))).1
  · rw [ran] at first
    rw [finish_of_ok ran]
    exact first

theorem Reached.finished (limited : sink.Limited Holds limit) {text : Bytes} {rows : Nat}
    {s : RecordWriter × ω} (reached : Reached Holds limit text rows s) :
    Holds ((finish sink).run s).2.2 (text.take (min limit text.length)) := by
  refine holds_finish limited (reached.held limited) ?_
  rcases reached with stands | full
  · exact .inl (congrArg RecordWriter.pending stands.writer)
  · right
    rw [List.length_take]
    have := full.exceeds
    omega

theorem Reached.rows_eq {text : Bytes} {rows : Nat} {s : RecordWriter × ω}
    (reached : Reached Holds limit text rows s) : s.1.rows = rows := by
  rcases reached with stands | full
  · exact congrArg RecordWriter.rows stands.writer
  · exact full.rows_eq

/-- What is known of a writer when some rows have been attempted, `text` being what a table with its
headers is written as. -/
structure Durable (sink : Sink ω) (Holds : ω → Bytes → Prop) (limit : Nat)
    (text : List (List String) → Bytes) (opened : RecordWriter × ω) (rows : List (List String)) :
    Prop where
  /-- The next row is attempted on what is left, whatever became of those before it. -/
  attempt_next (cells : List String) : attempt sink (rows ++ [cells]) opened =
    ((attempt sink rows opened).1 ++ [((writeRow sink cells).run (attempt sink rows opened).2).1],
      ((writeRow sink cells).run (attempt sink rows opened).2).2)
  /-- The next row can be written exactly if the text with it fits. -/
  next_iff (cells : List String) :
    ((writeRow sink cells).run (attempt sink rows opened).2).1 = .ok () ↔
      (text (rows ++ [cells])).length ≤ limit
  /-- Then the sink has all of it, and nothing waits. -/
  next (cells : List String) {s : RecordWriter × ω} :
    (writeRow sink cells).run (attempt sink rows opened).2 = (.ok (), s) →
      s.1.pending = [] ∧ Holds s.2 (text (rows ++ [cells]))
  rows_eq : (attempt sink rows opened).2.1.rows = (attempt sink rows opened).1.countP Except.isOk
  held : Holds (attempt sink rows opened).2.2
    ((text rows).take (min limit (text rows).length))
  /-- That is left when the writer is done with. -/
  finished : Holds ((finish sink).run (attempt sink rows opened).2).2.2
    ((text rows).take (min limit (text rows).length))

/-- On a sink that runs full the opening lines and then each row are written exactly if all text up to
there fits; a row counts when it is written, and then the sink has it. In the end the sink holds as
much of the text as it can, whatever rows were attempted after one that failed. -/
theorem rows_durable (limited : sink.Limited Holds limit) {w : ω} (empty : Holds w [])
    (title : Option String) (headers : List String) {answer : Except IoFailure Unit}
    {opened : RecordWriter × ω} (ran : (writeOpening sink title headers).run ({}, w) = (answer, opened)) :
    (answer = .ok () ↔ (bytesOfTable title headers []).length ≤ limit) ∧
      (answer = .ok () →
        ∀ rows, Durable sink Holds limit (bytesOfTable title headers) opened rows) := by
  have text : bytesOfTable title headers [] = bytesOf (openingPieces title headers) := by
    rw [bytesOfTable_eq, List.flatMap_nil, List.append_nil]
  have outcome : answer = .ok () ∧ Stands Holds (bytesOfTable title headers []) 0 opened ∨
      answer ≠ .ok () ∧ Full Holds limit (bytesOfTable title headers []) 0 opened := by
    rw [text]
    unfold writeOpening at ran
    split at ran
    · rename_i bare
      cases ran
      exact .inl ⟨rfl, rfl, (bytesOf_openingPieces_of_bare title bare).symm ▸ empty⟩
    · exact stands_or_full limited (s := ({}, w)) (openingPieces title headers) empty ran
  refine ⟨?_, fun ok rows => ?_⟩
  · rcases outcome with ⟨ok, stands⟩ | ⟨failed, full⟩
    · exact iff_of_true ok (limited.within stands.holds)
    · exact iff_of_false failed (Nat.not_le.mpr full.exceeds)
  · have stands : Stands Holds (bytesOfTable title headers []) 0 opened := by
      rcases outcome with ⟨-, stands⟩ | ⟨failed, -⟩
      · exact stands
      · exact absurd ok failed
    have reached := reached_attempt limited rows (.inl stands)
    rw [text, ← bytesOfTable_eq, Nat.zero_add] at reached
    have next (cells : List String) {r : Except IoFailure Unit × RecordWriter × ω}
        (ran : (writeRow sink cells).run (attempt sink rows opened).2 = r) :=
      bytesOfTable_concat title headers rows cells ▸ reached_writeRow limited cells reached ran
    refine ⟨fun cells => attempt_concat sink rows cells opened, fun cells => ?_,
      fun cells s ran => ?_, reached.rows_eq, reached.held limited, reached.finished limited⟩
    · rcases next cells rfl with ⟨ok, stands⟩ | ⟨failed, full⟩
      · exact iff_of_true ok (limited.within stands.holds)
      · exact iff_of_false failed (Nat.not_le.mpr full.exceeds)
    · rcases next cells ran with ⟨-, stands⟩ | ⟨failed, -⟩
      · exact ⟨congrArg RecordWriter.pending stands.writer, stands.holds⟩
      · exact absurd rfl failed

/-- Ten bytes take the headers, a row of five and a part of the next one; an empty row afterwards
changes nothing. -/
theorem rows_durable_ten : ∃ opened : RecordWriter × Bytes,
    (Sink.bounded 10).Limited (fun w held => w = held ∧ held.length ≤ 10) 10 ∧
      (writeOpening (Sink.bounded 10) none ["A"]).run ({}, []) = (.ok (), opened) ∧
      ((writeRow (Sink.bounded 10) ["xyz"]).run
        (attempt (Sink.bounded 10) [["abcd"]] opened).2).1 ≠ .ok () ∧
      (attempt (Sink.bounded 10) [["abcd"], ["xyz"], [""]] opened).2.2 =
        Bytes.ofText "#A\nabcd\nxy" := by
  have limited := Sink.limited_bounded 10
  rcases ran : (writeOpening (Sink.bounded 10) none ["A"]).run ({}, []) with ⟨answer, opened⟩
  obtain ⟨opens, durable⟩ := rows_durable limited ⟨rfl, by decide⟩ none ["A"] ran
  have opening : (bytesOfTable none ["A"] []).length ≤ 10 := by
    rw [bytesOfTable_eq]
    decide
  obtain rfl := opens.mpr opening
  refine ⟨opened, limited, rfl, ?_, ?_⟩
  · rw [ne_eq, (durable rfl [["abcd"]]).next_iff, bytesOfTable_eq]
    decide
  · have held := (durable rfl [["abcd"], ["xyz"], [""]]).held.1
    rw [bytesOfTable_eq] at held
    exact held.trans (by decide)

end RecordWriter

end Microbench
