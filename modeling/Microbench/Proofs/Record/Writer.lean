import Microbench.Proofs.Code
import Microbench.Record.Writer

/-!
# Writing to a sink that takes everything

A sink is lossless if it always takes all the bytes that it is offered. Behind such a sink nothing
that is written fails, and what the sink holds is what was written, in order: the buffer in front of
it changes how the bytes are handed on, not which.
-/

namespace Microbench

variable {ω : Type}

/-- A sink that takes all it is offered; `Holds` says what it took so far. -/
structure Sink.Lossless (sink : Sink ω) (Holds : ω → Bytes → Prop) : Prop where
  takes : ∀ {w held} bytes, Holds w held →
    ∃ w', (sink.accept bytes).run w = (.ok bytes.length, w') ∧ Holds w' (held ++ bytes)

theorem Sink.lossless_unbounded : Sink.unbounded.Lossless (· = ·) where
  takes := by
    intro w held bytes same
    subst same
    exact ⟨w ++ bytes, rfl, rfl⟩

namespace Buffered

variable {sink : Sink ω} {Holds : ω → Bytes → Prop} {pending held : Bytes} {w : ω}

theorem run_offer {bytes : Bytes} {n : Nat} {w' : ω}
    (taken : (sink.accept bytes).run w = (.ok n, w')) :
    (offer sink bytes).run (pending, w) = (.ok n, (pending, w')) := by
  have step : (offer sink bytes).run (pending, w) =
    (((sink.accept bytes).run w).1, (pending, ((sink.accept bytes).run w).2)) := rfl
  rw [step, taken]

/-- All bytes are taken at once, so there is no second offer. -/
theorem run_direct (lossless : sink.Lossless Holds) (bytes : Bytes) (holds : Holds w held) :
    ∃ w', (direct sink bytes).run (pending, w) = (.ok (), (pending, w')) ∧
      Holds w' (held ++ bytes) := by
  rw [direct]
  by_cases nothing : bytes.isEmpty = true
  · rw [dif_pos nothing, List.isEmpty_iff.mp nothing, List.append_nil]
    exact ⟨w, rfl, holds⟩
  · rw [dif_neg nothing]
    obtain ⟨w', taken, holds'⟩ := lossless.takes bytes holds
    have some : bytes.length ≠ 0 := by simpa [List.isEmpty_iff] using nothing
    refine ⟨w', ?_, holds'⟩
    rw [run_bind_of_ok (run_offer taken), dif_neg some, List.drop_length, direct]
    rfl

theorem run_drainFrom (lossless : sink.Lossless Holds) (bytes : Bytes) (holds : Holds w held) :
    ∃ w', (drainFrom sink bytes).run (pending, w) = (.ok (), ([], w')) ∧
      Holds w' (held ++ bytes) := by
  rw [drainFrom]
  by_cases nothing : bytes.isEmpty = true
  · rw [dif_pos nothing, List.isEmpty_iff.mp nothing, List.append_nil]
    exact ⟨w, rfl, holds⟩
  · rw [dif_neg nothing]
    obtain ⟨w', taken, holds'⟩ := lossless.takes bytes holds
    have some : bytes.length ≠ 0 := by simpa [List.isEmpty_iff] using nothing
    have waiting : (modify fun s => (bytes, s.2) : Action ω PUnit).run (pending, w) =
      (.ok (), (bytes, w)) := rfl
    refine ⟨w', ?_, holds'⟩
    rw [run_bind_of_ok waiting, run_bind_of_ok (run_offer taken), dif_neg some, List.drop_length,
      drainFrom]
    rfl

theorem run_drain (lossless : sink.Lossless Holds) (holds : Holds w held) :
    ∃ w', (drain sink).run (pending, w) = (.ok (), ([], w')) ∧ Holds w' (held ++ pending) :=
  run_drainFrom lossless pending holds

/-- A piece ends up in the buffer or in the sink, behind all that came before. -/
theorem run_put (lossless : sink.Lossless Holds) (piece : Bytes) (holds : Holds w held) :
    ∃ pending' w' held', (put sink piece).run (pending, w) = (.ok (), (pending', w')) ∧
      Holds w' held' ∧ held' ++ pending' = held ++ pending ++ piece := by
  have got : (get : Action ω (Bytes × ω)).run (pending, w) = (.ok (pending, w), (pending, w)) := rfl
  have kept : ∀ p v, (hold piece : Action ω Unit).run (p, v) = (.ok (), (p ++ piece, v)) :=
    fun p v => rfl
  unfold put
  rw [run_bind_of_ok got]
  by_cases fits : piece.length < capacity - pending.length
  · simp only [fits, if_true]
    exact ⟨_, w, held, kept pending w, holds, by rw [List.append_assoc]⟩
  · simp only [fits, if_false]
    by_cases wide : capacity - pending.length < piece.length
    · obtain ⟨v, drained, holds'⟩ := run_drain lossless holds
      simp only [wide, if_true]
      rw [run_bind_of_ok drained]
      by_cases large : capacity ≤ piece.length
      · obtain ⟨v', handed, holds''⟩ := run_direct lossless piece holds'
        simp only [large, if_true]
        exact ⟨[], v', _, handed, holds'', List.append_nil _⟩
      · simp only [large, if_false]
        exact ⟨_, v, _, kept [] v, holds', rfl⟩
    · simp only [wide, if_false]
      by_cases large : capacity ≤ piece.length
      · -- such a piece is as long as the buffer, and nothing waits
        have empty : pending = [] := by
          have positive : 0 < capacity := by decide
          apply List.eq_nil_of_length_eq_zero
          omega
        subst empty
        obtain ⟨v', handed, holds''⟩ := run_direct lossless piece holds
        simp only [large, if_true]
        exact ⟨[], v', _, handed, holds'', by rw [List.append_nil, List.append_nil]⟩
      · simp only [large, if_false]
        exact ⟨_, w, held, kept pending w, holds, by rw [List.append_assoc]⟩

theorem run_forM_put (lossless : sink.Lossless Holds) (pieces : List Bytes) (holds : Holds w held) :
    ∃ pending' w' held', (pieces.forM (put sink)).run (pending, w) = (.ok (), (pending', w')) ∧
      Holds w' held' ∧ held' ++ pending' = held ++ pending ++ pieces.flatten := by
  induction pieces generalizing pending w held with
  | nil => exact ⟨pending, w, held, rfl, holds, by rw [List.flatten_nil, List.append_nil]⟩
  | cons piece pieces ih =>
    obtain ⟨p, v, h, first, holds', same⟩ := run_put lossless piece holds
    obtain ⟨p', v', h', later, holds'', same'⟩ := ih holds'
    refine ⟨p', v', h', ?_, holds'', ?_⟩
    · have step : (piece :: pieces).forM (put sink) =
        put sink piece >>= fun _ => pieces.forM (put sink) := rfl
      rw [step, run_bind_of_ok first, later]
    · simp only [same', same, List.flatten_cons, List.append_assoc]

/-- Nothing waits afterwards. -/
theorem run_putAll (lossless : sink.Lossless Holds) (pending : Bytes) (pieces : List Bytes)
    (holds : Holds w held) : ∃ w', (putAll sink pieces).run (pending, w) = (.ok (), ([], w')) ∧
      Holds w' (held ++ pending ++ pieces.flatten) := by
  obtain ⟨p, v, h, put, holds', same⟩ := run_forM_put lossless pieces holds
  obtain ⟨w', drained, holds''⟩ := run_drain lossless holds'
  refine ⟨w', ?_, ?_⟩
  · rw [putAll, run_bind_of_ok put, drained]
  · rw [← same]
    exact holds''

end Buffered

namespace RecordWriter

variable {sink : Sink ω} {Holds : ω → Bytes → Prop} {held : Bytes} {w : ω} {rows : Nat}

/-- The bytes of pieces of text. -/
def bytesOf (pieces : List String) : Bytes := (pieces.map Bytes.ofText).flatten

theorem run_buffered {α : Type} (x : Buffered.Action ω α) (s : RecordWriter × ω) :
    (buffered x).run s = ((x.run (s.1.pending, s.2)).1,
      ⟨(x.run (s.1.pending, s.2)).2.1, s.1.rows⟩, (x.run (s.1.pending, s.2)).2.2) :=
  rfl

/-- Only rows are counted. -/
theorem rows_writePieces (sink : Sink ω) (pieces : List String) (s : RecordWriter × ω) :
    ((writePieces sink pieces).run s).2.1.rows = s.1.rows := rfl

theorem rows_writeOpening (sink : Sink ω) (title : Option String) (headers : List String)
    (s : RecordWriter × ω) :
    ((writeOpening sink title headers).run s).2.1.rows = s.1.rows := by
  unfold writeOpening
  split <;> rfl

theorem rows_writeRow {cells : List String} {s t : RecordWriter × ω}
    (written : (writeRow sink cells).run s = (.ok (), t)) : t.1.rows = s.1.rows + 1 := by
  obtain ⟨_, u, pieces, counted⟩ := exists_of_run_bind_ok written
  have kept := rows_writePieces sink (RecordFile.rowPieces cells) s
  rw [pieces] at kept
  cases counted
  exact congrArg (· + 1) kept

theorem finish_of_ok {s t : RecordWriter × ω}
    (ran : (buffered (Buffered.drain sink)).run s = (.ok (), t)) :
    (finish sink).run s = (.ok (), t) := by
  change finish sink s = _
  rw [finish, ran]

theorem finish_of_error {e : IoFailure} {s t : RecordWriter × ω}
    (ran : (buffered (Buffered.drain sink)).run s = (.error e, t)) :
    (finish sink).run s = (.error e, ((buffered (Buffered.drain sink)).run t).2) := by
  change finish sink s = _
  rw [finish, ran]

theorem run_writePieces (lossless : sink.Lossless Holds) (pieces : List String)
    (holds : Holds w held) :
    ∃ w', (writePieces sink pieces).run (⟨[], rows⟩, w) = (.ok (), (⟨[], rows⟩, w')) ∧
      Holds w' (held ++ bytesOf pieces) := by
  obtain ⟨w', put, holds'⟩ := Buffered.run_putAll lossless [] (pieces.map Bytes.ofText) holds
  rw [List.append_nil] at holds'
  refine ⟨w', ?_, holds'⟩
  rw [writePieces, run_buffered, put]

/-- Without headers nothing stands in front of the rows. -/
theorem bytesOf_openingPieces_of_bare (title : Option String) {headers : List String}
    (bare : headers.isEmpty = true) : bytesOf (RecordFile.openingPieces title headers) = [] := by
  unfold RecordFile.openingPieces
  rw [if_pos bare]
  rfl

theorem run_writeOpening (lossless : sink.Lossless Holds) (title : Option String)
    (headers : List String) (holds : Holds w held) :
    ∃ w', (writeOpening sink title headers).run (⟨[], rows⟩, w) = (.ok (), (⟨[], rows⟩, w')) ∧
      Holds w' (held ++ bytesOf (RecordFile.openingPieces title headers)) := by
  unfold writeOpening
  by_cases bare : headers.isEmpty = true
  · rw [if_pos bare, bytesOf_openingPieces_of_bare title bare, List.append_nil]
    exact ⟨w, rfl, holds⟩
  · rw [if_neg bare]
    exact run_writePieces lossless _ holds

theorem run_writeRow (lossless : sink.Lossless Holds) (cells : List String)
    (holds : Holds w held) :
    ∃ w', (writeRow sink cells).run (⟨[], rows⟩, w) = (.ok (), (⟨[], rows + 1⟩, w')) ∧
      Holds w' (held ++ bytesOf (RecordFile.rowPieces cells)) := by
  obtain ⟨w', written, holds'⟩ := run_writePieces lossless (RecordFile.rowPieces cells) holds
  refine ⟨w', ?_, holds'⟩
  rw [writeRow, run_bind_of_ok written]
  rfl

/-- Rows follow each other in the sink as they were written. -/
theorem run_forM_writeRow (lossless : sink.Lossless Holds) (table : List (List String))
    (holds : Holds w held) :
    ∃ w', (table.forM (writeRow sink)).run (⟨[], rows⟩, w) =
        (.ok (), (⟨[], rows + table.length⟩, w')) ∧
      Holds w' (held ++ table.flatMap fun cells => bytesOf (RecordFile.rowPieces cells)) := by
  induction table generalizing rows held w with
  | nil => exact ⟨w, rfl, by rw [List.flatMap_nil, List.append_nil]; exact holds⟩
  | cons cells table ih =>
    obtain ⟨v, first, holds'⟩ := run_writeRow lossless cells holds
    obtain ⟨w', later, holds''⟩ := ih holds'
    refine ⟨w', ?_, ?_⟩
    · have step : (cells :: table).forM (writeRow sink) =
        writeRow sink cells >>= fun _ => table.forM (writeRow sink) := rfl
      rw [step, run_bind_of_ok first, later, List.length_cons, Nat.add_assoc, Nat.add_comm 1]
    · rw [List.flatMap_cons, ← List.append_assoc]
      exact holds''

end RecordWriter

/-- When a record file was opened, it had been made and its opening written. -/
theorem Access.made_of_openRecord {path : String} {title : Option String} {headers : List String}
    {d d' : Disk} {f : OpenRecord} (opened : (openRecord path title headers).run d = (.ok f, d')) :
    ∃ e e', (createFile path).run e = (.ok f.place, e') ∧
      (RecordWriter.writeOpening (sink f.place) title headers).run ({}, e') =
        (.ok (), f.writer, d') := by
  unfold openRecord at opened
  cases above : Path.parent? path with
  | none =>
    simp only [above] at opened
    obtain ⟨place, e', created, written⟩ := exists_of_run_bind_ok opened
    simp only [ExceptT.run] at written
    split at written
    · rename_i ran
      cases written
      exact ⟨d, e', created, ran⟩
    · cases written
  | some directory =>
    simp only [above] at opened
    obtain ⟨_, e, -, opened⟩ := exists_of_run_bind_ok opened
    obtain ⟨place, e', created, written⟩ := exists_of_run_bind_ok opened
    simp only [ExceptT.run] at written
    split at written
    · rename_i ran
      cases written
      exact ⟨e, e', created, ran⟩
    · cases written

end Microbench
