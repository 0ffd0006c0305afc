import Microbench.Proofs.Relay.Stopping
import Microbench.Scripted.Stream

/-!
# What a pump copies

A pump hands on what it reads, in order, each byte once: `chunks_arrive_in_order`. Its steps are
listed as `PumpEvent`s. The invariant `Carries` says for each phase what the sink holds of the chunks
that were read: all of them while the pump looks or reads, and a beginning of the last one while it
writes. `carries_turn` is the step and `carries_turns` the run, whatever the flag shows in between.

The sink is known by its content. A write that takes bytes puts them behind the content, and one
that fails may leave some of them there (`Link.Appends`).
-/

namespace Microbench

/-- What a step of a pump was. -/
inductive PumpEvent where
  /-- A look at the flag, and what it showed. -/
  | looked (asked : Bool)
  | read (reading : Reading)
  | wrote (offered : Bytes) (writing : Writing)
  | flushed (handedOn : Bool)
  deriving DecidableEq, Repr

namespace PumpEvent

/-- The bytes that were read; none at the end of the stream. -/
def chunk? : PumpEvent → Option Bytes
  | .read (.bytes (b :: bs)) => some (b :: bs)
  | _ => none

/-- How the pump ends with the event, if it does. -/
def end? : PumpEvent → Option PumpEnd
  | .looked true => some .stopped
  | .read (.bytes []) => some .endOfStream
  | .read .failed => some .failed
  | .wrote _ (.taken 0) => some .failed
  | .wrote _ .failed => some .failed
  | .flushed false => some .failed
  | _ => none

/-- Whether the sink refused something. -/
def refuses : PumpEvent → Bool
  | .wrote _ (.taken 0) => true
  | .wrote _ .failed => true
  | .flushed false => true
  | _ => false

/-- The chunks that were read, in order. -/
def chunks (es : List PumpEvent) : List Bytes := es.filterMap chunk?

theorem chunks_append (es fs : List PumpEvent) : chunks (es ++ fs) = chunks es ++ chunks fs :=
  List.filterMap_append

theorem chunks_concat {e : PumpEvent} (bare : e.chunk? = none) (es : List PumpEvent) :
    chunks (es ++ [e]) = chunks es := by
  simp [chunks, bare]

/-- A pump goes on after all of the events. -/
def GoOn (es : List PumpEvent) : Prop := ∀ e ∈ es, e.end? = none

theorem GoOn.concat {es : List PumpEvent} (h : GoOn es) {e : PumpEvent} (goes : e.end? = none) :
    GoOn (es ++ [e]) := by
  intro e' mem
  rcases List.mem_append.mp mem with before | last
  · exact h e' before
  · rwa [List.mem_singleton.mp last]

end PumpEvent

variable {ρ : Type}

/-- The content of a sink grows by what is written to it, and by nothing else. -/
structure Link.Appends (l : Link ρ) (content : ρ → Bytes) : Prop where
  read (count : Nat) (s : ρ) : content (l.read count s).2 = content s
  flush (s : ρ) : content (l.flush s).2 = content s
  taken {bs : Bytes} {s : ρ} {count : Nat} : (l.write bs s).1 = .taken count →
    content (l.write bs s).2 = content s ++ bs.take count
  interrupted {bs : Bytes} {s : ρ} : (l.write bs s).1 = .interrupted →
    content (l.write bs s).2 = content s
  /-- Some of the bytes may have been written. -/
  failed {bs : Bytes} {s : ρ} : (l.write bs s).1 = .failed →
    ∃ part, part <+: bs ∧ content (l.write bs s).2 = content s ++ part

namespace Pump

open PumpEvent

/-- What the next step is; none after the end. -/
def event? (l : Link ρ) (flag : Bool) (p : Pump ρ) : Option PumpEvent :=
  match p.phase with
  | .looking => some (.looked flag)
  | .reading => some (.read (l.read bufferSize p.link).1)
  | .writing _ [] => some (.flushed (l.flush p.link).1)
  | .writing _ rest => some (.wrote rest (l.write rest p.link).1)
  | .ended _ => none

/-- Steps in order, each with what the flag shows then. -/
def turns (l : Link ρ) (flags : List Bool) (p : Pump ρ) : Pump ρ :=
  flags.foldl (fun p flag => p.turn l flag) p

/-- What the flag shows at each of some steps, if the link alone can raise it. -/
def shown (l : Link ρ) : Nat → Pump ρ → List Bool
  | 0, _ => []
  | steps + 1, p => l.asksToStop p.link :: shown l steps (p.turn l (l.asksToStop p.link))

/-- What those steps are. -/
def events (l : Link ρ) : List Bool → Pump ρ → List PumpEvent
  | [], _ => []
  | flag :: flags, p => (p.event? l flag).toList ++ events l flags (p.turn l flag)

/-! ## The invariant -/

/-- The sink holds all chunks that were read, and all of them are counted. -/
structure Settled (start : Bytes) (chunks : List Bytes) (copied : Nat) (now : Bytes) : Prop where
  held : now = start ++ chunks.flatten
  counted : copied = chunks.flatten.length

/-- The sink holds a part of the last chunk behind the others, and only those are counted. -/
def Partway (start : Bytes) (chunks : List Bytes) (copied : Nat) (now last part : Bytes) : Prop :=
  part <+: last ∧ ∃ done before, chunks = done ++ [last] ∧ Settled start done copied before ∧
    now = before ++ part

/-- What is known of a pump that has ended: only the last event ended it, and the sink holds all
chunks unless it refused one. -/
structure Over (start : Bytes) (es : List PumpEvent) (copied : Nat) (how : PumpEnd) (now : Bytes) :
    Prop where
  last : ∃ before e, es = before ++ [e] ∧ GoOn before ∧ e.end? = some how
  holds : (∀ e ∈ es, e.refuses = false) ∧ Settled start (chunks es) copied now ∨
    (∃ e ∈ es, e.refuses = true) ∧ ∃ last part, Partway start (chunks es) copied now last part

/-- What the sink holds of the chunks that were read, for each phase. -/
def Carries (content : ρ → Bytes) (start : Bytes) (es : List PumpEvent) (p : Pump ρ) : Prop :=
  match p.phase with
  | .looking => GoOn es ∧ Settled start (chunks es) p.copied (content p.link)
  | .reading => GoOn es ∧ Settled start (chunks es) p.copied (content p.link)
  | .writing size rest => GoOn es ∧ ∃ part, size = (part ++ rest).length ∧
      Partway start (chunks es) p.copied (content p.link) (part ++ rest) part
  | .ended how => Over start es p.copied how (content p.link)

section Steps

variable {l : Link ρ} {content : ρ → Bytes} {start : Bytes} {es : List PumpEvent} {s : ρ}
  {copied : Nat}

theorem refuses_of_goOn (h : GoOn es) : ∀ e ∈ es, e.refuses = false := by
  intro e mem
  have goes := h e mem
  cases refused : e.refuses with
  | false => rfl
  | true =>
    unfold refuses at refused
    split at refused <;> first | cases goes | cases refused

/-- The end of a pump that has lost nothing. -/
theorem over_settled (goOn : GoOn es) (settled : Settled start (chunks es) copied (content s))
    {e : PumpEvent} {how : PumpEnd} (ends : e.end? = some how) (bare : e.chunk? = none)
    (takes : e.refuses = false) {now : Bytes} (same : now = content s) :
    Over start (es ++ [e]) copied how now where
  last := ⟨es, e, rfl, goOn, ends⟩
  holds := by
    refine .inl ⟨fun e' mem => ?_, ?_⟩
    · rcases List.mem_append.mp mem with before | last
      · exact refuses_of_goOn goOn e' before
      · rwa [List.mem_singleton.mp last]
    · rwa [chunks_concat bare, same]

/-- The end of a pump whose sink refused something. -/
theorem over_partway (goOn : GoOn es) {now last part : Bytes}
    (partway : Partway start (chunks es) copied now last part) {e : PumpEvent}
    (ends : e.end? = some .failed) (bare : e.chunk? = none) (refused : e.refuses = true) :
    Over start (es ++ [e]) copied .failed now where
  last := ⟨es, e, rfl, goOn, ends⟩
  holds := by
    refine .inr ⟨⟨e, List.mem_append_right _ List.mem_cons_self, refused⟩, last, part, ?_⟩
    rwa [chunks_concat bare]

theorem settled_concat (settled : Settled start (chunks es) copied (content s)) {e : PumpEvent}
    (bare : e.chunk? = none) {now : Bytes} (same : now = content s) :
    Settled start (chunks (es ++ [e])) copied now := by
  rwa [chunks_concat bare, same]

theorem carries_looking (flag : Bool) (h : Carries content start es ⟨s, .looking, copied⟩) :
    Carries content start (es ++ [.looked flag]) (turn l flag ⟨s, .looking, copied⟩) := by
  obtain ⟨goOn, settled⟩ := h
  cases flag with
  | true => exact over_settled goOn settled rfl rfl rfl rfl
  | false => exact ⟨goOn.concat rfl, settled_concat settled rfl rfl⟩

theorem carries_reading (appends : l.Appends content) (flag : Bool)
    (h : Carries content start es ⟨s, .reading, copied⟩) :
    Carries content start (es ++ [.read (l.read bufferSize s).1])
      (turn l flag ⟨s, .reading, copied⟩) := by
  obtain ⟨goOn, settled⟩ := h
  have same := appends.read bufferSize s
  rcases answer : l.read bufferSize s with ⟨reading, s'⟩
  rw [answer] at same
  unfold turn
  simp only [answer]
  cases reading with
  | bytes chunk =>
    cases chunk with
    | nil => exact over_settled goOn settled rfl rfl rfl same
    | cons b bs =>
      refine ⟨goOn.concat rfl, [], rfl, List.nil_prefix, chunks es, content s, ?_, settled, ?_⟩
      · rw [chunks_append]
        rfl
      · rw [List.append_nil]
        exact same
  | wouldBlock => exact ⟨goOn.concat rfl, settled_concat settled rfl same⟩
  | interrupted => exact ⟨goOn.concat rfl, settled_concat settled rfl same⟩
  | failed => exact over_settled goOn settled rfl rfl rfl same
  | held => exact ⟨goOn.concat rfl, settled_concat settled rfl same⟩

theorem carries_flushing (appends : l.Appends content) (flag : Bool) {size : Nat}
    (h : Carries content start es ⟨s, .writing size [], copied⟩) :
    Carries content start (es ++ [.flushed (l.flush s).1])
      (turn l flag ⟨s, .writing size [], copied⟩) := by
  obtain ⟨goOn, part, rfl, partway⟩ := h
  have same := appends.flush s
  rw [List.append_nil] at partway ⊢
  rcases answer : l.flush s with ⟨handedOn, s'⟩
  rw [answer] at same
  unfold turn
  simp only [answer]
  cases handedOn with
  | true =>
    obtain ⟨-, done, before, chunks_eq, settled, now⟩ := partway
    refine ⟨goOn.concat rfl, ?_, ?_⟩
    · rw [chunks_concat rfl, chunks_eq, List.flatten_append, List.flatten_singleton,
        ← List.append_assoc, ← settled.held, ← now]
      exact same
    · rw [chunks_concat rfl, chunks_eq, List.flatten_append, List.flatten_singleton,
        List.length_append, ← settled.counted]
      rfl
  | false => exact over_partway goOn (same.symm ▸ partway) rfl rfl rfl

theorem carries_writing (appends : l.Appends content) (flag : Bool) {size : Nat} {b : UInt8}
    {bs : Bytes} (h : Carries content start es ⟨s, .writing size (b :: bs), copied⟩) :
    Carries content start (es ++ [.wrote (b :: bs) (l.write (b :: bs) s).1])
      (turn l flag ⟨s, .writing size (b :: bs), copied⟩) := by
  obtain ⟨goOn, part, rfl, -, done, before, chunks_eq, settled, now⟩ := h
  -- what the sink holds afterwards, once it is known which part of the bytes it has got
  have reached {more : Bytes} (of : more <+: b :: bs) {s' : ρ}
      (grown : content s' = content s ++ more) :
      Partway start (chunks es) copied (content s') (part ++ b :: bs) (part ++ more) :=
    ⟨(List.prefix_append_right_inj part).mpr of, done, before, chunks_eq, settled, by
      rw [grown, ← List.append_assoc, ← now]⟩
  have taken {count : Nat} : (l.write (b :: bs) s).1 = .taken count →
      content (l.write (b :: bs) s).2 = content s ++ (b :: bs).take count := appends.taken
  have interrupted : (l.write (b :: bs) s).1 = .interrupted →
      content (l.write (b :: bs) s).2 = content s := appends.interrupted
  have failed : (l.write (b :: bs) s).1 = .failed →
      ∃ part, part <+: b :: bs ∧ content (l.write (b :: bs) s).2 = content s ++ part :=
    appends.failed
  rcases answer : l.write (b :: bs) s with ⟨writing, s'⟩
  rw [answer] at taken interrupted failed
  unfold turn
  simp only [answer]
  cases writing with
  | taken count =>
    have grown := reached (List.take_prefix count _) (taken rfl)
    cases count with
    | zero => exact over_partway goOn grown rfl rfl rfl
    | succ count =>
      refine ⟨goOn.concat rfl, part ++ (b :: bs).take (count + 1), ?_, ?_⟩
      · rw [List.append_assoc, List.take_append_drop]
      · rw [chunks_concat rfl, List.append_assoc part, List.take_append_drop]
        exact grown
  | interrupted =>
    have grown := reached List.nil_prefix ((interrupted rfl).trans (List.append_nil _).symm)
    rw [List.append_nil] at grown
    refine ⟨goOn.concat rfl, part, rfl, ?_⟩
    rw [chunks_concat rfl]
    exact grown
  | failed =>
    obtain ⟨more, of, grown⟩ := failed rfl
    exact over_partway goOn (reached of grown) rfl rfl rfl

/-- A step keeps the invariant. -/
theorem carries_turn (appends : l.Appends content) (flag : Bool) {p : Pump ρ}
    (h : Carries content start es p) :
    Carries content start (es ++ (p.event? l flag).toList) (p.turn l flag) := by
  rcases p with ⟨s, phase, copied⟩
  cases phase with
  | looking => exact carries_looking flag h
  | reading => exact carries_reading appends flag h
  | writing size rest =>
    cases rest with
    | nil => exact carries_flushing appends flag h
    | cons b bs => exact carries_writing appends flag h
  | ended how =>
    rw [turn_ended l flag _ rfl]
    exact (List.append_nil es).symm ▸ h

/-- And so does a run. -/
theorem carries_turns (appends : l.Appends content) (flags : List Bool) {p : Pump ρ}
    (h : Carries content start es p) :
    Carries content start (es ++ events l flags p) (p.turns l flags) := by
  induction flags generalizing p es with
  | nil => exact (List.append_nil es).symm ▸ h
  | cons flag flags ih =>
    have later := ih (carries_turn appends flag h)
    rwa [List.append_assoc] at later

end Steps

/-! ## Pumps that have ended -/

/-- What a pump that has ended has copied: the sink holds a beginning of what was read, and all of it
unless something failed. Then it holds the chunks before the read that failed, or the completed ones
and a part of the one that the sink refused. -/
structure Relayed (start : Bytes) (es : List PumpEvent) (copied : Nat) (how : PumpEnd)
    (now : Bytes) : Prop where
  beginning : now <+: start ++ (chunks es).flatten
  copied_le : start.length + copied ≤ now.length
  endOfStream_iff : how = .endOfStream ↔ .read (.bytes []) ∈ es
  stopped_iff : how = .stopped ↔ .looked true ∈ es
  whole : how ≠ .failed → Settled start (chunks es) copied now
  failed : how = .failed → .read .failed ∈ es ∧ Settled start (chunks es) copied now ∨
    (∃ e ∈ es, e.refuses = true) ∧ ∃ last part, Partway start (chunks es) copied now last part
  /-- Nothing is read or written after the event that ended the pump. -/
  last : ∃ before e, es = before ++ [e] ∧ GoOn before ∧ e.end? = some how

section Ended

variable {start : Bytes} {es : List PumpEvent} {copied : Nat} {how : PumpEnd} {now : Bytes}

theorem Settled.bounds {chunks : List Bytes} (h : Settled start chunks copied now) :
    now <+: start ++ chunks.flatten ∧ start.length + copied ≤ now.length := by
  rw [h.held, h.counted, List.length_append]
  exact ⟨List.prefix_rfl, Nat.le_refl _⟩

theorem Partway.bounds {chunks : List Bytes} {last part : Bytes}
    (h : Partway start chunks copied now last part) :
    now <+: start ++ chunks.flatten ∧ start.length + copied ≤ now.length := by
  obtain ⟨of, done, before, rfl, settled, rfl⟩ := h
  constructor
  · rw [List.flatten_append, List.flatten_singleton, ← List.append_assoc, settled.held]
    exact (List.prefix_append_right_inj _).mpr of
  · rw [List.length_append]
    exact Nat.le_trans settled.bounds.2 (Nat.le_add_right _ _)

/-- An event that ends the pump is the last one, and the pump ends that way. -/
theorem Over.of_mem (finished : Over start es copied how now) {e : PumpEvent} {how' : PumpEnd}
    (mem : e ∈ es) (ends : e.end? = some how') : how = how' ∧ es.getLast? = some e := by
  obtain ⟨before, e', rfl, goOn, ends'⟩ := finished.last
  rcases List.mem_append.mp mem with earlier | last
  · rw [goOn e earlier] at ends
    cases ends
  · obtain rfl := List.mem_singleton.mp last
    exact ⟨Option.some.inj (ends'.symm.trans ends), List.getLast?_concat⟩

theorem end?_eq_endOfStream {e : PumpEvent} (h : e.end? = some .endOfStream) :
    e = .read (.bytes []) := by
  unfold end? at h
  split at h <;> first | rfl | cases h

theorem end?_eq_stopped {e : PumpEvent} (h : e.end? = some .stopped) : e = .looked true := by
  unfold end? at h
  split at h <;> first | rfl | cases h

theorem end?_eq_failed {e : PumpEvent} (h : e.end? = some .failed) :
    e = .read .failed ∨ e.refuses = true := by
  unfold end? at h
  split at h <;> first | exact .inl rfl | exact .inr rfl | cases h

theorem end?_of_refuses {e : PumpEvent} (h : e.refuses = true) : e.end? = some .failed := by
  unfold refuses at h
  split at h <;> first | rfl | cases h

theorem Over.relayed (finished : Over start es copied how now) : Relayed start es copied how now := by
  obtain ⟨before, e, shape, goOn, ends⟩ := finished.last
  have mem : e ∈ es := shape ▸ List.mem_append_right _ List.mem_cons_self
  have bounds : now <+: start ++ (chunks es).flatten ∧ start.length + copied ≤ now.length := by
    rcases finished.holds with ⟨-, settled⟩ | ⟨-, last, part, partway⟩
    · exact settled.bounds
    · exact partway.bounds
  refine ⟨bounds.1, bounds.2, ⟨?_, ?_⟩, ⟨?_, ?_⟩, ?_, ?_, finished.last⟩
  · rintro rfl
    exact end?_eq_endOfStream ends ▸ mem
  · exact fun read => (finished.of_mem read rfl).1
  · rintro rfl
    exact end?_eq_stopped ends ▸ mem
  · exact fun looked => (finished.of_mem looked rfl).1
  · intro other
    rcases finished.holds with ⟨-, settled⟩ | ⟨⟨e', mem', refused⟩, -⟩
    · exact settled
    · exact absurd (finished.of_mem mem' (end?_of_refuses refused)).1 other
  · rintro rfl
    rcases finished.holds with ⟨takes, settled⟩ | refused
    · rcases end?_eq_failed ends with rfl | refused
      · exact .inl ⟨mem, settled⟩
      · rw [takes e mem] at refused
        cases refused
    · exact .inr refused

end Ended

/-! ## Any number of steps -/

variable {l : Link ρ} {content : ρ → Bytes} {p : Pump ρ}

theorem over_of_outcome {start : Bytes} {es : List PumpEvent} {copied : Nat} {how : PumpEnd}
    (h : Carries content start es p) (ended : p.outcome? = some (copied, how)) :
    Over start es copied how (content p.link) := by
  rcases p with ⟨s, phase, count⟩
  cases phase with
  | ended how' =>
    cases ended
    exact h
  | _ => cases ended

/-- A pump has ended if one of the events has ended it. -/
theorem outcome?_of_mem {start : Bytes} {es : List PumpEvent} {e : PumpEvent} {how : PumpEnd}
    (h : Carries content start es p) (mem : e ∈ es) (ends : e.end? = some how) :
    p.outcome? = some (p.copied, how) ∧ es.getLast? = some e := by
  have stops {es : List PumpEvent} (goOn : GoOn es) : e ∉ es := by
    intro mem
    rw [goOn e mem] at ends
    cases ends
  rcases p with ⟨s, phase, count⟩
  cases phase with
  | ended how' =>
    obtain ⟨rfl, last⟩ := Over.of_mem h mem ends
    exact ⟨rfl, last⟩
  | looking => exact absurd mem (stops h.1)
  | reading => exact absurd mem (stops h.1)
  | writing size rest => exact absurd mem (stops h.1)

theorem turns_append (flags more : List Bool) :
    p.turns l (flags ++ more) = (p.turns l flags).turns l more :=
  List.foldl_append

theorem turns_ended (flags : List Bool) {how : PumpEnd} (ended : p.phase = .ended how) :
    p.turns l flags = p := by
  induction flags with
  | nil => rfl
  | cons flag flags ih =>
    have step : p.turns l (flag :: flags) = (p.turn l flag).turns l flags := rfl
    rw [step, turn_ended l flag p ended, ih]

/-- A run takes all of its steps, each with what the link shows then. Those after the end change
nothing. -/
theorem run_eq_turns (fuel : Nat) (p : Pump ρ) : run l fuel p = p.turns l (shown l fuel p) := by
  induction fuel generalizing p with
  | zero => rfl
  | succ fuel ih =>
    unfold run
    split
    case h_1 how ended => rw [turns_ended _ ended]
    case h_2 => exact ih _

/-- A move is a step of the relay at its place, if that has a thread, and no step of any other. -/
theorem turns_move {pool : RelayPool ρ} {place : Nat} {t : RelayTask ρ} (m : Nat)
    (found : pool.tasks[place]? = some t) (unasked : t.stop = false) : ∃ u steps,
      (pool.move l m).tasks[place]? = some u ∧ u.stop = false ∧ steps ≤ [m].count place ∧
        u.pump = t.pump.turns l (shown l steps t.pump) := by
  unfold RelayPool.move
  split
  · simp only [List.getElem?_modify, found, Option.map_eq_map, Option.map_some]
    by_cases here : m = place
    · rw [if_pos here, here, List.count_singleton_self]
      refine ⟨_, 1, rfl, unasked, Nat.le_refl _, ?_⟩
      rw [unasked, Bool.false_or]
      rfl
    · rw [if_neg here]
      exact ⟨t, 0, rfl, unasked, Nat.zero_le _, rfl⟩
  · exact ⟨t, 0, found, unasked, Nat.zero_le _, rfl⟩

theorem shown_add (steps more : Nat) (p : Pump ρ) :
    shown l (steps + more) p = shown l steps p ++ shown l more (p.turns l (shown l steps p)) := by
  induction steps generalizing p with
  | zero => rw [Nat.zero_add]; rfl
  | succ steps ih =>
    rw [Nat.succ_add, shown, ih, shown, List.cons_append]
    rfl

/-- A relay that nobody asked to stop has come as far as after some steps of its own, no more than
there were moves for it. -/
theorem turns_moves {pool : RelayPool ρ} {place : Nat} {t : RelayTask ρ} (ms : Moves)
    (found : pool.tasks[place]? = some t) (unasked : t.stop = false) : ∃ u steps,
      (pool.moves l ms).tasks[place]? = some u ∧ steps ≤ ms.count place ∧
        u.pump = t.pump.turns l (shown l steps t.pump) := by
  induction ms generalizing pool t with
  | nil => exact ⟨t, 0, found, Nat.zero_le _, rfl⟩
  | cons m ms ih =>
    obtain ⟨u, steps, found, unasked, few, same⟩ := turns_move m found unasked
    obtain ⟨v, more, found', few', same'⟩ := ih found unasked
    refine ⟨v, steps + more, found', ?_, ?_⟩
    · rw [← List.singleton_append, List.count_append]
      exact Nat.add_le_add few few'
    · rw [same', same, shown_add, turns_append]

/-- What is known of a new pump after any steps. -/
structure Faithful (l : Link ρ) (content : ρ → Bytes) (s : ρ) (flags : List Bool) : Prop where
  returned {copied : Nat} {how : PumpEnd} :
    (turns l flags { link := s }).outcome? = some (copied, how) →
      Relayed (content s) (events l flags { link := s }) copied how
        (content (turns l flags { link := s }).link)
  /-- A read that gives nothing at the moment changes nothing. -/
  retried {flag : Bool} {reading : Reading} :
    (turns l flags { link := s }).event? l flag = some (.read reading) →
      reading = .wouldBlock ∨ reading = .interrupted →
      let after := turns l (flags ++ [flag]) { link := s }
      after.phase = .looking ∧ after.copied = (turns l flags { link := s }).copied ∧
        content after.link = content (turns l flags { link := s }).link
  /-- Once the flag is seen raised the pump has stopped, and does nothing more. -/
  raised : .looked true ∈ events l flags { link := s } →
    (turns l flags { link := s }).outcome? = some ((turns l flags { link := s }).copied, .stopped) ∧
      (events l flags { link := s }).getLast? = some (.looked true)

theorem retried_turn (appends : l.Appends content) {flag : Bool} {reading : Reading}
    (event : p.event? l flag = some (.read reading))
    (again : reading = .wouldBlock ∨ reading = .interrupted) :
    (p.turn l flag).phase = .looking ∧ (p.turn l flag).copied = p.copied ∧
      content (p.turn l flag).link = content p.link := by
  rcases p with ⟨s, phase, count⟩
  have same := appends.read bufferSize s
  unfold event? at event
  split at event
  case h_2 reads =>
    obtain rfl : phase = .reading := reads
    obtain rfl : (l.read bufferSize s).1 = reading :=
      PumpEvent.read.inj (Option.some.inj event)
    unfold turn
    rcases answer : l.read bufferSize s with ⟨reading, s'⟩
    rw [answer] at same again
    rcases again with rfl | rfl
    · exact ⟨rfl, rfl, same⟩
    · exact ⟨rfl, rfl, same⟩
  all_goals cases event

theorem faithful (appends : l.Appends content) (s : ρ) (flags : List Bool) :
    Faithful l content s flags := by
  have fresh : Carries content (content s) [] ({ link := s } : Pump ρ) :=
    ⟨nofun, (List.append_nil _).symm, rfl⟩
  have carried := carries_turns appends flags fresh
  rw [List.nil_append] at carried
  refine ⟨fun ended => (over_of_outcome carried ended).relayed, ?_, ?_⟩
  · intro flag reading event again
    rw [turns_append]
    exact retried_turn appends event again
  · exact fun looked => outcome?_of_mem carried looked rfl

/-- A pump hands on what it reads, in order and each byte once, whatever the source gives, whatever
the sink takes and whenever it is asked to stop. A run of a pump is its steps, with what the link
shows at each of them, and so is what a relay does on a pool. -/
theorem chunks_arrive_in_order (appends : l.Appends content) (s : ρ) :
    (∀ flags, Faithful l content s flags) ∧
      (∀ fuel, run l fuel { link := s } = turns l (shown l fuel { link := s }) { link := s }) ∧
      ∀ (pool : RelayPool ρ) (name : String) (ms : Moves), ∃ t steps,
        ((pool.start name s).2.moves l ms).tasks[(pool.start name s).1]? = some t ∧
          steps ≤ ms.count (pool.start name s).1 ∧
          t.pump = turns l (shown l steps { link := s }) { link := s } := by
  refine ⟨faithful appends s, fun fuel => run_eq_turns fuel _, fun pool name ms => ?_⟩
  have found : (pool.start name s).2.tasks[(pool.start name s).1]? =
      some ⟨name, false, { link := s }⟩ := List.getElem?_concat_length
  exact turns_moves ms found rfl

end Pump

/-! ## Scripted streams -/

namespace Scripted.Stream

/-- The sink of a scripted stream holds what its writes took. -/
theorem appends_link : link.Appends fun s => s.sink.content where
  read count s := rfl
  flush s := rfl
  taken {bs s count} := by
    unfold link SinkState.write
    simp only
    split
    · exact nofun
    · split
      · exact nofun
      · intro same
        cases same
        rfl
  interrupted {bs s} := by
    unfold link SinkState.write
    simp only
    split
    · exact fun _ => rfl
    · split <;> exact nofun
  failed {bs s} := by
    unfold link SinkState.write
    simp only
    split
    · exact nofun
    · split
      · exact fun _ => ⟨[], List.nil_prefix, (List.append_nil _).symm⟩
      · exact nofun

/-- Two chunks with a refused read in between, in front of a sink that takes two bytes at a time and
four in all. -/
def narrow : Stream where
  source := { events := [.data [1, 2, 3], .refuse .wouldBlock, .data [4, 5, 6]] }
  sink := { script := { most := some 2, failsAfter := some 4, interruptions := [1] } }

end Scripted.Stream

open Scripted in
/-- The first chunk is counted, and the sink has one byte of the second one. -/
theorem Pump.chunks_arrive_in_order_narrow :
    let p := Pump.turns Stream.link (List.replicate 16 false) { link := Stream.narrow }
    let es := Pump.events Stream.link (List.replicate 16 false) { link := Stream.narrow }
    Stream.link.Appends (fun s => s.sink.content) ∧ p.outcome? = some (3, .failed) ∧
      p.link.sink.content = [1, 2, 3, 4] ∧ PumpEvent.chunks es = [[1, 2, 3], [4, 5, 6]] ∧
      Pump.Relayed [] es 3 .failed [1, 2, 3, 4] := by
  have ended : (Pump.turns Stream.link (List.replicate 16 false)
      { link := Stream.narrow }).outcome? = some (3, .failed) := by decide
  have faithful := (chunks_arrive_in_order Stream.appends_link Stream.narrow).1
    (List.replicate 16 false)
  exact ⟨Stream.appends_link, ended, by decide, by decide, faithful.returned ended⟩

end Microbench
