import Microbench.Proofs.Disk.Places
import Microbench.Record.Writer

/-!
# What writing rows keeps

A record writer reaches what stands behind its sink through the sink alone. So what the sink keeps,
whatever it is offered and however it answers, a writer keeps, whether its row is written or not. The
sink of a file keeps what stands at every other place of the disk.
-/

namespace Microbench

variable {ω α : Type}

/-- A sink that keeps a property of what stands behind it, whatever it is offered. -/
def Sink.Keeps (sink : Sink ω) (P : ω → Prop) : Prop :=
  ∀ bytes w, P w → P ((sink.accept bytes).run w).2

namespace Buffered

variable {sink : Sink ω} {P : ω → Prop}

theorem preserves_offer (keeps : sink.Keeps P) (bytes : Bytes) :
    Preserves (fun s => P s.2) (offer sink bytes) := fun s holds => keeps bytes s.2 holds

theorem preserves_hold (bytes : Bytes) :
    Preserves (fun s : Bytes × ω => P s.2) (hold bytes) := fun _ holds => holds

/-- By induction on how much is left to be handed on. -/
theorem preserves_direct (keeps : sink.Keeps P) (bytes : Bytes) :
    Preserves (fun s => P s.2) (direct sink bytes) := by
  induction size : bytes.length using Nat.strongRecOn generalizing bytes with
  | ind length ih =>
    rw [direct]
    by_cases nothing : bytes.isEmpty = true
    · rw [dif_pos nothing]
      exact .pure _
    · rw [dif_neg nothing]
      refine (preserves_offer keeps bytes).bind fun n => ?_
      by_cases none : n = 0
      · rw [dif_pos none]
        exact .throw _
      · rw [dif_neg none]
        have some : bytes.length ≠ 0 := by simpa [List.isEmpty_iff] using nothing
        refine ih _ ?_ (bytes.drop n) rfl
        rw [List.length_drop]
        omega

theorem preserves_drainFrom (keeps : sink.Keeps P) (bytes : Bytes) :
    Preserves (fun s => P s.2) (drainFrom sink bytes) := by
  induction size : bytes.length using Nat.strongRecOn generalizing bytes with
  | ind length ih =>
    have waiting : ∀ bytes, Preserves (fun s : Bytes × ω => P s.2)
        (modify fun s => (bytes, s.2) : Action ω PUnit) := fun _ _ holds => holds
    rw [drainFrom]
    by_cases nothing : bytes.isEmpty = true
    · rw [dif_pos nothing]
      exact waiting []
    · rw [dif_neg nothing]
      refine (waiting bytes).bind fun _ => (preserves_offer keeps bytes).bind fun n => ?_
      by_cases none : n = 0
      · rw [dif_pos none]
        exact .throw _
      · rw [dif_neg none]
        have some : bytes.length ≠ 0 := by simpa [List.isEmpty_iff] using nothing
        refine ih _ ?_ (bytes.drop n) rfl
        rw [List.length_drop]
        omega

theorem preserves_drain (keeps : sink.Keeps P) : Preserves (fun s => P s.2) (drain sink) :=
  Preserves.get.bind fun _ => preserves_drainFrom keeps _

theorem preserves_put (keeps : sink.Keeps P) (piece : Bytes) :
    Preserves (fun s => P s.2) (put sink piece) := by
  have last : Preserves (fun s => P s.2)
      (if capacity ≤ piece.length then direct sink piece else hold piece) := by
    split
    · exact preserves_direct keeps piece
    · exact preserves_hold piece
  refine Preserves.get.bind fun s => ?_
  dsimp only
  split
  · exact preserves_hold piece
  · split
    · exact (preserves_drain keeps).bind fun _ => last
    · exact last

theorem preserves_putAll (keeps : sink.Keeps P) (pieces : List Bytes) :
    Preserves (fun s => P s.2) (putAll sink pieces) := by
  have each : Preserves (fun s => P s.2) (pieces.forM (put sink)) := by
    induction pieces with
    | nil => exact .pure _
    | cons piece pieces ih => exact (preserves_put keeps piece).bind fun _ => ih
  exact each.bind fun _ => preserves_drain keeps

end Buffered

namespace RecordWriter

variable {sink : Sink ω} {P : ω → Prop}

theorem preserves_buffered {x : Buffered.Action ω α} (keeps : Preserves (fun s => P s.2) x) :
    Preserves (fun s => P s.2) (buffered x) := fun s holds => keeps (s.1.pending, s.2) holds

theorem preserves_writeRow (keeps : sink.Keeps P) (cells : List String) :
    Preserves (fun s => P s.2) (writeRow sink cells) := by
  refine (preserves_buffered (Buffered.preserves_putAll keeps _)).bind fun _ => ?_
  -- the row is counted in the writer, not behind the sink
  exact fun _ holds => holds

end RecordWriter

/-- What stands anywhere but at a place is what stood there. -/
def Disk.SameBut (place : List String) (d d' : Disk) : Prop :=
  ∀ p, p ≠ place → d'.node? p = d.node? p

namespace Access

variable {place : List String} {d : Disk}

theorem sameBut_put (file : d.node? place ≠ some .directory) (node : Node) :
    d.SameBut place (d.put place node) := by
  have below : place ≠ [] := by
    intro root
    rw [root] at file
    exact file rfl
  intro p other
  rw [Disk.node?_put d below, if_neg other]

theorem sameBut_append (place : List String) (bytes : Bytes) (d : Disk) :
    d.SameBut place ((append place bytes).run d).2 := by
  have started := disk_begin d
  rcases ran : begin.run d with ⟨answer, d'⟩
  rw [ran] at started
  obtain rfl : d' = d.counted := started
  have got : (get : Access Disk).run d.counted = (.ok d.counted, d.counted) := rfl
  unfold append
  cases answer with
  | error e =>
    rw [run_bind_of_error ran]
    exact fun _ _ => rfl
  | ok _ =>
    rw [run_bind_of_ok ran, run_bind_of_ok got]
    split
    · rename_i content stands
      refine sameBut_put (d := d.counted) ?_ _
      rw [stands]
      nofun
    · exact fun _ _ => rfl

/-- Whatever the sink of a file does, it does at the place of the file. -/
theorem keeps_sink (place : List String) (d : Disk) : (sink place).Keeps (d.SameBut place) := by
  intro bytes d' same p other
  rw [← same p other]
  have added := sameBut_append place bytes d' p other
  rcases ran : (append place bytes).run d' with ⟨answer, d''⟩
  rw [ran] at added
  unfold sink
  cases answer with
  | error e =>
    rw [run_bind_of_error ran]
    exact added
  | ok _ =>
    rw [run_bind_of_ok ran]
    exact added

end Access

end Microbench
