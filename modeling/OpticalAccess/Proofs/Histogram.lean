import OpticalAccess.Proofs.Headend.Counting
import Mathlib.Data.List.Induction

/-!
# Reports as histograms

A report of counters is the histogram of the frames that were counted: for each side and direction,
how many of them had a length in each of seven spans. The name of a counter says which span it is.
-/

namespace OpticalAccess

/-! ### Spans of lengths -/

/-- The lengths from the least to the greatest one; without a greatest one, all from there on. -/
structure Span where
  least : Nat
  greatest : Option Nat
  deriving DecidableEq

namespace Span

def all : List Span :=
  [⟨0, some 64⟩, ⟨65, some 127⟩, ⟨128, some 255⟩, ⟨256, some 511⟩, ⟨512, some 1023⟩,
    ⟨1024, some 1518⟩, ⟨1519, none⟩]

/-- The span in the name of a counter. It starts with the least length unless that is zero. -/
def text : Span → String
  | ⟨0, some greatest⟩ => Digits.natText greatest ++ "_pkts"
  | ⟨least, some greatest⟩ =>
    Digits.natText least ++ "_" ++ Digits.natText greatest ++ "_pkts"
  | ⟨least, none⟩ => Digits.natText least ++ "_9k_pkts"

def Holds (s : Span) (length : Nat) : Prop :=
  s.least ≤ length ∧ ∀ greatest ∈ s.greatest, length ≤ greatest

instance (s : Span) (length : Nat) : Decidable (s.Holds length) :=
  inferInstanceAs (Decidable (_ ∧ _))

end Span

namespace SizeBin

def span : SizeBin → Span
  | upTo64 => ⟨0, some 64⟩
  | upTo127 => ⟨65, some 127⟩
  | upTo255 => ⟨128, some 255⟩
  | upTo511 => ⟨256, some 511⟩
  | upTo1023 => ⟨512, some 1023⟩
  | upTo1518 => ⟨1024, some 1518⟩
  | jumbo => ⟨1519, none⟩

theorem map_span : all.map span = Span.all := rfl

theorem label_span (bin : SizeBin) : bin.label = bin.span.text := by
  cases bin <;> decide +kernel

/-- The classes are these spans, so that no length is in two of them. -/
theorem span_holds {bin : SizeBin} {length : Nat} :
    bin.span.Holds length ↔ ofLength length = bin := by
  unfold ofLength Span.Holds
  constructor
  · rintro ⟨least, greatest⟩
    cases bin <;> simp [span] at least greatest <;> repeat' split
    all_goals first | rfl | omega
  · rintro rfl
    repeat' split
    all_goals
      simp [span]
      try omega

theorem mem_all (bin : SizeBin) : bin ∈ all := by cases bin <;> decide

end SizeBin

/-! ### Frames that are counted -/

/-- A frame that crosses a side of a device. -/
structure Crossing where
  side : Side
  direction : Direction
  length : Nat

namespace Crossing

def At (x : Crossing) (side : Side) (direction : Direction) (span : Span) : Prop :=
  x.side = side ∧ x.direction = direction ∧ span.Holds x.length

instance (x : Crossing) (side : Side) (direction : Direction) (span : Span) :
    Decidable (x.At side direction span) :=
  inferInstanceAs (Decidable (_ ∧ _))

def tally (crossings : List Crossing) (side : Side) (direction : Direction) (span : Span) : Nat :=
  crossings.countP fun x => x.At side direction span

/-- The counters of one side in a report, by name: first of what was sent, then of what came. -/
def rows (crossings : List Crossing) (side : Side) : List (String × Int) :=
  [("tx_", Direction.tx), ("rx_", Direction.rx)].flatMap fun (name, direction) =>
    Span.all.map fun span =>
      (name ++ span.text, ↑(min (tally crossings side direction span) 0x7FFFFFFFFFFFFFFF))

end Crossing

namespace Counters

def counted (crossings : List Crossing) : Counters :=
  crossings.foldl (fun c x => c.count x.side x.direction x.length) {}

theorem counted_snoc (crossings : List Crossing) (x : Crossing) :
    counted (crossings ++ [x]) = (counted crossings).count x.side x.direction x.length := by
  rw [counted, List.foldl_append]
  rfl

theorem get_counted (crossings : List Crossing) (side : Side) (direction : Direction)
    (bin : SizeBin) :
    (counted crossings).get side direction bin =
      Crossing.tally crossings side direction bin.span := by
  induction crossings using List.reverseRecOn with
  | nil => cases side <;> cases direction <;> cases bin <;> rfl
  | append_singleton crossings x ih =>
    rw [counted_snoc, count, get_countMany, ih, Crossing.tally, Crossing.tally, List.countP_append,
      List.countP_singleton]
    simp only [Crossing.At, SizeBin.span_holds, decide_eq_true_eq]

theorem metrics_congr {c d : Counters}
    (same : ∀ side direction bin, c.get side direction bin = d.get side direction bin)
    (device : String) : c.metrics device = d.metrics device := by
  simp only [metrics, packets, same]

/-- A counter of a report goes up to the largest number of 64 bits with a sign. -/
theorem reported_toInt (n : Nat) :
    (Int64.ofNat (min n reportLimit)).toInt = ↑(min n 0x7FFFFFFFFFFFFFFF) := by
  have limit : reportLimit = 0x7FFFFFFFFFFFFFFF := by decide
  rw [limit]
  exact Int64.toInt_ofNat_of_lt (by omega)

/-- The counters of a report by name, side by side. -/
theorem metrics_rows (crossings : List Crossing) (device : String) :
    ((counted crossings).metrics device).ports.map
        (fun port => (port.portName, port.packets.map fun k => (k.name, k.value.toInt))) =
      [("pon", Crossing.rows crossings .pon), ("nni", Crossing.rows crossings .nni)] := by
  have row : ∀ side, ((counted crossings).packets side).map (fun k => (k.name, k.value.toInt)) =
      Crossing.rows crossings side := by
    intro side
    simp only [packets, Crossing.rows, ← SizeBin.map_span, Direction.all, Direction.label, name,
      SizeBin.label_span, get_counted, List.flatMap_cons, List.flatMap_nil, List.map_append,
      List.map_map, Function.comp_def, reported_toInt, List.map_nil]
    rfl
  simp [metrics, Side.all, Side.label, row]

end Counters

namespace Crossing

theorem names_rows (crossings : List Crossing) (side : Side) :
    (rows crossings side).map Prod.fst =
      (["tx_", "rx_"].flatMap fun name => Span.all.map fun span => name ++ span.text) := by
  simp [rows, Function.comp_def]

theorem names_distinct :
    (["tx_", "rx_"].flatMap fun name => Span.all.map fun span => name ++ span.text).Nodup := by
  decide +kernel

/-- Every frame belongs to exactly one counter. -/
theorem at_unique (x : Crossing) :
    ∃! key : Side × Direction × Span, key.2.2 ∈ Span.all ∧ x.At key.1 key.2.1 key.2.2 := by
  refine ⟨(x.side, x.direction, (SizeBin.ofLength x.length).span), ⟨?_, rfl, rfl, ?_⟩, ?_⟩
  · rw [← SizeBin.map_span]
    exact List.mem_map_of_mem (SizeBin.mem_all _)
  · exact SizeBin.span_holds.mpr rfl
  · rintro ⟨side, direction, span⟩ ⟨member, rfl, rfl, holds⟩
    rw [← SizeBin.map_span] at member
    obtain ⟨bin, -, rfl⟩ := List.mem_map.mp member
    rw [SizeBin.span_holds.mp holds]

end Crossing

/-- A report that is the histogram of the frames that were counted. -/
structure Metrics.Histogram (m : Metrics) (device : String) (crossings : List Crossing) : Prop where
  device : m.device = device
  /-- The name of each port with the names and values of its counters, in this order. -/
  ports : m.ports.map
      (fun port => (port.portName, port.packets.map fun k => (k.name, k.value.toInt))) =
    [("pon", Crossing.rows crossings .pon), ("nni", Crossing.rows crossings .nni)]
  /-- There are fourteen counters to a port, and no two of them go by the same name. -/
  names : ∀ port ∈ m.ports, port.packets.length = 14 ∧ (port.packets.map (·.name)).Nodup

namespace Counters

theorem metrics_histogram (crossings : List Crossing) (device : String) :
    ((counted crossings).metrics device).Histogram device crossings := by
  have rows := metrics_rows crossings device
  refine ⟨rfl, rows, fun port member => ?_⟩
  obtain ⟨side, same⟩ : ∃ side, port.packets.map (fun k => (k.name, k.value.toInt)) =
      Crossing.rows crossings side := by
    have here := List.mem_map_of_mem (f := fun port : PortMetrics =>
      (port.portName, port.packets.map fun k => (k.name, k.value.toInt))) member
    rw [rows] at here
    simp only [List.mem_cons, Prod.mk.injEq, List.not_mem_nil, or_false] at here
    rcases here with ⟨-, same⟩ | ⟨-, same⟩
    · exact ⟨_, same⟩
    · exact ⟨_, same⟩
  have names : port.packets.map (·.name) = (Crossing.rows crossings side).map Prod.fst := by
    rw [← same, List.map_map]
    rfl
  constructor
  · have length := congrArg List.length same
    simpa [Crossing.rows, Span.all] using length
  · rw [names, Crossing.names_rows]
    exact Crossing.names_distinct

/--
The report of a device is the histogram of the frames that were counted on it, whatever they are
and in whatever order. A frame adds to one counter, and to no other side or direction. (A count is
a natural number here; counts of 64 bits are the same as long as none of them overflows.)
-/
theorem report_is_histogram (device : String) (crossings : List Crossing) :
    let m := (counted crossings).metrics device
    m.Histogram device crossings ∧
      (∀ x : Crossing, ∃! key : Side × Direction × Span,
        key.2.2 ∈ Span.all ∧ x.At key.1 key.2.1 key.2.2) ∧
      (∀ others, crossings.Perm others → (counted others).metrics device = m) ∧
      ∀ x : Crossing, ∀ side direction bin, ¬ (x.side = side ∧ x.direction = direction) →
        ((counted (crossings ++ [x])).metrics device).value? side direction bin =
          m.value? side direction bin := by
  intro m
  refine ⟨metrics_histogram crossings device, Crossing.at_unique, fun others same => ?_,
    fun x side direction bin apart => ?_⟩
  · refine metrics_congr (fun side direction bin => ?_) device
    rw [get_counted, get_counted, Crossing.tally, Crossing.tally, same.countP_eq]
  · have kept : (counted (crossings ++ [x])).get side direction bin =
        (counted crossings).get side direction bin := by
      rw [counted_snoc, count, get_countMany,
        if_neg fun here => apart ⟨here.1, here.2.1⟩, Nat.add_zero]
    rw [Metrics.value?_metrics, Metrics.value?_metrics, kept]

end Counters
end OpticalAccess
