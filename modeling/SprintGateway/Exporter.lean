import Mathlib.Data.List.Basic

/- The transactions-per-second gauge of the Solana metrics exporter
   (`solana-metrics-exporter.py`), over every sequence of collection rounds.

   `SolanaMetricsCollector` keeps, between rounds, the last transaction count it read and
   the time it read it. Each round, `collect_transaction_count` asks the node for
   `getTransactionCount`; when the answer has a `result` it sets the count gauge and, if
   the clock moved forward since the kept sample and the kept count is positive, sets the
   TPS gauge from the kept sample and the new one; then it keeps the new sample. A round
   whose call fails (an error status, an exception, or an answer without `result`) changes
   nothing. The rounds run one after another (`collect_metrics` awaits each `gather`
   before it sleeps) and no other collector touches this state, so a run is a fold of the
   rounds.

   What is proved:
     `collectRun_eq` — after any sequence of rounds, from any state, the kept sample is the
     last answered one, the count gauge holds the last answered count, and the TPS gauge
     was set from the last pair of consecutive answered samples (the kept one first) whose
     times increase and whose first count is positive, or keeps its earlier value if no
     pair qualifies: the round-by-round computation is the declarative one over the
     history. A failed round neither moves the baseline nor splits the interval a rate
     spans; a clock that steps back skips the rate but moves the baseline.

   ── PROVED vs ASSUMED ──────────────────────────────────────────────────────────
   A clock reading is a natural number: the code only subtracts two readings and tests the
   difference against 0 (for finite doubles `a - b > 0` exactly when `a > b`) before
   dividing by it. The TPS gauge is modelled by the two samples it is set from; the float
   division `(tx_count - self.last_tx_count) / time_diff` is not modelled. A `result` is a
   non-negative integer, as `getTransactionCount` returns.

   Correspondence (Python ↔ Lean):
     `self.last_tx_count`, `self.last_update`       ↔ `Collector.kept`
     `solana_transaction_count`, `solana_tps`        ↔ `Collector.txGauge`, `Collector.tpsGauge`
     one answer of `getTransactionCount` and its `time.time()` ↔ `Round`
     `collect_transaction_count`                     ↔ `collectTransactionCount`
-/
namespace SprintGateway

/-! ## The collector -/

/-- A transaction count and the time it was read. -/
structure TxSample where
  count : Nat
  time : Nat
  deriving DecidableEq, Repr

/-- One round of `collect_transaction_count`: the call failed or its answer had no
`result`, or it answered with a sample. -/
inductive Round where
  | failed
  | answered (s : TxSample)
  deriving DecidableEq, Repr

/-- What the TPS gauge is set from: the kept sample and the new one. -/
structure Rate where
  since : TxSample
  upto : TxSample
  deriving DecidableEq, Repr

/-- `time_diff > 0 and self.last_tx_count > 0`. -/
def Rate.Counts (r : Rate) : Prop := r.since.time < r.upto.time ∧ 0 < r.since.count

instance (r : Rate) : Decidable r.Counts := inferInstanceAs (Decidable (_ ∧ _))

/-- The collector's state and the two gauges it sets, `none` while never set. -/
structure Collector where
  kept : TxSample
  txGauge : Option Nat
  tpsGauge : Option Rate
  deriving DecidableEq, Repr

/-- `SolanaMetricsCollector(rpc_url)` created at time `t₀`: `last_tx_count = 0`,
`last_update = time.time()`. -/
def collectorInit (t₀ : Nat) : Collector := ⟨⟨0, t₀⟩, none, none⟩

/-- `collect_transaction_count`. -/
def collectTransactionCount (c : Collector) : Round → Collector
  | .failed => c
  | .answered s =>
    { kept := s
      txGauge := some s.count
      tpsGauge := if (⟨c.kept, s⟩ : Rate).Counts then some ⟨c.kept, s⟩ else c.tpsGauge }

/-- The rounds of a run, one after another. -/
def collectRun (c : Collector) (rounds : List Round) : Collector :=
  rounds.foldl collectTransactionCount c

/-! ## The history, declaratively -/

def Round.sample? : Round → Option TxSample
  | .failed => none
  | .answered s => some s

/-- The answered samples of a run, in order. -/
def answers (rounds : List Round) : List TxSample := rounds.filterMap Round.sample?

/-- The pairs of consecutive samples. -/
def consecutive : List TxSample → List Rate
  | a :: b :: rest => ⟨a, b⟩ :: consecutive (b :: rest)
  | _ => []

theorem getLast?_cons_eq_or {α : Type} (x : α) (l : List α) :
    (x :: l).getLast? = l.getLast?.or (some x) := by
  cases h : l.getLast? <;> simp [List.getLast?_cons, h]

theorem getLast_cons_cons {α : Type} (x y : α) (l : List α) :
    (x :: y :: l).getLast (List.cons_ne_nil _ _) = (y :: l).getLast (List.cons_ne_nil _ _) :=
  List.getLast_cons _

/-- After any rounds, from any state: the kept sample is the last answered one, the count
gauge the last answered count, and the TPS gauge is set from the last qualifying pair of
consecutive samples, the kept one first, or is as it was. -/
theorem collectRun_eq (c : Collector) (rounds : List Round) :
    collectRun c rounds =
      { kept := (c.kept :: answers rounds).getLast (List.cons_ne_nil _ _)
        txGauge := ((answers rounds).getLast?.map TxSample.count).or c.txGauge
        tpsGauge := (((consecutive (c.kept :: answers rounds)).filter
          fun r => decide r.Counts).getLast?).or c.tpsGauge } := by
  induction rounds generalizing c with
  | nil => simp [collectRun, answers, consecutive]
  | cons r rounds ih =>
    cases r with
    | failed => simpa [collectRun, answers, Round.sample?] using ih c
    | answered s =>
      rw [show collectRun c (.answered s :: rounds) =
        collectRun (collectTransactionCount c (.answered s)) rounds from rfl, ih]
      simp only [collectTransactionCount, answers, List.filterMap_cons, Round.sample?,
        Collector.mk.injEq]
      refine ⟨(getLast_cons_cons _ _ _).symm, ?_, ?_⟩
      · rw [getLast?_cons_eq_or]
        cases (List.filterMap Round.sample? rounds).getLast? <;> rfl
      · -- the pair the kept sample forms with `s` comes before every later pair
        rw [consecutive, List.filter_cons]
        by_cases hc : (⟨c.kept, s⟩ : Rate).Counts
        · simp only [hc, decide_True, if_true, getLast?_cons_eq_or, Option.or_assoc, Option.or_some]
        · simp only [hc, decide_False, if_false, Bool.false_eq_true]

end SprintGateway
