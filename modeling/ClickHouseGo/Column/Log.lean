/-
  ClickHouseGo.Column.Log — what a `Date` or `DateTime` column is for, stated without its
  loops: the instants of the rows it has taken since its last `Reset`, in call order.

  A value is taken (`Codec.accepts`) when `AppendRow`'s switch lists its type, it is not
  a `nil` `*sql.NullTime`, and, when it is a set `time.Time`, it lies in the closed
  range. A call adds (`Codec.added`) its value's instant when the value is taken, and
  `Append` of a slice adds the instants of its elements up to the first one not taken;
  what a call adds depends on its input alone, never on the rows already there. A call
  returns normally (`Codec.returns`) when it takes all it is given. `Reset` empties the
  log.

  - `Log.run_of_reset_free`: a run with no `Reset` leaves the rows there, followed by
    what each call added, in call order.
  - `Log.run_after_reset`: after the last `Reset` of a run, only what the calls since
    then added.
  `ClickHouseGo.Column.LogProofs` proves that `Date` and `DateTime` refine this model.
-/

import ClickHouseGo.Column.RangeProofs

namespace ClickHouseGo.Column

/-- Whether a column takes `v` as a row. -/
def Codec.accepts (c : Codec) : Value → Bool
  | .time t | .timePtr (some t) => decide (c.InRange t)
  | .timePtr none | .nullTime _ | .nullTimePtr (some _) | .nil => true
  | .nullTimePtr none | .slice _ | .other _ => false

/-- The rows a call adds to a column, whatever rows it held. -/
def Codec.added (c : Codec) : Call → List Time
  | .append (.slice sl) => (sl.rows.takeWhile c.accepts).map Value.norm
  | .appendRow v => if c.accepts v then [v.norm] else []
  | _ => []

/-- Whether a call returns normally: it takes everything it is given. -/
def Codec.returns (c : Codec) : Call → Bool
  | .append (.slice sl) => sl.rows.all c.accepts
  | .append _ => false
  | .appendRow v => c.accepts v
  | .reset => true

namespace Log

/-- One call on the log of rows. -/
def exec (c : Codec) (rows : List Time) : Call → List Time
  | .reset => []
  | k => rows ++ c.added k

def run (c : Codec) (rows : List Time) (calls : List Call) : List Time :=
  calls.foldl (exec c) rows

@[simp] theorem run_nil (c : Codec) (rows : List Time) : run c rows [] = rows := rfl

@[simp] theorem run_cons (c : Codec) (rows : List Time) (k : Call) (ks : List Call) :
    run c rows (k :: ks) = run c (exec c rows k) ks := rfl

theorem exec_of_ne_reset (c : Codec) (rows : List Time) {k : Call} (h : k ≠ .reset) :
    exec c rows k = rows ++ c.added k := by
  cases k
  case reset => exact absurd rfl h
  all_goals rfl

theorem run_of_reset_free (c : Codec) (rows : List Time) {calls : List Call}
    (h : Call.reset ∉ calls) : run c rows calls = rows ++ calls.flatMap c.added := by
  induction calls generalizing rows with
  | nil => simp
  | cons k ks ih =>
    rw [List.mem_cons, not_or] at h
    rw [run_cons, exec_of_ne_reset c rows (Ne.symm h.1), ih _ h.2, List.flatMap_cons,
      List.append_assoc]

theorem run_after_reset (c : Codec) (rows : List Time) (pre : List Call) {post : List Call}
    (h : Call.reset ∉ post) : run c rows (pre ++ .reset :: post) = post.flatMap c.added := by
  rw [run, List.foldl_append, List.foldl_cons]
  exact (run_of_reset_free c [] h).trans (List.nil_append _)

end Log

end ClickHouseGo.Column
