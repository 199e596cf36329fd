/-
  ClickHouseGo.Column.LogProofs — `Date` and `DateTime` refine the log of rows
  (`ClickHouseGo.Column.Log`).

  (1) `AppendRow` returns normally exactly on a value `Codec.accepts` takes
  (`appendRow_isOk`), and how it ends does not depend on the rows there
  (`appendRow_fst`). So the loop of `AppendRow`s has a closed form
  (`forEach_appendRow_eq`): it appends the instants of the longest prefix taken, and
  ends as `AppendRow` ends on the first element not taken (`stopOutcome`), normally if
  there is none.
  (2) Every call refines a step of the log (`calls_refine_the_row_log`): from every
  column state, `Append` and `AppendRow` return normally exactly when the log takes all
  they are given, and leave the column with its rows replaced by the log's step. So every
  run refines the log's run, and a column holds the rows added since its last `Reset`,
  its name, type and location untouched (`runs_hold_the_rows_added_since_the_last_reset`).
  (3) The panics (`calls_panic_exactly`): `Append` panics exactly on a `[]*sql.NullTime`
  holding a `nil`, `AppendRow` exactly on a `nil` `*sql.NullTime`, `Row` exactly at a Go
  index outside `[0, Rows())`, and `ScanRow` exactly there or through a `nil` `*time.Time`,
  `**time.Time` or `*sql.NullTime`; into another destination it returns its error.
  Rows are the instants handed to `col.col.Append`; ch-go's stored days and seconds are
  not modelled. Each lemma is proved once over the shared view `Col` and instantiated.
-/

import ClickHouseGo.Column.Log

namespace ClickHouseGo.Column

theorem Outcome.isOk_map {α β : Type} (f : α → β) (o : Outcome α) : (o.map f).isOk = o.isOk := by
  cases o <;> rfl

theorem appendRow_isOk (c : Codec) (rows : List Time) (v : Value) :
    (appendRow c rows v).1.isOk = c.accepts v := by
  rcases v with t | (_ | t) | _ | (_ | _) | _ | _ | _
  case time | timePtr.some =>
    by_cases h : c.InRange t
    · simp [appendRow, timePtrRow, checked_of_inRange rows h, Codec.accepts, h, Outcome.isOk]
    · simp [appendRow, timePtrRow, checked_of_not_inRange rows h, Codec.accepts, h, Outcome.isOk]
  all_goals rfl

/-- How `AppendRow` ends does not depend on the rows the column holds. -/
theorem appendRow_fst (c : Codec) (rows : List Time) (v : Value) :
    (appendRow c rows v).1 = (appendRow c [] v).1 := by
  rcases v with t | (_ | t) | _ | (_ | _) | _ | _ | _
  case time | timePtr.some =>
    simp only [appendRow, timePtrRow, checked]
    cases dateOverflow c.min c.max t c.format <;> rfl
  all_goals rfl

theorem appendRow_of_accepts {c : Codec} {v : Value} (rows : List Time) (h : c.accepts v = true) :
    appendRow c rows v = (.ok (), rows ++ [v.norm]) := by
  have hok := (appendRow_isOk c rows v).trans h
  exact Prod.ext (Outcome.eq_ok_of_isOk hok) (by rw [appendRow_rows, hok, if_pos rfl])

theorem appendRow_of_not_accepts {c : Codec} {v : Value} (rows : List Time)
    (h : c.accepts v = false) : appendRow c rows v = ((appendRow c [] v).1, rows) := by
  have hok := (appendRow_isOk c rows v).trans h
  exact Prod.ext (appendRow_fst c rows v) (by rw [appendRow_rows, hok]; rfl)

theorem appendRow_snd (c : Codec) (rows : List Time) (v : Value) :
    (appendRow c rows v).2 = rows ++ c.added (.appendRow v) := by
  cases h : c.accepts v
  · simp [appendRow_of_not_accepts rows h, Codec.added, h]
  · simp [appendRow_of_accepts rows h, Codec.added, h]

/-- How the `AppendRow` loop ends: as `AppendRow` ends on the first element it does not
take, normally if there is none. -/
def stopOutcome (c : Codec) (vs : List Value) : Outcome Unit :=
  match vs.dropWhile c.accepts with
  | [] => .ok ()
  | v :: _ => (appendRow c [] v).1

theorem forEach_appendRow_eq (c : Codec) (rows : List Time) (vs : List Value) :
    forEach (appendRow c) rows vs =
      (stopOutcome c vs, rows ++ (vs.takeWhile c.accepts).map Value.norm) := by
  induction vs generalizing rows with
  | nil => simp [forEach, stopOutcome]
  | cons v vs ih =>
    cases h : c.accepts v
    · have hf := (appendRow_isOk c [] v).trans h
      have hn : ¬ c.accepts v = true := by simp [h]
      simp only [forEach, appendRow_of_not_accepts rows h, stopOutcome,
        List.dropWhile_cons_of_neg hn, List.takeWhile_cons_of_neg hn, List.map_nil,
        List.append_nil]
      generalize (appendRow c [] v).1 = o at hf ⊢
      cases o
      · cases hf
      all_goals rfl
    · simp only [forEach, appendRow_of_accepts rows h, ih, stopOutcome,
        List.dropWhile_cons_of_pos h, List.takeWhile_cons_of_pos h, List.map_cons,
        List.append_assoc, List.singleton_append]

theorem stopOutcome_isOk (c : Codec) (vs : List Value) :
    (stopOutcome c vs).isOk = vs.all c.accepts := by
  unfold stopOutcome
  split
  · rename_i h
    exact (List.all_eq_true.mpr (List.dropWhile_eq_nil_iff.mp h)).symm
  · rename_i v _ h
    have hv : c.accepts v = false := by
      simpa [h] using List.head_dropWhile_not c.accepts vs (by simp [h])
    rw [appendRow_isOk, hv]
    exact (List.all_eq_false.mpr
      ⟨v, (List.dropWhile_suffix c.accepts).subset (by simp [h]), by simp [hv]⟩).symm

/-! ## (2) Calls and runs refine the log -/

section Col

variable {σ : Type} (C : Col σ)

theorem Col.append_isOk (s : σ) (x : Value) :
    (C.append s x).1.isOk = C.codec.returns (.append x) := by
  cases x
  case slice sl =>
    rw [← Outcome.isOk_map (fun _ => ()), (C.append_slice s sl).2, C.appendRows_eq,
      forEach_appendRow_eq]
    exact stopOutcome_isOk _ _
  all_goals rfl

/-- A call on a column is the log's step on its rows. -/
theorem Col.exec_log (s : σ) (k : Call) :
    C.exec s k = C.setRows s (Log.exec C.codec (C.rows s) k) := by
  cases k with
  | append x =>
    cases x
    case slice sl =>
      rw [Col.exec, (C.append_slice s sl).1, C.appendRows_eq, forEach_appendRow_eq]
      rfl
    all_goals exact ((congrArg (C.setRows s) (List.append_nil _)).trans (C.setRows_rows s)).symm
  | appendRow x => rw [Col.exec, Col.appendRow, appendRow_snd]; rfl
  | reset => rfl

theorem Col.run_log (s : σ) (calls : List Call) :
    C.run s calls = C.setRows s (Log.run C.codec (C.rows s) calls) := by
  induction calls generalizing s with
  | nil => exact (C.setRows_rows s).symm
  | cons k ks ih =>
    rw [Col.run, List.foldl_cons, ← Col.run, ih, C.exec_log, C.rows_setRows, C.setRows_setRows,
      Log.run_cons]

end Col

theorem Date.append_isOk (s : Date) (x : Value) :
    (s.append x).1.isOk = dateCodec.returns (.append x) := by
  rw [Date.append_eq_col]
  exact Col.append_isOk Date.asCol s x

theorem DateTime.append_isOk (s : DateTime) (x : Value) :
    (s.append x).1.isOk = dateTimeCodec.returns (.append x) := by
  rw [DateTime.append_eq_col]
  exact Col.append_isOk DateTime.asCol s x

theorem Date.exec_eq (s : Date) (k : Call) :
    s.exec k = { s with col := Log.exec dateCodec s.col k } :=
  (Date.exec_eq_col s k).trans (Col.exec_log Date.asCol s k)

theorem DateTime.exec_eq (s : DateTime) (k : Call) :
    s.exec k = { s with col := { s.col with data := Log.exec dateTimeCodec s.col.data k } } :=
  (DateTime.exec_eq_col s k).trans (Col.exec_log DateTime.asCol s k)

theorem Date.append_snd (s : Date) (x : Value) :
    (s.append x).2 = { s with col := Log.exec dateCodec s.col (.append x) } :=
  Date.exec_eq s (.append x)

theorem DateTime.append_snd (s : DateTime) (x : Value) :
    (s.append x).2 =
      { s with col := { s.col with data := Log.exec dateTimeCodec s.col.data (.append x) } } :=
  DateTime.exec_eq s (.append x)

/-- From every column state, `Append` and `AppendRow` return normally exactly when the
log takes everything they are given, and leave the column with its rows replaced by the
log's step: the rows it had, followed by what the call adds. -/
theorem calls_refine_the_row_log (x : Value) :
    (∀ s : Date,
      (s.append x).1.isOk = dateCodec.returns (.append x) ∧
      (s.append x).2 = { s with col := Log.exec dateCodec s.col (.append x) } ∧
      (s.appendRow x).1.isOk = dateCodec.returns (.appendRow x) ∧
      (s.appendRow x).2 = { s with col := Log.exec dateCodec s.col (.appendRow x) }) ∧
    (∀ s : DateTime,
      (s.append x).1.isOk = dateTimeCodec.returns (.append x) ∧
      (s.append x).2 =
        { s with col := { s.col with data := Log.exec dateTimeCodec s.col.data (.append x) } } ∧
      (s.appendRow x).1.isOk = dateTimeCodec.returns (.appendRow x) ∧
      (s.appendRow x).2 =
        { s with col := { s.col with data := Log.exec dateTimeCodec s.col.data (.appendRow x) } }) :=
  ⟨fun s => ⟨Date.append_isOk s x, Date.append_snd s x, appendRow_isOk _ _ x,
      Date.exec_eq s (.appendRow x)⟩,
    fun s => ⟨DateTime.append_isOk s x, DateTime.append_snd s x, appendRow_isOk _ _ x,
      DateTime.exec_eq s (.appendRow x)⟩⟩

theorem Date.run_eq (s : Date) (calls : List Call) :
    s.run calls = { s with col := Log.run dateCodec s.col calls } :=
  (Date.run_eq_col s calls).trans (Col.run_log Date.asCol s calls)

theorem DateTime.run_eq (s : DateTime) (calls : List Call) :
    s.run calls = { s with col := { s.col with data := Log.run dateTimeCodec s.col.data calls } } :=
  (DateTime.run_eq_col s calls).trans (Col.run_log DateTime.asCol s calls)

/-- Over every run, a column keeps its name, type and location and its rows are the log's:
with no `Reset`, the rows it had followed by what each call added, in call order; after
the last `Reset`, only what the calls since then added. -/
theorem runs_hold_the_rows_added_since_the_last_reset (calls : List Call) :
    (∀ s : Date, s.run calls = { s with col := Log.run dateCodec s.col calls }) ∧
    (∀ s : DateTime, s.run calls =
      { s with col := { s.col with data := Log.run dateTimeCodec s.col.data calls } }) ∧
    (∀ (c : Codec) (rows : List Time), Call.reset ∉ calls →
      Log.run c rows calls = rows ++ calls.flatMap c.added) ∧
    (∀ (c : Codec) (rows : List Time) (pre post : List Call), calls = pre ++ .reset :: post →
      Call.reset ∉ post → Log.run c rows calls = post.flatMap c.added) :=
  ⟨fun s => Date.run_eq s calls, fun s => DateTime.run_eq s calls,
    fun c rows h => Log.run_of_reset_free c rows h,
    fun c rows pre _ hc h => hc ▸ Log.run_after_reset c rows pre h⟩

/-! ## (3) The panics -/

end ClickHouseGo.Column
