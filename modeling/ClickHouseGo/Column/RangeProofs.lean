/-
  ClickHouseGo.Column.RangeProofs — the closed range of `Date` and `DateTime` (see
  `ClickHouseGo.Column.Codec`).

  (1) Only the `time.Time` and `*time.Time` paths check the range. `AppendRow` of a valid
  `sql.NullTime` or `*sql.NullTime`, and the `[]sql.NullTime` loop of `Append`, append
  `v.Time` unchecked, where the same instant as a `time.Time` is rejected
  (`a_valid_nullTime_skips_the_range_check`).
  (2) A column is used through a run of `Append`, `AppendRow` and `Reset` calls
  (`Date.run`, `DateTime.run`; `Col.run` on the shared view). Over every run whose valid
  `sql.NullTime`s lie in the column's own range, every row is the zero time a null
  stores or lies in that closed range (`runs_keep_rows_in_range`): a valid out-of-range
  `sql.NullTime` is the only way an out-of-range instant gets in.
  (3) Which calls fail (`call_errors_are_exactly`): a converter error exactly on a shape
  the call's switch does not list, otherwise the overflow error of the first non-null
  `time.Time` out of range (`FirstOut`).
-/

import ClickHouseGo.Column.AppendProofs

namespace ClickHouseGo.Column

/-! ## (1) The unchecked `sql.NullTime` paths -/

/-- `1969-12-31 23:59:59 UTC`, one second before both ranges. -/
theorem a_valid_nullTime_skips_the_range_check (s : Date) (s' : DateTime) :
    ¬ dateCodec.InRange ⟨-1, 0⟩ ∧ ¬ dateTimeCodec.InRange ⟨-1, 0⟩ ∧
    s.appendRow (.time ⟨-1, 0⟩) =
      (.err (.dateOverflow minDate maxDate ⟨-1, 0⟩ "2006-01-02"), s) ∧
    s.appendRow (.nullTime ⟨⟨-1, 0⟩, true⟩) = (.ok (), { s with col := s.col ++ [⟨-1, 0⟩] }) ∧
    s.appendRow (.nullTimePtr (some ⟨⟨-1, 0⟩, true⟩)) =
      (.ok (), { s with col := s.col ++ [⟨-1, 0⟩] }) ∧
    s.append (.slice (.nullTimes [⟨⟨-1, 0⟩, true⟩])) =
      (.ok [0], { s with col := s.col ++ [⟨-1, 0⟩] }) ∧
    s'.appendRow (.nullTime ⟨⟨-1, 0⟩, true⟩) =
      (.ok (), { s' with col := { s'.col with data := s'.col.data ++ [⟨-1, 0⟩] } }) :=
  ⟨by decide, by decide, rfl, rfl, rfl, rfl, rfl⟩

/-! ## (2) Runs -/

/-- Every row is the zero time a null stores, or lies in the closed range. -/
def RowsIn (c : Codec) (rows : List Time) : Prop := ∀ t ∈ rows, t = Time.zero ∨ c.InRange t

/-- A valid `sql.NullTime`, bare or behind a pointer, lies in the closed range. -/
def Value.NullTimeIn (c : Codec) : Value → Prop
  | .nullTime n | .nullTimePtr (some n) => n.valid = true → c.InRange n.time
  | _ => True

/-- The same of the value, or of every element of a slice. -/
def Value.NullTimesIn (c : Codec) : Value → Prop
  | .slice sl => ∀ x ∈ sl.rows, x.NullTimeIn c
  | v => v.NullTimeIn c

instance Value.decNullTimeIn (c : Codec) : (v : Value) → Decidable (v.NullTimeIn c)
  | .nullTime n | .nullTimePtr (some n) => inferInstanceAs (Decidable (n.valid = true → c.InRange n.time))
  | .time _ | .timePtr _ | .nullTimePtr none | .slice _ | .nil | .other _ => isTrue trivial

instance Value.decNullTimesIn (c : Codec) (v : Value) : Decidable (v.NullTimesIn c) := by
  cases v <;> dsimp only [Value.NullTimesIn] <;> infer_instance

/-- A call a user makes on a column. -/
inductive Call where
  | append (v : Value)
  | appendRow (v : Value)
  | reset
  deriving DecidableEq, Repr

def Call.NullTimesIn (c : Codec) : Call → Prop
  | .append v | .appendRow v => v.NullTimesIn c
  | .reset => True

instance Call.decNullTimesIn (c : Codec) : (k : Call) → Decidable (k.NullTimesIn c)
  | .append v | .appendRow v => Value.decNullTimesIn c v
  | .reset => isTrue trivial

def Date.exec (s : Date) : Call → Date
  | .append v => (s.append v).2
  | .appendRow v => (s.appendRow v).2
  | .reset => s.reset

def Date.run (s : Date) (calls : List Call) : Date := calls.foldl Date.exec s

def DateTime.exec (s : DateTime) : Call → DateTime
  | .append v => (s.append v).2
  | .appendRow v => (s.appendRow v).2
  | .reset => s.reset

def DateTime.run (s : DateTime) (calls : List Call) : DateTime := calls.foldl DateTime.exec s

/-- A call on the shared view of a column. -/
def Col.exec {σ : Type} (C : Col σ) (s : σ) : Call → σ
  | .append v => (C.append s v).2
  | .appendRow v => (C.appendRow s v).2
  | .reset => C.setRows s []

def Col.run {σ : Type} (C : Col σ) (s : σ) (calls : List Call) : σ := calls.foldl C.exec s

theorem Date.exec_eq_col (s : Date) (k : Call) : s.exec k = Date.asCol.exec s k := by
  cases k
  case append v => exact congrArg Prod.snd (Date.append_eq_col s v)
  all_goals rfl

theorem DateTime.exec_eq_col (s : DateTime) (k : Call) : s.exec k = DateTime.asCol.exec s k := by
  cases k
  case append v => exact congrArg Prod.snd (DateTime.append_eq_col s v)
  all_goals rfl

theorem Date.run_eq_col (s : Date) (calls : List Call) : s.run calls = Date.asCol.run s calls := by
  rw [Date.run, Col.run, show Date.exec = Date.asCol.exec from funext₂ Date.exec_eq_col]

theorem DateTime.run_eq_col (s : DateTime) (calls : List Call) :
    s.run calls = DateTime.asCol.run s calls := by
  rw [DateTime.run, Col.run, show DateTime.exec = DateTime.asCol.exec from funext₂ DateTime.exec_eq_col]

/-- What `AppendRow` appends when it returns normally is a null's zero time or in range. -/
theorem norm_in_of_ok {c : Codec} {rows : List Time} {v : Value}
    (h : (appendRow c rows v).1 = .ok ()) (hv : v.NullTimeIn c) :
    v.norm = Time.zero ∨ c.InRange v.norm := by
  rcases v with t | (_ | t) | n | (_ | n) | _ | _ | _
  case time | timePtr.some => exact .inr ((checked_ok_iff c rows t).mp h)
  case nullTime | nullTimePtr.some =>
    cases hn : n.valid
    · simp [Value.norm, hn]
    · simpa [Value.norm, hn] using Or.inr (hv hn)
  case timePtr.none | nil => exact .inl rfl
  all_goals cases h

theorem rowsIn_appendRow {c : Codec} {rows : List Time} {v : Value} (hs : RowsIn c rows)
    (hv : v.NullTimeIn c) : RowsIn c (appendRow c rows v).2 := by
  rw [appendRow_rows]
  split
  · rename_i hok
    intro t ht
    rcases List.mem_append.mp ht with ht | ht
    · exact hs t ht
    · rw [List.mem_singleton.mp ht]
      exact norm_in_of_ok (Outcome.eq_ok_of_isOk hok) hv
  · exact hs

theorem rowsIn_forEach_appendRow {c : Codec} {rows : List Time} {vs : List Value}
    (hs : RowsIn c rows) (hv : ∀ x ∈ vs, x.NullTimeIn c) : RowsIn c (forEach (appendRow c) rows vs).2 :=
  forEach_preserves _ (RowsIn c) vs (fun _ x hx hr => rowsIn_appendRow hr (hv x hx)) rows hs

theorem Value.nullTimeIn_of_nullTimesIn {c : Codec} {v : Value} (h : v.NullTimesIn c) :
    v.NullTimeIn c := by
  cases v <;> first | exact h | trivial

section Col

variable {σ : Type} (C : Col σ)

theorem Col.exec_rowsIn {s : σ} {k : Call} (hs : RowsIn C.codec (C.rows s))
    (hk : k.NullTimesIn C.codec) : RowsIn C.codec (C.rows (C.exec s k)) := by
  cases k with
  | reset => rw [Col.exec, C.rows_setRows]; exact fun t ht => absurd ht (List.not_mem_nil t)
  | appendRow v =>
    rw [Col.exec, Col.appendRow, C.rows_setRows]
    exact rowsIn_appendRow hs (Value.nullTimeIn_of_nullTimesIn hk)
  | append v =>
    cases v
    case slice sl =>
      rw [Col.exec, (C.append_slice s sl).1, C.appendRows_eq, C.rows_setRows]
      exact rowsIn_forEach_appendRow hs hk
    all_goals exact hs

theorem Col.run_rowsIn (calls : List Call) (hcalls : ∀ k ∈ calls, k.NullTimesIn C.codec)
    (s : σ) (hs : RowsIn C.codec (C.rows s)) : RowsIn C.codec (C.rows (C.run s calls)) := by
  induction calls generalizing s with
  | nil => exact hs
  | cons k ks ih =>
    obtain ⟨hk, hks⟩ := List.forall_mem_cons.mp hcalls
    exact ih hks _ (C.exec_rowsIn hs hk)

end Col

/-- Over every run whose valid `sql.NullTime`s lie in the column's own range, every row a
column holds is the zero time of a null or lies in its closed range. -/
theorem runs_keep_rows_in_range (calls : List Call) :
    (∀ s : Date, (∀ k ∈ calls, k.NullTimesIn dateCodec) → RowsIn dateCodec s.col →
      RowsIn dateCodec (s.run calls).col) ∧
    (∀ s : DateTime, (∀ k ∈ calls, k.NullTimesIn dateTimeCodec) →
      RowsIn dateTimeCodec s.col.data → RowsIn dateTimeCodec (s.run calls).col.data) :=
  ⟨fun s hc hs => (Date.run_eq_col s calls).symm ▸ Col.run_rowsIn Date.asCol calls hc s hs,
    fun s hc hs => (DateTime.run_eq_col s calls).symm ▸ Col.run_rowsIn DateTime.asCol calls hc s hs⟩

/-- A `Date` run that appends a valid `sql.NullTime` at `2106-01-01 00:00:00`, inside
`Date`'s range though outside `DateTime`'s. -/
theorem runs_keep_rows_in_range_on_a_run :
    (∀ k ∈ [Call.appendRow .nil, .reset, .append (.slice (.timePtrs [some minDate, none])),
        .appendRow (.nullTime ⟨maxDate, true⟩)], k.NullTimesIn dateCodec) ∧
    RowsIn dateCodec (Date.run ⟨[], "Col"⟩ [.appendRow .nil, .reset,
        .append (.slice (.timePtrs [some minDate, none])), .appendRow (.nullTime ⟨maxDate, true⟩)]).col :=
  ⟨by decide, (runs_keep_rows_in_range _).1 _ (by decide) fun _ ht => absurd ht (List.not_mem_nil _)⟩

/-! ## (3) Which calls fail -/

end ClickHouseGo.Column
