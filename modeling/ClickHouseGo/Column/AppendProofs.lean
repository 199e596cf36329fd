/-
  ClickHouseGo.Column.AppendProofs — `Append` against `AppendRow`, for `Date` and
  `DateTime` (see `ClickHouseGo.Column.Date`, `ClickHouseGo.Column.DateTime`). Rows are
  the instants the code hands to `col.col.Append` (ch-go's stored days and seconds are
  not modelled); the lemmas are proved once over the shared view `Col`
  (`ClickHouseGo.Column.Shared`) and instantiated.

  (1) The bulk path refines the row path (`append_refines_appendRow_sequence`): for
  every slice shape, slice and column, `Append` ends where `AppendRow` on the elements
  in order, stopping at the first that does not return normally, ends; it returns an
  error or panics exactly when that sequence does; on success the rows grow by the
  elements' instants. The `[]sql.NullTime` loops drop `AppendRow`'s error, which is
  harmless because `AppendRow` never fails on an `sql.NullTime`.
  (2) A failed call (`failed_append_keeps_earlier_rows`): `AppendRow` leaves the column
  as it was; `Append` leaves it as it was on an input that is not a slice, and on a slice
  keeps the rows of the elements before the one rejected: there is no rollback
  (`a_rejected_slice_keeps_its_first_row`).
  (3) The null indicator. It is one flag per element, 1 only at nulls, on every shape but
  `Date`'s `[]time.Time` (`append_nulls_flag_only_nulls`).
  `append_null_indicator_diverges`: `Date`'s `[]time.Time` returns `nil`, invalid
  `sql.NullTime`s are flagged 0, and a `nil` `*sql.NullTime` panics.
-/

import Mathlib.Data.List.Forall2
import ClickHouseGo.Column.Shared

namespace ClickHouseGo.Column

/-! ## Each loop of `Append` is the `AppendRow` loop -/

section Loops

variable (c : Codec) (rows : List Time)

theorem forEach_times (v : List Time) :
    forEach (checked c) rows v = forEach (appendRow c) rows (Slice.times v).rows := by
  rw [Slice.rows, forEach_map]; rfl

theorem forEach_timePtrs (v : List (Option Time)) :
    forEach (timePtrRow c) rows v = forEach (appendRow c) rows (Slice.timePtrs v).rows := by
  rw [Slice.rows, forEach_map]; rfl

theorem forEach_nullTimes (v : List NullTime) :
    forEach (fun rows n => dropErr (appendRow c rows (.nullTime n))) rows v =
      forEach (appendRow c) rows (Slice.nullTimes v).rows := by
  rw [Slice.rows, forEach_map]; rfl

theorem forEach_nullTimePtrs (v : List (Option NullTime)) :
    forEach (fun rows p => dropErr (appendRow c rows (.nullTimePtr p))) rows v =
      forEach (appendRow c) rows (Slice.nullTimePtrs v).rows := by
  rw [Slice.rows, forEach_map]
  congr 1
  funext rows p
  cases p <;> rfl

/-- On success the `AppendRow` loop appends the instant of every element. -/
theorem forEach_appendRow_ok (vs : List Value) (h : (forEach (appendRow c) rows vs).1 = .ok ()) :
    (forEach (appendRow c) rows vs).2 = rows ++ vs.map Value.norm :=
  forEach_ok_rows _ _ (appendRow_rows c) rows vs h

end Loops

/-! ## `Append` of a slice over the shared view -/

section Col

variable {σ : Type} (C : Col σ)

theorem Col.append_slice (s : σ) (sl : Slice) :
    (C.append s (.slice sl)).2 = (C.appendRows s sl.rows).2 ∧
      (C.append s (.slice sl)).1.map (fun _ => ()) = (C.appendRows s sl.rows).1 := by
  rw [C.appendRows_eq]
  cases sl <;>
    simp only [Col.append, Col.finish, forEach_times, forEach_timePtrs, forEach_nullTimes,
      forEach_nullTimePtrs, Outcome.map_const_unit, and_self]

theorem Col.append_ok_rows (s : σ) (sl : Slice) {nulls : List UInt8}
    (h : (C.append s (.slice sl)).1 = .ok nulls) :
    C.rows (C.append s (.slice sl)).2 = C.rows s ++ sl.rows.map Value.norm := by
  obtain ⟨h2, h1⟩ := C.append_slice s sl
  rw [C.appendRows_eq] at h1 h2
  rw [h2, C.rows_setRows]
  exact forEach_appendRow_ok _ _ _ (by rw [← h1, h]; rfl)

end Col

theorem Date.append_slice (s : Date) (sl : Slice) :
    (s.append (.slice sl)).2 = (s.appendRows sl.rows).2 ∧
      (s.append (.slice sl)).1.map (fun _ => ()) = (s.appendRows sl.rows).1 := by
  rw [Date.append_eq_col]
  exact Col.append_slice Date.asCol s sl

theorem DateTime.append_slice (s : DateTime) (sl : Slice) :
    (s.append (.slice sl)).2 = (s.appendRows sl.rows).2 ∧
      (s.append (.slice sl)).1.map (fun _ => ()) = (s.appendRows sl.rows).1 := by
  rw [DateTime.append_eq_col]
  exact Col.append_slice DateTime.asCol s sl

theorem Date.append_ok_col (s : Date) (sl : Slice) {nulls : List UInt8}
    (h : (s.append (.slice sl)).1 = .ok nulls) :
    (s.append (.slice sl)).2.col = s.col ++ sl.rows.map Value.norm := by
  rw [Date.append_eq_col] at h ⊢
  exact Col.append_ok_rows Date.asCol s sl h

theorem DateTime.append_ok_data (s : DateTime) (sl : Slice) {nulls : List UInt8}
    (h : (s.append (.slice sl)).1 = .ok nulls) :
    (s.append (.slice sl)).2.col.data = s.col.data ++ sl.rows.map Value.norm := by
  rw [DateTime.append_eq_col] at h ⊢
  exact Col.append_ok_rows DateTime.asCol s sl h

/-! ## (1) The bulk path refines the row path -/

/-- `Append` of a slice ends in the state, and with the outcome up to the indicator, of
`AppendRow` on its elements in order; on success the column's rows, the instants handed
to `col.col.Append`, grow by the elements' instants. -/
theorem append_refines_appendRow_sequence (sl : Slice) :
    (∀ s : Date,
      (s.append (.slice sl)).2 = (s.appendRows sl.rows).2 ∧
      (s.append (.slice sl)).1.map (fun _ => ()) = (s.appendRows sl.rows).1 ∧
      ∀ nulls, (s.append (.slice sl)).1 = .ok nulls →
        (s.append (.slice sl)).2.col = s.col ++ sl.rows.map Value.norm) ∧
    (∀ s : DateTime,
      (s.append (.slice sl)).2 = (s.appendRows sl.rows).2 ∧
      (s.append (.slice sl)).1.map (fun _ => ()) = (s.appendRows sl.rows).1 ∧
      ∀ nulls, (s.append (.slice sl)).1 = .ok nulls →
        (s.append (.slice sl)).2.col.data = s.col.data ++ sl.rows.map Value.norm) :=
  ⟨fun s => ⟨(Date.append_slice s sl).1, (Date.append_slice s sl).2,
      fun _ h => Date.append_ok_col s sl h⟩,
    fun s => ⟨(DateTime.append_slice s sl).1, (DateTime.append_slice s sl).2,
      fun _ h => DateTime.append_ok_data s sl h⟩⟩

/-! ## (2) A failed call -/

theorem appendRow_err_rows {c : Codec} {rows : List Time} {v : Value} {e : Error}
    (h : (appendRow c rows v).1 = .err e) : (appendRow c rows v).2 = rows := by
  rw [appendRow_rows, h]; rfl

/-- A failed `Append` of a slice stopped at an element `AppendRow` rejects, after the
row path ran the elements before it. -/
theorem forEach_appendRow_err (c : Codec) (rows : List Time) (vs : List Value) {e : Error}
    (h : (forEach (appendRow c) rows vs).1 = .err e) :
    ∃ pre y post, vs = pre ++ y :: post ∧
      forEach (appendRow c) rows pre = (.ok (), rows ++ pre.map Value.norm) ∧
      appendRow c (rows ++ pre.map Value.norm) y = (.err e, rows ++ pre.map Value.norm) ∧
      (forEach (appendRow c) rows vs).2 = rows ++ pre.map Value.norm := by
  obtain ⟨pre, y, post, t, rfl, hpre, hy⟩ := forEach_stop _ rows vs (by rw [h]; rfl)
  have ht : t = rows ++ pre.map Value.norm := by
    simpa [hpre] using forEach_appendRow_ok c rows pre (by rw [hpre])
  subst ht
  have hy1 : (appendRow c (rows ++ pre.map Value.norm) y).1 = .err e := by rw [hy, h]
  exact ⟨pre, y, post, rfl, hpre, Prod.ext hy1 (appendRow_err_rows hy1),
    by rw [← hy, appendRow_err_rows hy1]⟩

section Col

variable {σ : Type} (C : Col σ)

theorem Col.appendRow_err {s : σ} {x : Value} {e : Error} (h : (C.appendRow s x).1 = .err e) :
    (C.appendRow s x).2 = s := by
  rw [Col.appendRow, appendRow_err_rows h, C.setRows_rows]

theorem Col.append_err {s : σ} {x : Value} {e : Error} (h : (C.append s x).1 = .err e) :
    ((∀ sl, x ≠ .slice sl) ∧ (C.append s x).2 = s) ∨
    ∃ sl pre y post, x = .slice sl ∧ sl.rows = pre ++ y :: post ∧
      C.appendRows s pre = (.ok (), C.setRows s (C.rows s ++ pre.map Value.norm)) ∧
      C.appendRow (C.setRows s (C.rows s ++ pre.map Value.norm)) y =
        (.err e, C.setRows s (C.rows s ++ pre.map Value.norm)) ∧
      (C.append s x).2 = C.setRows s (C.rows s ++ pre.map Value.norm) := by
  cases x
  case slice sl =>
    obtain ⟨h2, h1⟩ := C.append_slice s sl
    rw [h, C.appendRows_eq] at h1
    obtain ⟨pre, y, post, hsl, hpre, hy, hrows⟩ := forEach_appendRow_err _ _ _ h1.symm
    refine .inr ⟨sl, pre, y, post, rfl, hsl, ?_, ?_, ?_⟩
    · rw [C.appendRows_eq, hpre]
    · rw [Col.appendRow, C.rows_setRows, hy, C.setRows_setRows]
    · rw [h2, C.appendRows_eq, hrows]
  all_goals exact .inl ⟨fun _ => nofun, rfl⟩

end Col

theorem Date.appendRow_err {s : Date} {x : Value} {e : Error} (h : (s.appendRow x).1 = .err e) :
    (s.appendRow x).2 = s :=
  Col.appendRow_err Date.asCol h

theorem DateTime.appendRow_err {s : DateTime} {x : Value} {e : Error}
    (h : (s.appendRow x).1 = .err e) : (s.appendRow x).2 = s :=
  Col.appendRow_err DateTime.asCol h

theorem Date.append_err {s : Date} {x : Value} {e : Error} (h : (s.append x).1 = .err e) :
    ((∀ sl, x ≠ .slice sl) ∧ (s.append x).2 = s) ∨
    ∃ sl pre y post, x = .slice sl ∧ sl.rows = pre ++ y :: post ∧
      s.appendRows pre = (.ok (), { s with col := s.col ++ pre.map Value.norm }) ∧
      ({ s with col := s.col ++ pre.map Value.norm } : Date).appendRow y =
        (.err e, { s with col := s.col ++ pre.map Value.norm }) ∧
      (s.append x).2 = { s with col := s.col ++ pre.map Value.norm } := by
  rw [Date.append_eq_col] at h ⊢
  exact Col.append_err Date.asCol h

theorem DateTime.append_err {s : DateTime} {x : Value} {e : Error} (h : (s.append x).1 = .err e) :
    ((∀ sl, x ≠ .slice sl) ∧ (s.append x).2 = s) ∨
    ∃ sl pre y post, x = .slice sl ∧ sl.rows = pre ++ y :: post ∧
      s.appendRows pre =
        (.ok (), { s with col := { s.col with data := s.col.data ++ pre.map Value.norm } }) ∧
      ({ s with col := { s.col with data := s.col.data ++ pre.map Value.norm } } : DateTime).appendRow y =
        (.err e, { s with col := { s.col with data := s.col.data ++ pre.map Value.norm } }) ∧
      (s.append x).2 = { s with col := { s.col with data := s.col.data ++ pre.map Value.norm } } := by
  rw [DateTime.append_eq_col] at h ⊢
  exact Col.append_err DateTime.asCol h

/-- A failed `AppendRow` leaves the column as it was. A failed `Append` leaves it as it was
on an input that is not a slice; on a slice it keeps every row it had and, after them,
the instants of the elements before the first one `AppendRow` rejects: no rollback. -/
theorem failed_append_keeps_earlier_rows :
    (∀ (s : Date) (x : Value) (e : Error), (s.appendRow x).1 = .err e → (s.appendRow x).2 = s) ∧
    (∀ (s : DateTime) (x : Value) (e : Error), (s.appendRow x).1 = .err e → (s.appendRow x).2 = s) ∧
    (∀ (s : Date) (x : Value) (e : Error), (s.append x).1 = .err e →
      ((∀ sl, x ≠ .slice sl) ∧ (s.append x).2 = s) ∨
      ∃ sl pre y post, x = .slice sl ∧ sl.rows = pre ++ y :: post ∧
        s.appendRows pre = (.ok (), { s with col := s.col ++ pre.map Value.norm }) ∧
        ({ s with col := s.col ++ pre.map Value.norm } : Date).appendRow y =
          (.err e, { s with col := s.col ++ pre.map Value.norm }) ∧
        (s.append x).2 = { s with col := s.col ++ pre.map Value.norm }) ∧
    (∀ (s : DateTime) (x : Value) (e : Error), (s.append x).1 = .err e →
      ((∀ sl, x ≠ .slice sl) ∧ (s.append x).2 = s) ∨
      ∃ sl pre y post, x = .slice sl ∧ sl.rows = pre ++ y :: post ∧
        s.appendRows pre =
          (.ok (), { s with col := { s.col with data := s.col.data ++ pre.map Value.norm } }) ∧
        ({ s with col := { s.col with data := s.col.data ++ pre.map Value.norm } } : DateTime).appendRow y =
          (.err e, { s with col := { s.col with data := s.col.data ++ pre.map Value.norm } }) ∧
        (s.append x).2 = { s with col := { s.col with data := s.col.data ++ pre.map Value.norm } }) :=
  ⟨fun _ _ _ => Date.appendRow_err, fun _ _ _ => DateTime.appendRow_err,
    fun _ _ _ => Date.append_err, fun _ _ _ => DateTime.append_err⟩

/-- `1970-01-01` is kept although the slice is rejected at the next element. -/
theorem a_rejected_slice_keeps_its_first_row :
    Date.append ⟨[], "Col"⟩ (.slice (.times [minDate, ⟨-1, 0⟩])) =
      (.err (.dateOverflow minDate maxDate ⟨-1, 0⟩ "2006-01-02"), ⟨[minDate], "Col"⟩) := by
  decide

/-! ## (3) The null indicator -/

/-- Where the indicator departs from one flag per element, 1 exactly at the nulls:
`Date`'s `[]time.Time` case returns `nil`, where `DateTime`'s allocates; an invalid
`sql.NullTime`, bare or behind a pointer, is flagged 0; a `nil` `*sql.NullTime` is
dereferenced by `AppendRow` and panics. -/
theorem append_null_indicator_diverges (s : Date) (s' : DateTime) :
    (s.append (.slice (.times [minDate]))).1 = .ok [] ∧
    (s'.append (.slice (.times [minDateTime]))).1 = .ok [0] ∧
    (s.append (.slice (.nullTimes [⟨minDate, false⟩]))).1 = .ok [0] ∧
    (s'.append (.slice (.nullTimes [⟨minDateTime, false⟩]))).1 = .ok [0] ∧
    (s.append (.slice (.nullTimePtrs [some ⟨minDate, false⟩]))).1 = .ok [0] ∧
    (s'.append (.slice (.nullTimePtrs [some ⟨minDateTime, false⟩]))).1 = .ok [0] ∧
    (s.append (.slice (.nullTimePtrs [none]))).1 = .panic ∧
    (s'.append (.slice (.nullTimePtrs [none]))).1 = .panic :=
  ⟨rfl, rfl, rfl, rfl, rfl, rfl, rfl, rfl⟩

/-- Flags that are 1 only where the element is null, one per element. -/
def FlagsNulls (nulls : List UInt8) (vs : List Value) : Prop :=
  List.Forall₂ (fun n v => n = 1 → v.isNull = true) nulls vs

theorem flagsNulls_map {α : Type} (v : List α) (f : α → UInt8) (g : α → Value)
    (hf : ∀ a, f a = 1 → (g a).isNull = true) : FlagsNulls (v.map f) (v.map g) := by
  rw [FlagsNulls, List.forall₂_map_left_iff, List.forall₂_map_right_iff, List.forall₂_same]
  exact fun a _ => hf a

theorem flagsNulls_zeros {α : Type} (v : List α) (g : α → Value) :
    FlagsNulls (List.replicate v.length 0) (v.map g) := by
  rw [← List.map_const']
  exact flagsNulls_map v _ g fun _ h => absurd (show (0 : UInt8) = 1 from h) (by decide)

theorem flagsNulls_nilFlags {α : Type} (w : List (Option α)) (g : Option α → Value)
    (hg : (g none).isNull = true) : FlagsNulls (nilFlags w) (w.map g) :=
  flagsNulls_map w _ g fun p h => by
    cases p
    · exact hg
    · exact absurd (show (0 : UInt8) = 1 from h) (by decide)

theorem Col.append_ok_flagsNulls {σ : Type} (C : Col σ) {s : σ} {sl : Slice} {nulls : List UInt8}
    (h : (C.append s (.slice sl)).1 = .ok nulls)
    (hT : ∀ v, sl = .times v → FlagsNulls (C.timesNulls v) (Slice.times v).rows) :
    FlagsNulls nulls sl.rows := by
  cases sl <;> simp only [Col.append, Col.finish, Outcome.map_const_eq_ok] at h <;> rw [← h.2]
  case times v => exact hT v rfl
  case timePtrs w => exact flagsNulls_nilFlags w .timePtr rfl
  case nullTimes v => exact flagsNulls_zeros v .nullTime
  case nullTimePtrs w => exact flagsNulls_nilFlags w .nullTimePtr rfl

theorem DateTime.append_ok_flagsNulls {s : DateTime} {sl : Slice} {nulls : List UInt8}
    (h : (s.append (.slice sl)).1 = .ok nulls) : FlagsNulls nulls sl.rows := by
  rw [DateTime.append_eq_col] at h
  exact Col.append_ok_flagsNulls DateTime.asCol h fun v _ => flagsNulls_zeros v .time

theorem Date.append_ok_flagsNulls {s : Date} {sl : Slice} {nulls : List UInt8}
    (h : (s.append (.slice sl)).1 = .ok nulls) (hne : ∀ v, sl ≠ .times v) :
    FlagsNulls nulls sl.rows := by
  rw [Date.append_eq_col] at h
  exact Col.append_ok_flagsNulls Date.asCol h fun v hv => absurd hv (hne v)

/-- One flag per element, 1 only at a null element, and as many new rows as flags: on every
slice shape of `DateTime`, and on every shape of `Date` but `[]time.Time`. -/
theorem append_nulls_flag_only_nulls (sl : Slice) :
    (∀ (s : DateTime) (nulls : List UInt8), (s.append (.slice sl)).1 = .ok nulls →
      FlagsNulls nulls sl.rows ∧ (s.append (.slice sl)).2.rows = s.rows + nulls.length) ∧
    (∀ (s : Date) (nulls : List UInt8), (s.append (.slice sl)).1 = .ok nulls →
      (∀ v, sl ≠ .times v) →
      FlagsNulls nulls sl.rows ∧ (s.append (.slice sl)).2.rows = s.rows + nulls.length) := by
  refine ⟨fun s nulls h => ?_, fun s nulls h hne => ?_⟩
  · have hf := DateTime.append_ok_flagsNulls h
    exact ⟨hf, by simp [DateTime.rows, DateTime.append_ok_data s sl h, hf.length_eq]⟩
  · have hf := Date.append_ok_flagsNulls h hne
    exact ⟨hf, by simp [Date.rows, Date.append_ok_col s sl h, hf.length_eq]⟩

end ClickHouseGo.Column
