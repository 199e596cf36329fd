/-
  ClickHouseGo.Column.Shared — `Date` and `DateTime` as the code they share sees them.

  Both codecs run the same `AppendRow` body and the same loops of `Append` over their
  `proto` buffer. They differ in their `Codec` (range, layout, type name), in where the
  buffer sits in the column (`rows`, replaced by `setRows`), and in the indicator the
  `[]time.Time` case of `Append` returns (`timesNulls`: `nil` for `Date`, zeros for
  `DateTime`). `Col σ` holds these for a column type `σ`; `Col.append` and
  `Col.appendRow` are the two bodies over it.

  - `Date.append_eq_col` / `DateTime.append_eq_col`: each codec's own `Append` is
    `Col.append` at its values (`Date.asCol`, `DateTime.asCol`); its `AppendRow` is
    `Col.appendRow` by definition.
  - `Col.appendRows_eq`: the loop of `AppendRow`s on a column is the shared loop on its
    rows.
  The lemmas of the proof modules are proved once over `Col` and instantiated.
-/

import ClickHouseGo.Column.Date
import ClickHouseGo.Column.DateTime

namespace ClickHouseGo.Column

/-- A codec's column type `σ` as the shared code sees it: its codec, its rows (a lens onto
the `proto` buffer, with its three laws) and the indicator of its `[]time.Time` case. -/
structure Col (σ : Type) where
  codec : Codec
  rows : σ → List Time
  setRows : σ → List Time → σ
  timesNulls : List Time → List UInt8
  rows_setRows : ∀ s r, rows (setRows s r) = r
  setRows_setRows : ∀ s r r', setRows (setRows s r) r' = setRows s r'
  setRows_rows : ∀ s, setRows s (rows s) = s

namespace Col

variable {σ : Type} (C : Col σ)

/-- `Append`'s return: the loop's outcome carrying `nulls`, the loop's rows as the buffer. -/
def finish (s : σ) (nulls : List UInt8) (r : Outcome Unit × List Time) :
    Outcome (List UInt8) × σ :=
  (r.1.map fun _ => nulls, C.setRows s r.2)

def append (s : σ) : Value → Outcome (List UInt8) × σ
  | .slice (.times v) => C.finish s (C.timesNulls v) (forEach (checked C.codec) (C.rows s) v)
  | .slice (.timePtrs v) => C.finish s (nilFlags v) (forEach (timePtrRow C.codec) (C.rows s) v)
  | .slice (.nullTimes v) =>
    C.finish s (List.replicate v.length 0)
      (forEach (fun rows n => dropErr (Column.appendRow C.codec rows (.nullTime n))) (C.rows s) v)
  | .slice (.nullTimePtrs v) =>
    C.finish s (nilFlags v)
      (forEach (fun rows p => dropErr (Column.appendRow C.codec rows (.nullTimePtr p)))
        (C.rows s) v)
  | v => (.err (.converter "Append" C.codec.name v.typeName), s)

def appendRow (s : σ) (v : Value) : Outcome Unit × σ :=
  ((Column.appendRow C.codec (C.rows s) v).1,
    C.setRows s (Column.appendRow C.codec (C.rows s) v).2)

def appendRows (s : σ) (vs : List Value) : Outcome Unit × σ := forEach C.appendRow s vs

theorem appendRows_eq (s : σ) (vs : List Value) :
    C.appendRows s vs =
      ((forEach (Column.appendRow C.codec) (C.rows s) vs).1,
        C.setRows s (forEach (Column.appendRow C.codec) (C.rows s) vs).2) :=
  forEach_lift C.rows C.setRows _ C.rows_setRows C.setRows_setRows C.setRows_rows s vs

end Col

def Date.asCol : Col Date :=
  ⟨dateCodec, Date.col, fun s r => { s with col := r }, fun _ => [],
    fun _ _ => rfl, fun _ _ _ => rfl, fun _ => rfl⟩

def DateTime.asCol : Col DateTime :=
  ⟨dateTimeCodec, fun s => s.col.data, fun s r => { s with col := { s.col with data := r } },
    fun v => List.replicate v.length 0, fun _ _ => rfl, fun _ _ _ => rfl, fun _ => rfl⟩

theorem Date.append_eq_col (s : Date) (v : Value) : s.append v = Date.asCol.append s v := by
  rcases v with _ | _ | _ | _ | (_ | _ | _ | _) | _ | _ <;> rfl

theorem DateTime.append_eq_col (s : DateTime) (v : Value) :
    s.append v = DateTime.asCol.append s v := by
  rcases v with _ | _ | _ | _ | (_ | _ | _ | _) | _ | _ <;> rfl

theorem Date.appendRows_eq (col : Date) (vs : List Value) :
    col.appendRows vs =
      ((forEach (Column.appendRow dateCodec) col.col vs).1,
        { col with col := (forEach (Column.appendRow dateCodec) col.col vs).2 }) :=
  Date.asCol.appendRows_eq col vs

theorem DateTime.appendRows_eq (col : DateTime) (vs : List Value) :
    col.appendRows vs =
      ((forEach (Column.appendRow dateTimeCodec) col.col.data vs).1,
        { col with col := { col.col with data :=
          (forEach (Column.appendRow dateTimeCodec) col.col.data vs).2 } }) :=
  DateTime.asCol.appendRows_eq col vs

end ClickHouseGo.Column
