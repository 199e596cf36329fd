/-
  ClickHouseGo.Column.Date — `lib/column/date.go`: the `Date` codec over ch-go's
  `proto.ColDate`, modelled as the list of instants the code hands to `col.col.Append`,
  in order. ch-go stores each as a day and reads it back as a `time.Time`; that round
  trip is not in this repository and is the parameter `read` of `row` and `scanRow`.

  `AppendRow`, `ScanRow` and the `[]*time.Time`, `[]sql.NullTime` and `[]*sql.NullTime`
  loops of `Append` are the shared ones of `Codec` at `dateCodec`. The `[]time.Time`
  case of `Append` is `Date`'s own: it never allocates `nulls` and returns `nil`.
-/

import ClickHouseGo.Column.Codec

namespace ClickHouseGo.Column

/-- `time.Parse("2006-01-02 15:04:05", "1970-01-01 00:00:00")` -/
def minDate : Time := ⟨0, 0⟩

/-- `time.Parse("2006-01-02 15:04:05", "2106-01-01 00:00:00")` -/
def maxDate : Time := ⟨4291747200, 0⟩

def dateCodec : Codec := ⟨minDate, maxDate, "2006-01-02", "Date"⟩

/-- `col`: the instants handed to `col.col.Append` since the last `Reset`, not ch-go's
stored days. -/
structure Date where
  col : List Time
  name : String
  deriving DecidableEq, Repr

namespace Date

def reset (col : Date) : Date := { col with col := [] }

def type (_ : Date) : String := "Date"

def rows (col : Date) : Nat := col.col.length

/-- `Row(i, ptr)`; `read` is `proto.ColDate`'s round trip of an appended instant. -/
def row (read : Time → Time) (col : Date) (i : Int) (ptr : Bool) : Outcome Value :=
  Column.row read col.col i ptr

def scanRow (read : Time → Time) (col : Date) (dest : Dest) (row : Int) : Outcome Value :=
  Column.scanRow read "Date" col.col dest row

/-- `Append`'s return: the loop's outcome carrying `nulls`, the loop's rows as `col.col`. -/
def finish (col : Date) (nulls : List UInt8) (r : Outcome Unit × List Time) :
    Outcome (List UInt8) × Date :=
  (r.1.map fun _ => nulls, { col with col := r.2 })

def append (col : Date) : Value → Outcome (List UInt8) × Date
  | .slice (.times v) => col.finish [] (forEach (checked dateCodec) col.col v)
  | .slice (.timePtrs v) => col.finish (nilFlags v) (forEach (timePtrRow dateCodec) col.col v)
  | .slice (.nullTimes v) =>
    col.finish (List.replicate v.length 0)
      (forEach (fun rows n => dropErr (Column.appendRow dateCodec rows (.nullTime n))) col.col v)
  | .slice (.nullTimePtrs v) =>
    col.finish (nilFlags v)
      (forEach (fun rows p => dropErr (Column.appendRow dateCodec rows (.nullTimePtr p))) col.col v)
  | v => (.err (.converter "Append" "Date" v.typeName), col)

def appendRow (col : Date) (v : Value) : Outcome Unit × Date :=
  ((Column.appendRow dateCodec col.col v).1, { col with col := (Column.appendRow dateCodec col.col v).2 })

/-- The row path: `AppendRow` on each value in order, stopping at the first call that
does not return normally. -/
def appendRows (col : Date) (vs : List Value) : Outcome Unit × Date := forEach appendRow col vs

end Date

end ClickHouseGo.Column
