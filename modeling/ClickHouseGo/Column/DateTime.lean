/-
  ClickHouseGo.Column.DateTime — `lib/column/datetime.go`: the `DateTime` codec over
  ch-go's `proto.ColDateTime`, modelled as its `Location` and the list of instants the
  code hands to `col.col.Append`, in order. ch-go stores each as a second and reads it
  back as a `time.Time`; that round trip is the parameter `read` of `row` and `scanRow`.

  `parse` reads the zone name out of `DateTime('name')` by removing the prefix and the
  suffix independently, and hands it to `timezone.Load` (not in the source; the
  parameter `load`). `AppendRow`, `ScanRow` and the loops of `Append` are the shared
  ones of `Codec` at `dateTimeCodec`; unlike `Date`, the `[]time.Time` case of `Append`
  returns `make([]uint8, len(v))`.
-/

import ClickHouseGo.Column.Codec

namespace ClickHouseGo.Column

/-- `time.Parse("2006-01-02 15:04:05", "1970-01-01 00:00:00")` -/
def minDateTime : Time := ⟨0, 0⟩

/-- `time.Parse("2006-01-02 15:04:05", "2105-12-31 23:59:59")` -/
def maxDateTime : Time := ⟨4291747199, 0⟩

def dateTimeCodec : Codec := ⟨minDateTime, maxDateTime, "2006-01-02 15:04:05", "DateTime"⟩

/-- `proto.ColDateTime`: `data` are the instants handed to `col.col.Append` since the last
`Reset`, not ch-go's stored seconds. -/
structure ColDateTime where
  data : List Time
  location : Option Location
  deriving DecidableEq, Repr

structure DateTime where
  chType : String
  name : String
  col : ColDateTime
  deriving DecidableEq, Repr

namespace DateTime

def reset (col : DateTime) : DateTime := { col with col := { col.col with data := [] } }

/-- The zone name `parse` loads for a type string other than `DateTime`. -/
def zoneName (t : String) : String := trimSuffix (trimPrefix t "DateTime('") "')"

def parse {ε : Type} (load : String → Except ε Location) (col : DateTime) (t : String) :
    Except ε DateTime :=
  if t = "DateTime" then .ok { col with chType := t }
  else
    match load (zoneName t) with
    | .error e => .error e
    | .ok l => .ok { col with chType := t, col := { col.col with location := some l } }

def type (col : DateTime) : String := col.chType

def rows (col : DateTime) : Nat := col.col.data.length

/-- `Row(i, ptr)`; `read` is `proto.ColDateTime`'s round trip of an appended instant
(`Row` returns it `In` the column's location, the same instant). -/
def row (read : Time → Time) (col : DateTime) (i : Int) (ptr : Bool) : Outcome Value :=
  Column.row read col.col.data i ptr

def scanRow (read : Time → Time) (col : DateTime) (dest : Dest) (row : Int) : Outcome Value :=
  Column.scanRow read "DateTime" col.col.data dest row

/-- `Append`'s return: the loop's outcome carrying `nulls`, the loop's rows as `col.col`'s. -/
def finish (col : DateTime) (nulls : List UInt8) (r : Outcome Unit × List Time) :
    Outcome (List UInt8) × DateTime :=
  (r.1.map fun _ => nulls, { col with col := { col.col with data := r.2 } })

def append (col : DateTime) : Value → Outcome (List UInt8) × DateTime
  | .slice (.times v) =>
    col.finish (List.replicate v.length 0) (forEach (checked dateTimeCodec) col.col.data v)
  | .slice (.timePtrs v) =>
    col.finish (nilFlags v) (forEach (timePtrRow dateTimeCodec) col.col.data v)
  | .slice (.nullTimes v) =>
    col.finish (List.replicate v.length 0)
      (forEach (fun rows n => dropErr (Column.appendRow dateTimeCodec rows (.nullTime n)))
        col.col.data v)
  | .slice (.nullTimePtrs v) =>
    col.finish (nilFlags v)
      (forEach (fun rows p => dropErr (Column.appendRow dateTimeCodec rows (.nullTimePtr p)))
        col.col.data v)
  | v => (.err (.converter "Append" "DateTime" v.typeName), col)

def appendRow (col : DateTime) (v : Value) : Outcome Unit × DateTime :=
  ((Column.appendRow dateTimeCodec col.col.data v).1,
    { col with col := { col.col with data := (Column.appendRow dateTimeCodec col.col.data v).2 } })

/-- The row path: `AppendRow` on each value in order, stopping at the first call that
does not return normally. -/
def appendRows (col : DateTime) (vs : List Value) : Outcome Unit × DateTime :=
  forEach appendRow col vs

end DateTime

end ClickHouseGo.Column
