import ClickHouseGo.Column.Base
import ClickHouseGo.Column.Codec
import ClickHouseGo.Column.Date
import ClickHouseGo.Column.DateTime
import ClickHouseGo.Column.Shared
import ClickHouseGo.Column.AppendProofs
import ClickHouseGo.Column.RangeProofs
import ClickHouseGo.Column.ParseProofs
import ClickHouseGo.Column.Log
import ClickHouseGo.Column.LogProofs
import ClickHouseGo.Column.BatchProofs
