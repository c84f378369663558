-- What the service tells about a table: its columns, nested to any depth, and its number of
-- rows. Never its rows.
import WarehouseJobs.Table.Reference

namespace WarehouseJobs

/-- A column. Only a column of records has columns of its own. -/
inductive TableField where
  | mk (name : String) (type : String) (mode : Option String) (fields : List TableField)
deriving Repr

namespace TableField

def name : TableField → String
  | mk name _ _ _ => name

def type : TableField → String
  | mk _ type _ _ => type

/-- `NULLABLE`, `REQUIRED` or `REPEATED`, if the service says so. -/
def mode : TableField → Option String
  | mk _ _ mode _ => mode

def fields : TableField → List TableField
  | mk _ _ _ fields => fields

end TableField

structure TableSchema where
  fields : List TableField
deriving Repr

structure Table where
  reference : TableReference
  schema : Option TableSchema
  rows : Option UInt64
deriving Repr

end WarehouseJobs
