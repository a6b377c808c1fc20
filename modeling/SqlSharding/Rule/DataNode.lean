import SqlSharding.Text.Blank

/-!
# Data nodes

A data node is a physical table in a data source, written `ds_0.t_order_0`.
-/

namespace SqlSharding

/-- A physical table in a data source. -/
structure DataNode where
  source : String
  table : String
  deriving DecidableEq

namespace DataNode

/-- The written form. -/
def render (node : DataNode) : String :=
  node.source ++ "." ++ node.table

/-- The two parts around the first dot of a text; neither may be empty, and the second may hold no
further dot. -/
def split? (characters : List Char) : Option (List Char × List Char) :=
  match characters.dropWhile (· != '.') with
  | [] => none
  | _ :: table =>
    let source := characters.takeWhile (· != '.')
    if source.isEmpty || table.isEmpty || table.contains '.' then none else some (source, table)

/-- The data node that a text names; blanks around the text do not count. -/
def ofText? (text : String) : Option DataNode :=
  (split? (Text.trimChars text.toList)).map fun (source, table) =>
    ⟨String.ofList source, String.ofList table⟩

/-- What is wrong with a text that names no data node. -/
def refusal (text : String) : String :=
  "Invalid data node '" ++ text ++ "', expected <data_source>.<table>"

end DataNode

end SqlSharding
