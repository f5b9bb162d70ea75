import BoundSelect.Clause
import BoundSelect.Document.Record

set_option autoImplicit false

namespace BoundSelect.Document

structure OrderByForm where
  column : String := ""
  direction : String := ""

structure JoinForm where
  table : Option String := none
  tableAlias : Option String := none
  side : Option String := none
  conditions : Option Json := none

structure UnionForm where
  kind : Option String := none
  table : Option String := none
  tableAlias : Option String := none
  columns : Option (List String) := none
  columnsAlias : Option String := none

structure StatementForm where
  table : Option String := none
  columns : Option (List String) := none
  options : List Json := []
  orderBy : Option OrderByForm := none
  limit : Option Limit := none
  recursionName : Option String := none
  recursionOrderBy : Option OrderByForm := none
  recursionLimit : Option Limit := none

private def optionalText {α : Type} (name : String) (set : Option String → α → α)
    (otherName : Option String := none) : Field α where
  name
  otherName
  read j := set <$> readOptional readText j

private def optionalTexts {α : Type} (name : String) (set : Option (List String) → α → α) :
    Field α where
  name
  read j := set <$> readOptional (readItemsOf readText) j

private def optionalRecord {α β : Type} (name : String) (r : Record β) (set : Option β → α → α)
    (otherName : Option String := none) : Field α where
  name
  otherName
  read j := set <$> readOptional r.read j

def orderByRecord : Record OrderByForm where
  title := "RawOrderBy"
  blank := {}
  fields := [
    { name := "column", required := true
      read j := (fun s form => { form with column := s }) <$> readText j },
    { name := "direction"
      read j := (fun s form => { form with direction := s }) <$> readText j }]

def limitRecord : Record Limit where
  title := "RawLimit"
  blank := { limit := 0 }
  fields := [
    { name := "limit", required := true
      read j := (fun n form => { form with limit := n }) <$> readUInt64 j },
    { name := "offset"
      read j := (fun n form => { form with offset := n }) <$> readOptional readUInt64 j }]

def joinRecord : Record JoinForm where
  title := "RawJoin"
  blank := {}
  fields := [
    optionalText "table" fun s form => { form with table := s },
    optionalText "alias" fun s form => { form with tableAlias := s },
    optionalText "side" fun s form => { form with side := s },
    { name := "conditions"
      read j := (fun body form => { form with conditions := body }) <$> readOptional .ok j }]

def unionRecord : Record UnionForm where
  title := "RawUnion"
  blank := {}
  fields := [
    optionalText "type" fun s form => { form with kind := s },
    optionalText "table" fun s form => { form with table := s },
    optionalText "alias" fun s form => { form with tableAlias := s },
    optionalTexts "columns" fun columns form => { form with columns },
    optionalText "columns_alias" (fun s form => { form with columnsAlias := s })
      (some "columnsAlias")]

def statementRecord : Record StatementForm where
  title := "RawStatement"
  blank := {}
  fields := [
    optionalText "table" fun s form => { form with table := s },
    optionalTexts "columns" fun columns form => { form with columns },
    { name := "options"
      read j := (fun options form => { form with options }) <$> readItemsOf .ok j },
    optionalRecord "order_by" orderByRecord (fun orderBy form => { form with orderBy })
      (some "orderBy"),
    optionalRecord "limit" limitRecord fun limit form => { form with limit },
    optionalText "recursion_name" (fun s form => { form with recursionName := s })
      (some "recursionName"),
    optionalRecord "recursion_order_by" orderByRecord
      (fun recursionOrderBy form => { form with recursionOrderBy }) (some "recursionOrderBy"),
    optionalRecord "recursion_limit" limitRecord
      (fun recursionLimit form => { form with recursionLimit }) (some "recursionLimit")]

-- A blank text counts as one that is left out.
def unlessBlank (s : Option String) : Option String := s.filter fun s => !Text.isAllBlank s

end BoundSelect.Document
