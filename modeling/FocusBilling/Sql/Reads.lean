import FocusBilling.Sql.Expression

/-!
# The names that SQL reads

* `Sql.Expr.paths`, `Sql.Query.paths`, `Sql.Statement.paths` : the columns that are read, by all
  parts of their names, each time they are read, in the order of visit: of a query its tables before
  its conditions, of a choice its operand, its conditions, its results and its default;
* `Sql.Expr.reads`, `Sql.Query.reads`, `Sql.Statement.reads` : their last parts, the names of the
  columns themselves.
-/

namespace FocusBilling.Sql

mutual

/-- The columns that an expression reads. -/
def Expr.paths : Expr → List (List Name)
  | .column path => [path]
  | .value _ | .introduced _ _ | .star | .starOf _ | .typed _ _ | .matchAgainst _ _ _ => []
  | .unary _ a | .nested a | .isTest _ _ a | .cast _ a _ _ | .convert _ a _ _ | .extract _ _ a
  | .rounding _ a _ | .collate a _ | .interval a _ _ _ _ | .named a _ | .member a _ | .prior a =>
    a.paths
  | .binary _ a b | .quantified _ _ _ a b | .isDistinct _ a b | .inArray _ a b | .like _ _ _ a b _
  | .regexp _ _ a b | .atZone a b | .position a b | .index a b => a.paths ++ b.paths
  | .between _ a b c => a.paths ++ (b.paths ++ c.paths)
  | .tuple xs | .array _ xs | .struct _ _ xs | .record _ xs | .map xs | .groupingSets _ xs =>
    pathsAll xs
  | .inList _ a xs => a.paths ++ pathsAll xs
  | .inQuery _ a q => a.paths ++ q.paths
  | .cases a b c d => pathsOption a ++ (pathsAll b ++ (pathsAll c ++ pathsOption d))
  | .substring a b c _ => a.paths ++ (pathsOption b ++ pathsOption c)
  | .trim a _ b c => a.paths ++ (pathsOption b ++ pathsAll c)
  | .overlay a b c d => a.paths ++ (b.paths ++ (c.paths ++ pathsOption d))
  | .call c => c.paths
  | .exists _ q | .subquery q => q.paths
  | .slice a b c d => a.paths ++ (pathsOption b ++ (pathsOption c ++ pathsOption d))

/-- The columns that expressions read, one after another. -/
def pathsAll : List Expr → List (List Name)
  | [] => []
  | x :: xs => x.paths ++ pathsAll xs

/-- The columns that an expression reads, if it is there. -/
def pathsOption : Option Expr → List (List Name)
  | none => []
  | some x => x.paths

/-- The columns that a call reads. -/
def Call.paths : Call → List (List Name)
  | ⟨_, parameters, arguments, argumentOrder, clauses, partition, order, frame, within⟩ =>
    pathsAll parameters ++ (pathsAll arguments ++ (pathsKeys argumentOrder ++ (pathsAll clauses ++
      (pathsAll partition ++ (pathsKeys order ++ (pathsAll frame ++ pathsKeys within))))))

/-- The columns that keys of an order read. -/
def pathsKeys : List OrderKey → List (List Name)
  | [] => []
  | ⟨x, _, _, fill⟩ :: ks => x.paths ++ (pathsAll fill ++ pathsKeys ks)

/-- The columns that a query reads. -/
def Query.paths : Query → List (List Name)
  | ⟨_, _, named, body, orderBy, interpolated, limit, limitBy, offset⟩ =>
    pathsQueries named ++ (body.paths ++ (pathsKeys orderBy ++ (pathsAll interpolated ++
      (pathsOption limit ++ (pathsAll limitBy ++ pathsOption offset)))))

/-- The columns that queries read, one after another. -/
def pathsQueries : List Query → List (List Name)
  | [] => []
  | q :: qs => q.paths ++ pathsQueries qs

/-- The columns that a body reads. -/
def Body.paths : Body → List (List Name)
  | .select s => s.paths
  | .nested q => q.paths
  | .setOperation _ _ a b => a.paths ++ b.paths
  | .rows _ xs | .change xs => pathsAll xs
  | .table _ => []

/-- The columns that a `SELECT` reads. -/
def Select.paths : Select → List (List Name)
  | ⟨_, distinctKeys, top, items, tables, views, prewhere, filter, _, _, groupKeys, layout, having,
      windows, qualify, hierarchy⟩ =>
    pathsAll distinctKeys ++ (pathsOption top ++ (pathsItems items ++ (pathsJoins tables ++
      (pathsAll views ++ (pathsOption prewhere ++ (pathsOption filter ++ (pathsAll groupKeys ++
        (pathsAll layout ++ (pathsOption having ++ (pathsAll windows ++
          (pathsOption qualify ++ pathsAll hierarchy)))))))))))

/-- The columns that the list of columns reads. -/
def pathsItems : List SelectItem → List (List Name)
  | [] => []
  | .expr x _ :: is => x.paths ++ pathsItems is
  | .wildcard _ xs :: is => pathsAll xs ++ pathsItems is

/-- The columns that a table reads. -/
def Relation.paths : Relation → List (List Name)
  | .table _ _ => []
  | .function _ xs _ | .unnest xs _ _ => pathsAll xs
  | .derived _ q _ => q.paths
  | .joined ts _ => pathsJoins ts
  | .composed ts xs qs _ => pathsJoins ts ++ (pathsAll xs ++ pathsQueries qs)

/-- The columns that tables read, with the conditions under which they are joined. -/
def pathsJoins : List Join → List (List Name)
  | [] => []
  | ⟨_, r, _, xs⟩ :: js => r.paths ++ (pathsAll xs ++ pathsJoins js)

end

/-- The columns that a statement reads. -/
def Statement.paths : Statement → List (List Name)
  | .query q => q.paths
  | .delete tables _ filter parts => pathsJoins tables ++ (pathsOption filter ++ pathsAll parts)
  | .createAs _ _ q parts => pathsAll parts ++ q.paths
  | .explain s options => s.paths ++ pathsAll options
  | .prepare s => s.paths
  | .other parts | .showTables parts | .truncate _ parts => pathsAll parts
  | .dropTables _ _ | .describe _ => []

/-- The names of columns themselves, without the tables in front of them. -/
def lastNames (paths : List (List Name)) : List String :=
  paths.filterMap fun path => path.getLast?.map (·.text)

/-- The names that an expression reads. -/
def Expr.reads (e : Expr) : List String := lastNames e.paths

/-- The names that a query reads. -/
def Query.reads (q : Query) : List String := lastNames q.paths

/-- The names that a statement reads. -/
def Statement.reads (s : Statement) : List String := lastNames s.paths

end FocusBilling.Sql
